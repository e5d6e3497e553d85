import Chip8.Proofs.Field
import Chip8.Proofs.Footprint
/-!
Where a program goes on. On the standard machine the program counter is exact: what goes round at
sixteen bits never does so there. Skips come in pairs, one of which is taken whatever the state.
-/

namespace Chip8

open Machine

variable {word other : Opcode} {pattern : Pattern} {address : Option Int} {machine done : Machine}

namespace Machine

def skipping (machine : Machine) : Machine := machine.withState machine.state.advance

theorem skipping_counter_ne (machine : Machine) :
    machine.skipping.state.pc ≠ machine.state.pc := by
  change (machine.state.pc + 2) % 0x10000 ≠ machine.state.pc
  omega

end Machine

namespace Effect

theorem skipIf_of_holds {condition : Registers → Bool} (holds : condition machine.state = true) :
    skipIf condition machine = .ok () machine.skipping := by
  rw [skipIf, mapRegisters_apply, holds]
  rfl

theorem skipIf_of_fails {condition : Registers → Bool} (fails : condition machine.state = false) :
    skipIf condition machine = .ok () machine := by
  rw [skipIf, mapRegisters_apply, fails]
  rfl

theorem skipIfKey_of_wanted {x : Fin 16} {down : Bool}
    (wanted : machine.bus.keyboard.isPressed (machine.state.get x) = .ok down) :
    skipIfKey x down machine = .ok () machine.skipping := by
  have taken : (skipIf fun _ => down == down) machine = .ok () machine.skipping :=
    skipIf_of_holds (beq_self_eq_true down)
  rw [skipIfKey, Action.bind_of_ok (Action.get_apply machine), wanted]
  exact taken

theorem skipIfKey_of_unwanted {x : Fin 16} {down : Bool}
    (unwanted : machine.bus.keyboard.isPressed (machine.state.get x) = .ok (!down)) :
    skipIfKey x down machine = .ok () machine := by
  have left : (skipIf fun _ => (!down) == down) machine = .ok () machine :=
    skipIf_of_fails (by cases down <;> rfl)
  rw [skipIfKey, Action.bind_of_ok (Action.get_apply machine), unwanted]
  exact left

end Effect

namespace Pattern

theorem effect_of_skips (skips : pattern.Skips word machine) :
    pattern.effect word address machine = .ok () machine.skipping := by
  cases pattern with
  | skipEqByte | skipEq => exact Effect.skipIf_of_holds (beq_iff_eq.mpr skips)
  | skipNeByte | skipNe => exact Effect.skipIf_of_holds (bne_iff_ne.mpr skips)
  | skipPressed | skipReleased => exact Effect.skipIfKey_of_wanted skips
  | _ => exact skips.elim

def opposite? : Pattern → Option Pattern
  | skipEqByte => some skipNeByte
  | skipNeByte => some skipEqByte
  | skipEq => some skipNe
  | skipNe => some skipEq
  | skipPressed => some skipReleased
  | skipReleased => some skipPressed
  | _ => none

def keyed : List Pattern := [skipPressed, skipReleased]

section Opposite

variable {opposite : Pattern} (opposed : pattern.opposite? = some opposite)

include opposed

theorem effect_of_opposite_skips (skips : opposite.Skips word machine) :
    pattern.effect word address machine = .ok () machine := by
  cases pattern with
  | skipEqByte | skipEq =>
      cases opposed
      exact Effect.skipIf_of_fails (beq_eq_false_iff_ne.mpr skips)
  | skipNeByte | skipNe =>
      cases opposed
      exact Effect.skipIf_of_fails (bne_eq_false_iff_eq.mpr skips)
  | skipPressed | skipReleased =>
      cases opposed
      exact Effect.skipIfKey_of_unwanted skips
  | _ => cases opposed

/-- One of two opposite conditions holds, provided that the key exists if there is one. -/
theorem skips_or_opposite (known : pattern ∈ keyed →
      0 ≤ machine.state.get word.x ∧ machine.state.get word.x ≤ 15) :
    pattern.Skips word machine ∨ opposite.Skips word machine := by
  have pressed (keyed : pattern ∈ keyed) :
      ∃ down, machine.bus.keyboard.isPressed (machine.state.get word.x) = .ok down := by
    obtain ⟨low, high⟩ := known keyed
    obtain ⟨down, found, -⟩ := Effect.skipIfKey_of_key word.x true low (by omega)
    exact ⟨down, found⟩
  cases pattern with
  | skipEqByte | skipEq =>
      cases opposed
      exact Classical.em _
  | skipNeByte | skipNe =>
      cases opposed
      exact (Classical.em _).symm
  | skipPressed =>
      cases opposed
      obtain ⟨down, found⟩ := pressed (by decide)
      cases down with
      | true => exact .inl found
      | false => exact .inr found
  | skipReleased =>
      cases opposed
      obtain ⟨down, found⟩ := pressed (by decide)
      cases down with
      | true => exact .inr found
      | false => exact .inl found
  | _ => cases opposed

theorem fields_of_opposite : opposite.fields = pattern.fields := by
  cases pattern <;> cases opposed <;> rfl

end Opposite

theorem skips_congr (same : pattern.SameFields word other) :
    pattern.Skips word machine ↔ pattern.Skips other machine := by
  have x (shown : .x ∈ pattern.fields) : word.x = other.x := Fin.ext (same .x shown)
  have y (shown : .y ∈ pattern.fields) : word.y = other.y := Fin.ext (same .y shown)
  have nn (shown : .nn ∈ pattern.fields) : word.nn = other.nn := same .nn shown
  cases pattern with
  | skipEqByte | skipNeByte => rw [Skips, Skips, x (by decide), nn (by decide)]
  | skipEq | skipNe => rw [Skips, Skips, x (by decide), y (by decide)]
  | skipPressed | skipReleased => rw [Skips, Skips, x (by decide)]
  | _ => exact Iff.rfl

/-- Opposite skips of the same operands, carried out on the same machine: one of them passes over
the next instruction, and the other does nothing. -/
theorem opposite_skips {opposite : Pattern} (opposed : pattern.opposite? = some opposite)
    (same : pattern.SameFields word other)
    (known : pattern ∈ keyed →
      0 ≤ machine.state.get word.x ∧ machine.state.get word.x ≤ 15)
    (address another : Option Int) :
    (pattern.effect word address machine = .ok () machine.skipping ∧
      opposite.effect other another machine = .ok () machine) ∨
    (pattern.effect word address machine = .ok () machine ∧
      opposite.effect other another machine = .ok () machine.skipping) := by
  have back : opposite.opposite? = some pattern := by
    cases pattern <;> cases opposed <;> rfl
  have sameToo : opposite.SameFields word other := by
    rw [SameFields, fields_of_opposite opposed]
    exact same
  cases skips_or_opposite opposed known with
  | inl skips =>
      have skipsToo := (skips_congr same).mp skips
      exact .inl ⟨effect_of_skips skips, effect_of_opposite_skips back skipsToo⟩
  | inr skips =>
      have skipsToo := (skips_congr sameToo).mp skips
      exact .inr ⟨effect_of_opposite_skips opposed skips, effect_of_skips skipsToo⟩

end Pattern

namespace Cpu

variable {cpu next : Cpu}

/-- Where the program goes on after an instruction, and what a return takes off the stack. -/
structure GoesOn (cpu : Cpu) (word : Opcode) (pattern : Pattern) (next : Cpu) : Prop where
  jump : pattern = .jump ∨ pattern = .call → next.state.pc = word.nnn
  offset : pattern = .jumpOffset →
    next.state.pc = word.nnn + cpu.state.get Registers.first
  back : pattern = .ret → cpu.state.stack = next.state.stack ++ [next.state.pc]
  skip : pattern.Skips word cpu.toCore → next.state.pc = cpu.fetchAddress + 4
  behind : pattern ∉ Pattern.jumps → ¬pattern.Skips word cpu.toCore →
    next.state.pc = cpu.fetchAddress + 2

theorem skips_fetched : pattern.Skips word cpu.fetched ↔ pattern.Skips word cpu.toCore := by
  rw [fetched_eq]
  cases pattern <;> rfl

/-- Neither going back to a wait nor passing over one or two instructions goes round. -/
theorem Valid.exact_counter (valid : Valid cpu) :
    (cpu.state.halted = true → cpu.state.rewind.pc = cpu.state.pc - 2) ∧
    ∀ word, cpu.bus.memory.readWord cpu.fetchAddress = .ok word →
      cpu.fetched.state.pc = cpu.fetchAddress + 2 ∧
      cpu.fetched.state.advance.pc = cpu.fetchAddress + 4 := by
  have fetching := valid.fetching_pc
  constructor
  · intro halted
    rw [Cpu.fetching, if_pos halted, fetchAddress, if_pos halted] at fetching
    exact fetching
  · intro word present
    rw [← fetching] at present
    obtain ⟨counter, low, high⟩ := valid.fetched_counter present
    rw [fetching] at counter
    have passed : cpu.fetched.state.advance.pc = (cpu.fetched.state.pc + 2) % 0x10000 := rfl
    rw [passed]
    omega

theorem Valid.goesOn (valid : Valid cpu) (fetches : cpu.Fetches word pattern)
    (executed : cpu.executing word pattern = .ok () next.toCore) :
    GoesOn cpu word pattern next := by
  have present := fetches.present
  rw [valid.fetching_pc] at present
  obtain ⟨behind, beyond⟩ := valid.exact_counter.2 word present
  refine ⟨?jump, ?offset, ?back, ?skip, ?behind⟩
  case jump =>
      rintro (rfl | rfl) <;> rw [← Action.after_of_ok executed] <;> rfl
  case offset =>
      rintro rfl
      rw [← Registers.get_congr cpu.fetched_numbered, ← Action.after_of_ok executed]
      rfl
  case back =>
      rintro rfl
      rw [← fetched_stack]
      cases List.eq_nil_or_concat cpu.fetched.state.stack with
      | inl empty => cases executed.symm.trans (Effect.ret_of_empty _ empty)
      | inr called =>
          obtain ⟨older, target, called⟩ := called
          rw [List.concat_eq_append] at called
          have popped := (Action.after_of_ok executed).symm.trans
            (Action.after_of_ok (Effect.ret_of_call _ called))
          rw [popped]
          exact called
  case skip =>
      intro skips
      have skipped := (Action.after_of_ok executed).symm.trans
        (Action.after_of_ok (Pattern.effect_of_skips (skips_fetched.mpr skips)))
      rw [skipped]
      exact beyond
  case behind =>
      intro straight fails
      cases Pattern.counter_cases executed with
      | inl on => exact on.trans behind
      | inr elsewhere =>
          cases elsewhere with
          | inl jumps => exact absurd jumps straight
          | inr skips => exact absurd (skips_fetched.mp skips.1) fails

/-- On the standard machine a step goes on at an address that can be told exactly: neither going
back to a wait nor passing over instructions goes round at sixteen bits. Of two opposite skips
exactly one is taken, on any machine, and nothing but the program counter changes. -/
theorem control_flow :
    (∀ cpu : Cpu, cpu.Reachable →
      ((cpu.state.halted = true → cpu.state.rewind.pc = cpu.state.pc - 2) ∧
        ∀ word, cpu.bus.memory.readWord cpu.fetchAddress = .ok word →
          cpu.fetched.state.pc = cpu.fetchAddress + 2 ∧
          cpu.fetched.state.advance.pc = cpu.fetchAddress + 4) ∧
      ∀ operation next, Cpu.step cpu = .ok operation next →
        ∃ word pattern, cpu.bus.memory.readWord cpu.fetchAddress = .ok word ∧
          Pattern.ofOpcode? word = some pattern ∧
          operation = .ofPattern pattern word (some cpu.fetchAddress) ∧
          GoesOn cpu word pattern next) ∧
    ∀ (machine : Machine) (pattern opposite : Pattern) (word other : Opcode)
      (address another : Option Int),
      pattern.opposite? = some opposite → pattern.SameFields word other →
      (pattern ∈ Pattern.keyed →
        0 ≤ machine.state.get word.x ∧ machine.state.get word.x ≤ 15) →
      machine.skipping.state.pc ≠ machine.state.pc ∧
      (((Operation.ofPattern pattern word address).execute machine = .ok () machine.skipping ∧
          (Operation.ofPattern opposite other another).execute machine = .ok () machine) ∨
        ((Operation.ofPattern pattern word address).execute machine = .ok () machine ∧
          (Operation.ofPattern opposite other another).execute machine =
            .ok () machine.skipping)) := by
  constructor
  · intro cpu reachable
    have valid := reachable.valid
    refine ⟨valid.exact_counter, fun operation next went => ?_⟩
    obtain ⟨word, pattern, fetches, executed, rfl, -⟩ := step_eq_ok went
    have goes := valid.goesOn fetches executed
    have present := fetches.present
    rw [valid.fetching_pc] at present ⊢
    exact ⟨word, pattern, present, fetches.decoded, rfl, goes⟩
  · intro machine pattern opposite word other address another opposed same known
    rw [execute_ofPattern, execute_ofPattern]
    exact ⟨machine.skipping_counter_ne,
      Pattern.opposite_skips opposed same known address another⟩

/-- A skip of the first register as it is at first, which is taken; and a skip for a key that is
down beside the one for a key that is up. -/
theorem control_flow_skips :
    (loaded [0x30, 0x00]).Reachable ∧
    (∃ operation next, Cpu.step (loaded [0x30, 0x00]) = .ok operation next ∧
      next.state.pc = 0x204) ∧
    (Operation.ofPattern .skipPressed 0xE09E none).execute ⟨{}, {}⟩ = .ok () ⟨{}, {}⟩ ∧
    (Operation.ofPattern .skipReleased 0xE0A1 none).execute ⟨{}, {}⟩ =
      .ok () (Machine.skipping ⟨{}, {}⟩) := by
  have reachable := loaded_reachable [0x30, 0x00]
  have fetches : (loaded [0x30, 0x00]).Fetches 0x3000 .skipEqByte :=
    fetches_of_loaded .default [0x30, 0x00] rfl (by decide) 0 (by decide) rfl rfl
  have skips : Pattern.skipEqByte.Skips 0x3000 (loaded [0x30, 0x00]).fetched := rfl
  have went := step_of_executed fetches (Pattern.effect_of_skips skips)
  obtain ⟨word, pattern, present, decoded, -, goes⟩ := (control_flow.1 _ reachable).2 _ _ went
  obtain ⟨rfl, rfl⟩ := fetches.unique ⟨present, decoded⟩
  have same : Pattern.skipPressed.SameFields 0xE09E 0xE0A1 := by
    intro part shown
    obtain rfl := List.mem_singleton.mp shown
    rfl
  have pair := (control_flow.2 ⟨{}, {}⟩ .skipPressed .skipReleased 0xE09E 0xE0A1 none none rfl
    same (by decide)).2
  have released : (Operation.ofPattern .skipPressed 0xE09E none).execute ⟨{}, {}⟩ =
      .ok () (⟨{}, {}⟩ : Machine) := by
    rw [execute_ofPattern]
    exact Effect.skipIfKey_of_unwanted rfl
  have taken := pair.resolve_left fun both => by
    have clash := (EStateM.Result.ok.inj (released.symm.trans both.1)).2
    exact Machine.skipping_counter_ne ⟨{}, {}⟩ (congrArg (fun done => done.state.pc) clash.symm)
  exact ⟨reachable, ⟨_, _, went, goes.skip rfl⟩, released, taken.2⟩

end Cpu

end Chip8
