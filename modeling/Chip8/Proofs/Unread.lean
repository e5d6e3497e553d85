import Chip8.Proofs.Host
import Chip8.Proofs.Replay

namespace Chip8

open Machine

namespace Part

def readers : Part → List Pattern
  | numbered =>
    [.skipEqByte, .skipNeByte, .skipEq, .skipNe, .skipPressed, .skipReleased, .addByte, .copy, .or,
     .and, .xor, .add, .sub, .shiftRight, .subFrom, .shiftLeft, .jumpOffset, .draw, .setDelay,
     .setSound, .addIndex, .loadGlyph, .storeDecimal, .save]
  | index => [.draw, .addIndex, .storeDecimal, .save, .restore]
  | counter =>
    [.call, .skipEqByte, .skipNeByte, .skipEq, .skipNe, .skipPressed, .skipReleased]
  | stack => [.call, .ret]
  | delay => [.readDelay]
  | sound | halted => []
  | memory => [.draw, .restore]
  | display => [.clear, .draw]
  | keyboard => [.skipPressed, .skipReleased, .waitKey]
  | random => [.random]

def inState : (part : Part) → part.Content → Registers → Registers
  | numbered, values, registers => { registers with v := values }
  | index, value, registers => { registers with i := value }
  | counter, value, registers => { registers with pc := value }
  | stack, entries, registers => { registers with stack := entries }
  | delay, value, registers => { registers with delayTimer := value }
  | sound, value, registers => { registers with soundTimer := value }
  | halted, value, registers => { registers with halted := value }
  | memory, _, registers | display, _, registers | keyboard, _, registers
  | random, _, registers => registers

def inBus : (part : Part) → part.Content → Bus → Bus
  | memory, cells, bus => { bus with memory := cells }
  | display, cells, bus => { bus with display := cells }
  | keyboard, keys, bus => { bus with keyboard := keys }
  | random, source, bus => { bus with random := source }
  | numbered, _, bus | index, _, bus | counter, _, bus | stack, _, bus | delay, _, bus
  | sound, _, bus | halted, _, bus => bus

def put (part : Part) (content : part.Content) (machine : Machine) : Machine :=
  ⟨part.inState content machine.state, part.inBus content machine.bus⟩

theorem put_content (part : Part) (machine : Machine) :
    part.put (part.content machine) machine = machine := by
  cases part <;> rfl

theorem content_put_of_other {part other : Part} (differs : other ≠ part) (content : part.Content)
    (machine : Machine) : other.content (part.put content machine) = other.content machine := by
  cases part <;> cases other <;> first
  | rfl
  | exact absurd rfl differs

theorem put_put (part : Part) (first second : part.Content) (machine : Machine) :
    part.put second (part.put first machine) = part.put second machine := by
  cases part <;> rfl

end Part

namespace Registers

variable {part : Part} {content : part.Content}

theorem get_inState (apart : .numbered ≠ part) (registers : Registers) (index : Fin 16) :
    (part.inState content registers).get index = registers.get index := by
  cases part <;> first
  | rfl
  | exact absurd rfl apart

theorem set_inState (apart : .numbered ≠ part) (registers : Registers) (index : Fin 16)
    (value : Int) :
    (part.inState content registers).set index value =
      part.inState content (registers.set index value) := by
  cases part <;> first
  | rfl
  | exact absurd rfl apart

theorem advance_inState (apart : .counter ≠ part) (registers : Registers) :
    (part.inState content registers).advance = part.inState content registers.advance := by
  cases part <;> first
  | rfl
  | exact absurd rfl apart

theorem rewind_inState (apart : .counter ≠ part) (registers : Registers) :
    (part.inState content registers).rewind = part.inState content registers.rewind := by
  cases part <;> first
  | rfl
  | exact absurd rfl apart

theorem skipIf_inState (apart : .counter ≠ part) (condition : Bool) (registers : Registers) :
    skipIf condition (part.inState content registers) =
      part.inState content (skipIf condition registers) := by
  rw [skipIf, skipIf]
  split
  next => exact advance_inState apart registers
  next => rfl

theorem fill_inState (apart : .numbered ≠ part) (memory : Memory) (address : Int)
    (indices : List (Fin 16)) :
    (fill memory address indices).Commutes (part.inState content) := by
  induction indices generalizing address with
  | nil => exact Action.commutes_pure _ _
  | cons index rest ih =>
      refine (Action.commutes_attempt _ _).bind fun byte => ?_
      refine Action.Commutes.bind ?_ fun _ => ih (address + 1)
      intro registers
      exact congrArg (EStateM.Result.ok _) (set_inState apart registers index byte.toNat)

end Registers

namespace Effect

variable {part : Part} {content : part.Content}

theorem mapRegisters_commutes {change : Registers → Registers}
    (same : ∀ registers,
      change (part.inState content registers) = part.inState content (change registers)) :
    (mapRegisters change).Commutes (part.put content) := by
  intro machine
  have swapped : (part.put content machine).withState
      (change (part.put content machine).state) =
        part.put content (machine.withState (change machine.state)) :=
    congrArg (part.put content machine).withState (same machine.state)
  exact congrArg (EStateM.Result.ok ()) swapped

theorem skipIf_commutes {condition : Registers → Bool} (apart : .counter ≠ part)
    (same : ∀ registers, condition (part.inState content registers) = condition registers) :
    (skipIf condition).Commutes (part.put content) := by
  apply mapRegisters_commutes
  intro registers
  rw [same]
  exact Registers.skipIf_inState apart _ registers

theorem skipIfKey_commutes (x : Fin 16) (down : Bool) (counter : .counter ≠ part)
    (numbered : .numbered ≠ part) (keyboard : .keyboard ≠ part) :
    (skipIfKey x down).Commutes (part.put content) := by
  apply Action.commutes_get_bind
  · intro machine
    have keys : (part.put content machine).bus.keyboard = machine.bus.keyboard :=
      Part.content_put_of_other keyboard content machine
    have values : (part.put content machine).state.v = machine.state.v :=
      Part.content_put_of_other numbered content machine
    rw [keys, Registers.get_congr values x]
  · intro machine
    refine (Action.commutes_attempt _ _).bind fun pressed => ?_
    exact mapRegisters_commutes (Registers.skipIf_inState counter _)

theorem ret_commutes (address : Option Int) (counter : .counter ≠ part) (stack : .stack ≠ part) :
    (ret address).Commutes (part.put content) := by
  apply Action.commutes_get_bind
  · intro machine
    have entries : (part.put content machine).state.stack = machine.state.stack :=
      Part.content_put_of_other stack content machine
    rw [entries]
  · intro machine
    cases machine.state.stack.getLast? with
    | none => exact Action.commutes_attempt _ (.error _)
    | some target =>
        apply mapRegisters_commutes
        intro registers
        cases part <;> first
        | rfl
        | exact absurd rfl counter
        | exact absurd rfl stack

theorem setHalted_commutes (halted : .halted ≠ part) (value : Bool) :
    (mapRegisters fun registers => { registers with halted := value }).Commutes
      (part.put content) := by
  apply mapRegisters_commutes
  intro registers
  cases part <;> first
  | rfl
  | exact absurd rfl halted

theorem waitKey_commutes (x : Fin 16) (halted : .halted ≠ part) (keyboard : .keyboard ≠ part)
    (numbered : .numbered ≠ part) : (waitKey x).Commutes (part.put content) := by
  refine (setHalted_commutes halted true).bind fun _ => ?_
  apply Action.commutes_get_bind
  · intro machine
    have keys : (part.put content machine).bus.keyboard = machine.bus.keyboard :=
      Part.content_put_of_other keyboard content machine
    rw [keys]
  · intro machine
    cases machine.bus.keyboard.take with
    | mk lowest released =>
        cases lowest with
        | none => exact Action.commutes_pure _ _
        | some key =>
            have takes : (mapKeyboard fun _ => released).Commutes (part.put content) := by
              intro later
              cases part <;> first
              | rfl
              | exact absurd rfl keyboard
            refine takes.bind fun _ => mapRegisters_commutes fun registers => ?_
            rw [Registers.set_inState numbered]
            cases part <;> first
            | rfl
            | exact absurd rfl halted

theorem random_commutes (x : Fin 16) (mask : Nat) (random : .random ≠ part)
    (numbered : .numbered ≠ part) : (Effect.random x mask).Commutes (part.put content) := by
  have draws : randomByte.Commutes (part.put content) := by
    intro machine
    cases part <;> first
    | rfl
    | exact absurd rfl random
  refine draws.bind fun byte => mapRegisters_commutes fun registers => ?_
  exact Registers.set_inState numbered registers x _

theorem onDisplay_commutes {α : Type} (display : .display ≠ part)
    (action : Action Fault Display α) : (onDisplay action).Commutes (part.put content) := by
  have inside := Action.commutes_id action
  refine Action.commutes_within ?_ ?_ inside
  · exact Part.content_put_of_other display content
  · intro machine drawn
    cases part <;> first
    | rfl
    | exact absurd rfl display

theorem onMemory_commutes {α : Type} (memory : .memory ≠ part)
    (action : Action Fault Memory α) : (onMemory action).Commutes (part.put content) := by
  have inside := Action.commutes_id action
  refine Action.commutes_within ?_ ?_ inside
  · exact Part.content_put_of_other memory content
  · intro machine stored
    cases part <;> first
    | rfl
    | exact absurd rfl memory

theorem draw_commutes (x y : Fin 16) (height : Nat) (numbered : .numbered ≠ part)
    (index : .index ≠ part) (memory : .memory ≠ part) (display : .display ≠ part) :
    (draw x y height).Commutes (part.put content) := by
  apply Action.commutes_get_bind
  · intro machine
    have values : (part.put content machine).state.v = machine.state.v :=
      Part.content_put_of_other numbered content machine
    have base : (part.put content machine).state.i = machine.state.i :=
      Part.content_put_of_other index content machine
    have cells : (part.put content machine).bus.memory = machine.bus.memory :=
      Part.content_put_of_other memory content machine
    simp only [cells, base, Registers.get_congr values]
  · intro machine
    refine (onDisplay_commutes display _).bind fun erased => ?_
    apply mapRegisters_commutes
    intro registers
    exact Registers.set_inState numbered registers _ _

theorem store_commutes {bytes : Registers → List Int} (index : .index ≠ part)
    (memory : .memory ≠ part)
    (same : ∀ registers, bytes (part.inState content registers) = bytes registers) :
    (store bytes).Commutes (part.put content) := by
  apply Action.commutes_get_bind
  · intro machine
    have base : (part.put content machine).state.i = machine.state.i :=
      Part.content_put_of_other index content machine
    have stored : bytes (part.put content machine).state = bytes machine.state :=
      same machine.state
    rw [base, stored]
  · intro machine
    exact onMemory_commutes memory _

theorem addIndex_commutes {amount : Registers → Int} (index : .index ≠ part)
    (same : ∀ registers, amount (part.inState content registers) = amount registers) :
    (mapRegisters fun registers => registers.addIndex (amount registers)).Commutes
      (part.put content) := by
  apply mapRegisters_commutes
  intro registers
  rw [same]
  cases part <;> first
  | rfl
  | exact absurd rfl index

theorem save_commutes (x : Fin 16) (numbered : .numbered ≠ part) (index : .index ≠ part)
    (memory : .memory ≠ part) : (save x).Commutes (part.put content) := by
  have stores : (store fun registers => registers.v.toList.take (x.val + 1)).Commutes
      (part.put content) := by
    apply store_commutes index memory
    intro registers
    cases part <;> first
    | rfl
    | exact absurd rfl numbered
  exact stores.bind fun _ => addIndex_commutes index fun _ => rfl

theorem restore_commutes (x : Fin 16) (numbered : .numbered ≠ part) (index : .index ≠ part)
    (memory : .memory ≠ part) : (restore x).Commutes (part.put content) := by
  apply Action.commutes_get_bind
  · intro machine
    have base : (part.put content machine).state.i = machine.state.i :=
      Part.content_put_of_other index content machine
    have cells : (part.put content machine).bus.memory = machine.bus.memory :=
      Part.content_put_of_other memory content machine
    rw [cells, base]
  · intro machine
    have fills : (onRegisters (Registers.fill machine.bus.memory machine.state.i
        ((List.finRange 16).take (x.val + 1)))).Commutes (part.put content) :=
      Action.commutes_within (fun _ => rfl) (fun _ _ => rfl)
        (Registers.fill_inState numbered _ _ _)
    exact fills.bind fun _ => addIndex_commutes index fun _ => rfl

end Effect

namespace Pattern

open Effect

/-- An instruction that neither reads nor writes a part cannot tell what is in it. -/
theorem effect_commutes {part : Part} {pattern : Pattern} (content : part.Content)
    (unread : pattern ∉ part.readers) (unwritten : pattern ∉ part.writers) (word : Opcode)
    (address : Option Int) : (pattern.effect word address).Commutes (part.put content) := by
  have apart {other : Part} (uses : pattern ∈ other.readers ∨ pattern ∈ other.writers) :
      other ≠ part := by
    rintro rfl
    exact uses.elim unread unwritten
  cases pattern with
  | ret => exact ret_commutes address (apart (by decide)) (apart (by decide))
  | skipEqByte | skipNeByte =>
      apply skipIf_commutes (apart (by decide))
      intro registers
      rw [Registers.get_inState (apart (by decide))]
  | skipEq | skipNe =>
      apply skipIf_commutes (apart (by decide))
      intro registers
      rw [Registers.get_inState (apart (by decide)),
        Registers.get_inState (apart (by decide))]
  | skipPressed =>
      exact skipIfKey_commutes word.x true (apart (by decide)) (apart (by decide))
        (apart (by decide))
  | skipReleased =>
      exact skipIfKey_commutes word.x false (apart (by decide)) (apart (by decide))
        (apart (by decide))
  | waitKey =>
      exact waitKey_commutes word.x (apart (by decide)) (apart (by decide)) (apart (by decide))
  | random => exact random_commutes word.x word.nn (apart (by decide)) (apart (by decide))
  | draw =>
      exact draw_commutes word.x word.y word.n (apart (by decide)) (apart (by decide))
        (apart (by decide)) (apart (by decide))
  | storeDecimal =>
      have stores : (store (storeDecimal.stored word)).Commutes (part.put content) := by
        apply store_commutes (apart (by decide)) (apart (by decide))
        intro registers
        rw [stored, Registers.get_inState (apart (by decide))]
        rfl
      exact stores
  | save =>
      exact save_commutes word.x (apart (by decide)) (apart (by decide)) (apart (by decide))
  | restore =>
      exact restore_commutes word.x (apart (by decide)) (apart (by decide)) (apart (by decide))
  | _ =>
      intro machine
      cases part <;> first
      | exact absurd (by decide) unread
      | exact absurd (by decide) unwritten
      | rfl

end Pattern

def Machine.SameBut (part : Part) (first second : Machine) : Prop :=
  ∃ content, second = part.put content first

def Part.guiding : List Part := [.counter, .halted, .memory]

theorem Part.ne_of_guiding {part other : Part} (apart : part ∉ guiding) (guides : other ∈ guiding) :
    other ≠ part := by
  rintro rfl
  exact apart guides

namespace Cpu

def put (part : Part) (content : part.Content) (cpu : Cpu) : Cpu :=
  { cpu with toCore := part.put content cpu.toCore }

def SameBut (part : Part) (first second : Cpu) : Prop :=
  ∃ content, second = first.put part content

variable {cpu : Cpu} {part : Part} {content : part.Content}

theorem put_content (part : Part) (cpu : Cpu) : cpu.put part (part.content cpu.toCore) = cpu := by
  rw [put, part.put_content]

theorem put_put (part : Part) (first second : part.Content) (cpu : Cpu) :
    (cpu.put part first).put part second = cpu.put part second := by
  simp only [put, part.put_put]

section Guiding

variable (apart : part ∉ Part.guiding)

include apart

theorem fetching_put : (cpu.put part content).fetching = part.inState content cpu.fetching := by
  have other : .halted ≠ part := Part.ne_of_guiding apart (by decide)
  have halted : (cpu.put part content).state.halted = cpu.state.halted :=
    Part.content_put_of_other other content cpu.toCore
  rw [fetching, fetching, halted]
  split
  next => exact Registers.rewind_inState (Part.ne_of_guiding apart (by decide)) _
  next => rfl

theorem counter_put : (cpu.put part content).fetching.pc = cpu.fetching.pc := by
  rw [fetching_put apart]
  cases part <;> first
  | exact absurd (by decide) apart
  | rfl

theorem fetched_put : (cpu.put part content).fetched = part.put content cpu.fetched := by
  have other : .counter ≠ part := Part.ne_of_guiding apart (by decide)
  rw [fetched, fetching_put apart, Registers.advance_inState other]
  rfl

theorem readWord_put :
    (cpu.put part content).bus.memory.readWord (cpu.put part content).fetching.pc =
      cpu.bus.memory.readWord cpu.fetching.pc := by
  have other : .memory ≠ part := Part.ne_of_guiding apart (by decide)
  have cells : (cpu.put part content).bus.memory = cpu.bus.memory :=
    Part.content_put_of_other other content cpu.toCore
  rw [cells, counter_put apart]

/-- The same instruction is fetched, so that two steps are alike if the instruction is carried out
alike. -/
theorem step_alike (alike : ∀ word pattern, cpu.Fetches word pattern →
      Action.Alike (Machine.SameBut part) (cpu.executing word pattern)
        ((cpu.put part content).executing word pattern)) :
    Action.Alike (SameBut part) (step cpu) (step (cpu.put part content)) := by
  have reads : (cpu.put part content).bus.memory.readWord (cpu.put part content).fetching.pc =
      cpu.bus.memory.readWord cpu.fetching.pc := readWord_put apart
  rcases cpu.step_cases with ⟨fault, missing⟩ | ⟨word, present, undefined⟩ |
    ⟨word, pattern, fetches⟩
  · rw [step_of_missing missing, step_of_missing (reads.trans missing), fetching_put apart]
    exact .error fault ⟨content, rfl⟩
  · rw [step_of_undefined present undefined, step_of_undefined (reads.trans present) undefined,
      fetched_put apart, counter_put apart]
    exact .error _ ⟨content, rfl⟩
  · have fetchesToo : (cpu.put part content).Fetches word pattern :=
      ⟨reads.trans fetches.present, fetches.decoded⟩
    have executed := alike word pattern fetches
    cases went : cpu.executing word pattern with
    | ok value machine =>
        rw [went] at executed
        obtain ⟨other, wentToo, held, rfl⟩ := executed.of_ok
        rw [step_of_executed fetches went, step_of_executed fetchesToo wentToo, counter_put apart]
        exact .ok _ ⟨held, rfl⟩
    | error fault machine =>
        rw [went] at executed
        obtain ⟨other, refusedToo, held, rfl⟩ := executed.of_error
        rw [step_of_refused fetches went, step_of_refused fetchesToo refusedToo]
        exact .error _ ⟨held, rfl⟩

theorem executing_alike {word : Opcode} {pattern : Pattern} (unread : pattern ∉ part.readers)
    (unwritten : pattern ∉ part.writers) :
    Action.Alike (Machine.SameBut part) (cpu.executing word pattern)
      ((cpu.put part content).executing word pattern) := by
  have commutes := Pattern.effect_commutes content unread unwritten word
    (some cpu.fetching.pc) cpu.fetched
  rw [executing, executing, fetched_put apart, counter_put apart, commutes]
  exact Action.alike_carried (fun machine => ⟨content, rfl⟩) _

end Guiding

end Cpu

end Chip8
