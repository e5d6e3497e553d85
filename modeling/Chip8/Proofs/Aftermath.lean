import Chip8.Proofs.Refusal
/-!
What a refused instruction leaves behind. Most have done nothing; those that go through bytes one
after the other leave what they did with the bytes that there are, and nothing after that.
-/

namespace Chip8

open Machine

/-- The machines that refused instructions leave behind. -/
inductive Leaves (word : Opcode) (machine : Machine) : Pattern → Machine → Prop where
  | still {pattern : Pattern} (short : pattern.reach word = 0) : Leaves word machine pattern machine
  | stored {pattern : Pattern} (stores : pattern = .storeDecimal ∨ pattern = .save) :
      Leaves word machine pattern (machine.withMemory
        ((Memory.load machine.state.i (pattern.stored word machine.state)).after
          machine.bus.memory))
  | filled : Leaves word machine .restore (machine.withState
      ((Registers.fill machine.bus.memory machine.state.i (Registers.upTo word.x)).after
        machine.state))
  | drawn : Leaves word machine .draw (machine.withDisplay
      ((Drawing.sprite machine.bus.memory (machine.state.get word.x) word.n machine.state.i
        (machine.state.get word.y)).after machine.bus.display))

variable {word : Opcode} {machine left : Machine} {pattern : Pattern} {fault : Fault}

namespace Effect

theorem ret_left {address : Option Int} (refused : ret address machine = .error fault left) :
    left = machine := by
  rcases List.eq_nil_or_concat machine.state.stack with empty | ⟨older, target, called⟩
  · rw [ret_of_empty address empty] at refused
    cases refused
    rfl
  · rw [List.concat_eq_append] at called
    rw [ret_of_call address called] at refused
    cases refused

theorem skipIfKey_left {x : Fin 16} {down : Bool}
    (refused : skipIfKey x down machine = .error fault left) : left = machine := by
  by_cases known : 0 ≤ machine.state.get x ∧ machine.state.get x < 16
  · obtain ⟨pressed, -, went⟩ := skipIfKey_of_key x down known.1 known.2
    rw [went] at refused
    cases refused
  · rw [skipIfKey_of_unknown x down known] at refused
    cases refused
    rfl

theorem draw_left {x y : Fin 16} {height : Nat}
    (refused : draw x y height machine = .error fault left) :
    left = machine.withDisplay ((Drawing.sprite machine.bus.memory (machine.state.get x) height
      machine.state.i (machine.state.get y)).after machine.bus.display) := by
  cases result : Drawing.sprite machine.bus.memory (machine.state.get x) height machine.state.i
      (machine.state.get y) machine.bus.display with
  | ok erased drawn =>
      rw [draw_of_drawn x y height result] at refused
      cases refused
  | error cause drawn =>
      rw [draw_of_refused x y height result] at refused
      cases refused
      rw [Action.after_of_error result]

theorem store_left (bytes : Registers → List Int)
    (refused : store bytes machine = .error fault left) :
    left = machine.withMemory
      ((Memory.load machine.state.i (bytes machine.state)).after machine.bus.memory) := by
  rw [← after_store, Action.after_of_error refused]

theorem save_left {x : Fin 16} (refused : save x machine = .error fault left) :
    left = machine.withMemory
      ((Memory.load machine.state.i (machine.state.firstValues x)).after machine.bus.memory) := by
  rcases Action.bind_eq_error.mp refused with stored | ⟨value, done, -, moved⟩
  · exact store_left _ stored
  · cases moved

theorem restore_left {x : Fin 16} (refused : restore x machine = .error fault left) :
    left = machine.withState
      ((Registers.fill machine.bus.memory machine.state.i (Registers.upTo x)).after
        machine.state) := by
  cases result : Registers.fill machine.bus.memory machine.state.i (Registers.upTo x)
      machine.state with
  | ok value filled =>
      rw [restore_of_filled x result] at refused
      cases refused
  | error cause filled =>
      rw [restore_of_refused x result] at refused
      cases refused
      rw [Action.after_of_error result]

end Effect

/-- An instruction is refused before anything that it does behind its loop over the bytes. -/
theorem Pattern.effect_left {address : Option Int}
    (refused : pattern.effect word address machine = .error fault left) :
    Leaves word machine pattern left := by
  cases pattern with
  | ret => exact Effect.ret_left refused ▸ .still rfl
  | skipPressed | skipReleased => exact Effect.skipIfKey_left refused ▸ .still rfl
  | draw => exact Effect.draw_left refused ▸ .drawn
  | storeDecimal =>
      have stored := Effect.store_left (storeDecimal.stored word) refused
      exact stored ▸ .stored (.inl rfl)
  | save => exact Effect.save_left refused ▸ .stored (.inr rfl)
  | restore => exact Effect.restore_left refused ▸ .filled
  | waitKey =>
      have none : (Effect.waitKey word.x).refusal? machine = some fault :=
        Action.refusal_of_error refused
      rw [Effect.refusal_waitKey] at none
      cases none
  | _ => cases refused

theorem Pattern.length_stored (stores : pattern = .storeDecimal ∨ pattern = .save)
    (word : Opcode) (registers : Registers) :
    (pattern.stored word registers).length = pattern.reach word := by
  rcases stores with rfl | rfl
  · rfl
  · exact registers.length_firstValues word.x

theorem Pattern.read_of_stored {address : Option Int} {done : Machine} {place : Int}
    (stores : pattern = .storeDecimal ∨ pattern = .save)
    (went : pattern.effect word address machine = .ok () done) (low : 0 ≤ machine.state.i)
    (behind : machine.state.i ≤ place) (before : place < machine.state.i + pattern.reach word) :
    done.bus.memory.read place = .ok (Memory.lowByte
      ((pattern.stored word machine.state).getD (place - machine.state.i).toNat 0)) := by
  rw [← Pattern.length_stored stores word machine.state] at before
  cases result : Memory.load machine.state.i (pattern.stored word machine.state)
      machine.bus.memory with
  | error fault memory =>
      rcases stores with rfl | rfl
      · cases went.symm.trans (Effect.store_of_refused (storeDecimal.stored word) result)
      · cases went.symm.trans (Effect.save_of_refused word.x result)
  | ok value memory =>
      have reads := Memory.read_of_loaded result low behind before
      rcases stores with rfl | rfl
      · cases went.symm.trans (Effect.store_of_loaded (storeDecimal.stored word) result)
        exact reads
      · cases went.symm.trans (Effect.save_of_loaded word.x result)
        exact reads

namespace Leaves

theorem control (leaves : Leaves word machine pattern left) :
    left.state.control = machine.state.control := by
  cases leaves with
  | filled => exact Registers.fill_preserves_control _ _ _ _
  | _ => rfl

theorem keyboard (leaves : Leaves word machine pattern left) :
    left.bus.keyboard = machine.bus.keyboard := by
  cases leaves <;> rfl

theorem random (leaves : Leaves word machine pattern left) :
    left.bus.random = machine.bus.random := by
  cases leaves <;> rfl

theorem memory (leaves : Leaves word machine pattern left)
    (loads : ¬(pattern = .storeDecimal ∨ pattern = .save)) :
    left.bus.memory = machine.bus.memory := by
  cases leaves with
  | stored stores => exact absurd stores loads
  | _ => rfl

theorem display (leaves : Leaves word machine pattern left) (other : pattern ≠ .draw) :
    left.bus.display = machine.bus.display := by
  cases leaves with
  | drawn => exact absurd rfl other
  | _ => rfl

theorem numbered (leaves : Leaves word machine pattern left) (other : pattern ≠ .restore) :
    left.state.v = machine.state.v := by
  cases leaves with
  | filled => exact absurd rfl other
  | _ => rfl

theorem reads (leaves : Leaves word machine pattern left)
    (stores : pattern = .storeDecimal ∨ pattern = .save) (low : 0 ≤ machine.state.i)
    (overruns : machine.bus.memory.size < machine.state.i + pattern.reach word) (address : Int) :
    left.bus.memory.read address =
      if machine.state.i ≤ address ∧ address < machine.bus.memory.size then
        .ok (Memory.lowByte
          ((pattern.stored word machine.state).getD (address - machine.state.i).toNat 0))
      else machine.bus.memory.read address := by
  have length := Pattern.length_stored stores word machine.state
  cases leaves with
  | stored =>
      have written := (machine.bus.memory.read_after_load machine.state.i
        (pattern.stored word machine.state) low).2 address
      rw [length] at written
      refine written.trans ?_
      by_cases inside : machine.state.i ≤ address ∧ address < machine.bus.memory.size
      · rw [if_pos inside, if_pos (by omega)]
      · rw [if_neg inside, if_neg (by omega)]
  | still short => rcases stores with rfl | rfl <;> cases short
  | filled | drawn => rcases stores with clash | clash <;> cases clash

theorem registers (leaves : Leaves word machine .restore left) (low : 0 ≤ machine.state.i)
    (overruns : machine.bus.memory.size < machine.state.i + (word.x.val + 1 : Nat))
    (index : Fin 16) :
    (machine.state.i + index.val < machine.bus.memory.size →
      ∃ byte, machine.bus.memory.read (machine.state.i + index.val) = .ok byte ∧
        left.state.get index = byte.toNat) ∧
    (machine.bus.memory.size ≤ machine.state.i + index.val →
      left.state.get index = machine.state.get index) := by
  cases leaves with
  | still short => cases short
  | stored stores => rcases stores with clash | clash <;> cases clash
  | filled =>
      by_cases listed : index.val < (Registers.upTo word.x).length
      · have filled := Registers.get_after_fill machine.bus.memory machine.state.i low
          (Registers.nodup_upTo word.x) machine.state listed
        rw [Registers.getElem_upTo] at filled
        exact filled
      · rw [Registers.length_upTo] at listed
        have apart : index ∉ Registers.upTo word.x := by
          rw [Registers.mem_upTo, Fin.le_def]
          omega
        refine ⟨fun inside => by omega, fun _ => ?_⟩
        exact Registers.get_after_fill_of_notMem _ _ _ apart machine.state

theorem cut (leaves : Leaves word machine .draw left) (range : machine.state.InRange)
    (cells : Drawing.HasCells machine.bus.display) (tall : 0 < word.n.val)
    (overruns : machine.bus.memory.size < machine.state.i + word.n.val) :
    ∃ erased, Drawing.sprite machine.bus.memory (machine.state.get word.x)
      (machine.bus.memory.size - machine.state.i).toNat machine.state.i
      (machine.state.get word.y) machine.bus.display = .ok erased left.bus.display := by
  have placed := Effect.placed_of_inRange range word.x word.y
  cases leaves with
  | still short => exact absurd short (Nat.ne_of_gt tall)
  | stored stores => rcases stores with clash | clash <;> cases clash
  | drawn =>
      have whole := Drawing.sprite_overruns machine.bus.memory word.n.val machine.state.i
        (machine.state.get word.y) cells placed range.index.1 tall overruns
      have goes : ∃ erased drawn, Drawing.sprite machine.bus.memory (machine.state.get word.x)
          (machine.bus.memory.size - machine.state.i).toNat machine.state.i
          (machine.state.get word.y) machine.bus.display = .ok erased drawn := by
        by_cases inside : machine.state.i ≤ machine.bus.memory.size
        · exact Drawing.sprite_draws _ _ _ _ cells placed range.index.1 (by omega)
        · have none : (machine.bus.memory.size - machine.state.i).toNat = 0 := by omega
          rw [none]
          exact ⟨false, machine.bus.display, rfl⟩
      obtain ⟨erased, drawn, went⟩ := goes
      refine ⟨erased, went.trans ?_⟩
      congr 1
      exact (Action.after_of_ok went).symm.trans (Action.after_of_error whole).symm

end Leaves

namespace Cpu

variable {cpu after : Cpu}

/-- A refused step is stopped by the fetch, by the decoder or by the instruction. -/
theorem Valid.step_left (valid : Valid cpu) (refused : Cpu.step cpu = .error fault after) :
    (4096 ≤ cpu.fetchAddress + 1 ∧ after.toCore = cpu.toCore) ∨
    (cpu.fetchAddress + 1 < 4096 ∧ after.toCore = cpu.fetched ∧
      ∃ word, cpu.bus.memory.readWord cpu.fetchAddress = .ok word ∧
        Pattern.ofOpcode? word = none) ∨
    (cpu.fetchAddress + 1 < 4096 ∧
      ∃ word pattern, cpu.Fetches word pattern ∧ Leaves word cpu.fetched pattern after.toCore ∧
        pattern.fault? word (some cpu.fetchAddress) cpu.toCore = some fault) := by
  have near {word : Int} (present : cpu.bus.memory.readWord cpu.fetching.pc = .ok word) :
      cpu.fetchAddress + 1 < 4096 := by
    have high := (Memory.inside_of_readWord present).2
    rw [valid.memory, valid.fetching_pc] at high
    exact high
  rcases (step_eq_error refused).2 with ⟨missing, same⟩ | ⟨word, present, undefined, -, same⟩ |
    ⟨word, pattern, fetches, executed⟩
  · refine .inl ⟨valid.behind_of_missing missing, same.trans ?_⟩
    rw [fetching_of_awake (valid.awake_of_missing missing)]
  · exact .inr (.inl ⟨near present, same, word, valid.fetching_pc ▸ present, undefined⟩)
  · have leaves := Pattern.effect_left executed
    refine .inr (.inr ⟨near fetches.present, word, pattern, fetches, leaves, ?_⟩)
    rw [← valid.executing_refusal fetches]
    exact Action.refusal_of_error executed

theorem Valid.leaves (valid : Valid cpu) (refused : Cpu.step cpu = .error fault after)
    (present : cpu.bus.memory.readWord cpu.fetchAddress = .ok word)
    (decoded : Pattern.ofOpcode? word = some pattern) :
    Leaves word cpu.fetched pattern after.toCore ∧
      pattern.fault? word (some cpu.fetchAddress) cpu.toCore = some fault := by
  have fetches := valid.fetches present decoded
  have high := (Memory.inside_of_readWord present).2
  rw [valid.memory] at high
  rcases valid.step_left refused with ⟨behind, -⟩ | ⟨-, -, other, found, undefined⟩ |
    ⟨-, other, another, again, leaves, foreseen⟩
  · omega
  · have same := Except.ok.inj (present.symm.trans found)
    cases (same ▸ decoded).symm.trans undefined
  · obtain ⟨rfl, rfl⟩ := fetches.unique again
    exact ⟨leaves, foreseen⟩

theorem Valid.left_control (valid : Valid cpu) (refused : Cpu.step cpu = .error fault after) :
    after.state.control = { cpu.state.control with pc := after.state.pc } ∧
      after.bus.keyboard = cpu.bus.keyboard ∧ after.bus.random = cpu.bus.random := by
  have fetched : cpu.fetched.state.control =
      { cpu.state.control with pc := cpu.fetched.state.pc } := by
    rw [fetched_eq]
    rfl
  rcases valid.step_left refused with ⟨-, same⟩ | ⟨-, same, -⟩ | ⟨-, word, pattern, -, leaves, -⟩
  · rw [same]
    exact ⟨rfl, rfl, rfl⟩
  · rw [same]
    exact ⟨fetched, rfl, rfl⟩
  · have kept := leaves.control
    have counter := congrArg Registers.pc kept
    refine ⟨?_, leaves.keyboard, leaves.random⟩
    rw [kept, fetched]
    change _ = { cpu.state.control with pc := after.state.control.pc }
    rw [counter]
    rfl

theorem counter_of_step_error (refused : Cpu.step cpu = .error fault after) :
    after.state.pc =
      if (cpu.bus.memory.readWord cpu.fetching.pc).isOk then (cpu.fetching.pc + 2) % 0x10000
      else cpu.fetching.pc := by
  rcases (step_eq_error refused).2 with ⟨missing, same⟩ | ⟨word, present, -, -, same⟩ |
    ⟨word, pattern, fetches, executed⟩
  · rw [missing, same]
    rfl
  · rw [present, same]
    rfl
  · have kept := congrArg Registers.pc (Pattern.effect_left executed).control
    rw [fetches.present]
    exact kept

theorem Valid.left_counter (valid : Valid cpu) (refused : Cpu.step cpu = .error fault after) :
    after.state.pc =
      if 4096 ≤ cpu.fetchAddress + 1 then cpu.state.pc else cpu.fetchAddress + 2 := by
  have counter := counter_of_step_error refused
  cases found : cpu.bus.memory.readWord cpu.fetching.pc with
  | error missing =>
      have still : cpu.fetching.pc = cpu.state.pc := by
        rw [fetching_of_awake (valid.awake_of_missing found)]
      rw [found] at counter
      rw [if_pos (valid.behind_of_missing found), ← still]
      exact counter
  | ok word =>
      have high := (Memory.inside_of_readWord found).2
      have behind := (valid.fetched_counter found).1
      rw [valid.memory, valid.fetching_pc] at high
      rw [found] at counter
      rw [if_neg (by omega), ← valid.fetching_pc, ← behind]
      exact counter

/-- A fault of any other kind, or of the fetch, comes before every change to memory, screen and
numbered registers. -/
theorem Valid.left_still (valid : Valid cpu) (refused : Cpu.step cpu = .error fault after)
    (early : 4096 ≤ cpu.fetchAddress + 1 ∨ fault.kind? ≠ some .memoryBounds) :
    after.bus.memory = cpu.bus.memory ∧ after.bus.display = cpu.bus.display ∧
      after.state.v = cpu.state.v := by
  rcases valid.step_left refused with ⟨-, same⟩ | ⟨-, same, -⟩ |
    ⟨inside, word, pattern, -, leaves, foreseen⟩
  · rw [same]
    exact ⟨rfl, rfl, rfl⟩
  · rw [same]
    exact ⟨rfl, rfl, cpu.fetched_numbered⟩
  · have other : fault.kind? ≠ some .memoryBounds := early.resolve_left (Int.not_le.mpr inside)
    have short {reach : Nat} (missing : Machine.missing? cpu.toCore reach = some fault) :
        False := by
      obtain ⟨-, -, rfl⟩ := valid.missing_eq_some.mp missing
      exact other rfl
    refine ⟨leaves.memory ?_, leaves.display ?_, (leaves.numbered ?_).trans cpu.fetched_numbered⟩
    · rintro (rfl | rfl) <;> exact short foreseen
    · rintro rfl
      exact short foreseen
    · rintro rfl
      exact short foreseen

theorem Valid.left_stored (valid : Valid cpu) (refused : Cpu.step cpu = .error fault after)
    (present : cpu.bus.memory.readWord cpu.fetchAddress = .ok word)
    (decoded : Pattern.ofOpcode? word = some pattern)
    (stores : pattern = .storeDecimal ∨ pattern = .save) :
    (after.bus.display = cpu.bus.display ∧ after.state.v = cpu.state.v) ∧
    (∀ address, after.bus.memory.read address =
      if cpu.state.i ≤ address ∧ address < 4096 then
        .ok (Memory.lowByte
          ((pattern.stored word cpu.state).getD (address - cpu.state.i).toNat 0))
      else cpu.bus.memory.read address) ∧
    ∀ larger done : Machine, larger.state = cpu.state →
      pattern.effect word none larger = .ok () done →
      ∀ address, cpu.state.i ≤ address → address < 4096 →
        after.bus.memory.read address = done.bus.memory.read address := by
  obtain ⟨leaves, foreseen⟩ := valid.leaves refused present decoded
  have overruns : 4096 < cpu.state.i + pattern.reach word := by
    rcases stores with rfl | rfl <;> exact (valid.missing_eq_some.mp foreseen).2.1
  have bytes : pattern.stored word cpu.fetched.state = pattern.stored word cpu.state := by
    rw [fetched_eq]
    rcases stores with rfl | rfl <;> rfl
  have size : cpu.fetched.bus.memory.size = 4096 := valid.memory
  have reads := leaves.reads stores
  rw [bytes, fetched_index, size] at reads
  have low := valid.range.index.1
  refine ⟨⟨leaves.display ?_, (leaves.numbered ?_).trans cpu.fetched_numbered⟩,
    reads low overruns, ?_⟩
  · rcases stores with rfl | rfl <;> decide
  · rcases stores with rfl | rfl <;> decide
  · intro larger done same went address behind before
    have whole : done.bus.memory.read address = _ :=
      Pattern.read_of_stored stores went (same ▸ low) (same ▸ behind) (by rw [same]; omega)
    rw [reads low overruns, if_pos ⟨behind, before⟩, whole, same]

theorem Valid.left_restored (valid : Valid cpu) (refused : Cpu.step cpu = .error fault after)
    (present : cpu.bus.memory.readWord cpu.fetchAddress = .ok word)
    (decoded : Pattern.ofOpcode? word = some .restore) :
    (after.bus.memory = cpu.bus.memory ∧ after.bus.display = cpu.bus.display) ∧
    ∀ index : Fin 16,
      (cpu.state.i + index.val < 4096 →
        ∃ byte, cpu.bus.memory.read (cpu.state.i + index.val) = .ok byte ∧
          after.state.get index = byte.toNat) ∧
      (4096 ≤ cpu.state.i + index.val → after.state.get index = cpu.state.get index) := by
  obtain ⟨leaves, foreseen⟩ := valid.leaves refused present decoded
  obtain ⟨-, overruns, -⟩ := valid.missing_eq_some.mp foreseen
  have size : cpu.fetched.bus.memory.size = 4096 := valid.memory
  have registers := leaves.registers
  rw [size, fetched_eq] at registers
  refine ⟨⟨leaves.memory ?_, leaves.display ?_⟩, registers valid.range.index.1 overruns⟩
  · rintro (clash | clash) <;> cases clash
  · decide

theorem Valid.left_drawn (valid : Valid cpu) (refused : Cpu.step cpu = .error fault after)
    (present : cpu.bus.memory.readWord cpu.fetchAddress = .ok word)
    (decoded : Pattern.ofOpcode? word = some .draw) :
    (after.bus.memory = cpu.bus.memory ∧ after.state.v = cpu.state.v) ∧
    ∃ drawn, Effect.draw word.x word.y (4096 - cpu.state.i).toNat cpu.toCore = .ok () drawn ∧
      after.bus.display = drawn.bus.display := by
  obtain ⟨leaves, foreseen⟩ := valid.leaves refused present decoded
  obtain ⟨tall, overruns, -⟩ := valid.missing_eq_some.mp foreseen
  have size : cpu.fetched.bus.memory.size = 4096 := valid.memory
  have range := valid.fetched_inRange (valid.fetches present decoded).present
  have cut := leaves.cut range valid.hasCells tall
  rw [size, fetched_eq] at cut
  obtain ⟨erased, went⟩ := cut overruns
  have drawn : Effect.draw word.x word.y (4096 - cpu.state.i).toNat cpu.toCore = _ :=
    Effect.draw_of_drawn word.x word.y _ went
  refine ⟨⟨leaves.memory ?_, (leaves.numbered ?_).trans cpu.fetched_numbered⟩, _, drawn, rfl⟩
  · rintro (clash | clash) <;> cases clash
  · decide

theorem Valid.left_flag (valid : Valid cpu) (refused : Cpu.step cpu = .error fault after) :
    after.state.vf = cpu.state.vf := by
  have same {first second : Registers} (v : first.v = second.v) : first.vf = second.vf :=
    Registers.get_congr v Registers.flag
  rcases valid.step_left refused with ⟨-, kept⟩ | ⟨-, kept, -⟩ |
    ⟨-, word, pattern, fetches, leaves, foreseen⟩
  · rw [kept]
  · rw [kept]
    exact same cpu.fetched_numbered
  · by_cases restores : pattern = .restore
    · subst restores
      obtain ⟨-, overruns, -⟩ := valid.missing_eq_some.mp foreseen
      have behind : 4096 ≤ cpu.state.i + (Registers.flag.val : Int) := by
        have last := word.x.isLt
        rw [Pattern.reach] at overruns
        change 4096 ≤ cpu.state.i + 15
        omega
      have present := valid.fetching_pc ▸ fetches.present
      exact ((valid.left_restored refused present fetches.decoded).2 Registers.flag).2 behind
    · exact same ((leaves.numbered restores).trans cpu.fetched_numbered)

/-- A refused step is not counted. It leaves the program counter behind an instruction that was
there, and of memory, screen and numbered registers only what the instruction had done with the
bytes up to the end of the memory. What it stored there is what it stores in a larger memory. -/
theorem step_left_behind (reachable : Reachable cpu)
    (refused : Cpu.step cpu = .error fault after) :
    (after.instructionCount = cpu.instructionCount ∧ after.state.i = cpu.state.i ∧
      after.state.vf = cpu.state.vf ∧ after.state.stack = cpu.state.stack ∧
      after.state.delayTimer = cpu.state.delayTimer ∧
      after.state.soundTimer = cpu.state.soundTimer ∧ after.state.halted = cpu.state.halted ∧
      after.bus.keyboard = cpu.bus.keyboard ∧ after.bus.random = cpu.bus.random) ∧
    (after.state.pc =
      if 4096 ≤ cpu.fetchAddress + 1 then cpu.state.pc else cpu.fetchAddress + 2) ∧
    (4096 ≤ cpu.fetchAddress + 1 ∨ fault.kind? ≠ some .memoryBounds →
      after.bus.memory = cpu.bus.memory ∧ after.bus.display = cpu.bus.display ∧
        after.state.v = cpu.state.v) ∧
    (∀ word : Opcode, cpu.bus.memory.readWord cpu.fetchAddress = .ok word →
      (∀ pattern, Pattern.ofOpcode? word = some pattern →
        pattern = .storeDecimal ∨ pattern = .save →
        (after.bus.display = cpu.bus.display ∧ after.state.v = cpu.state.v) ∧
        (∀ address, after.bus.memory.read address =
          if cpu.state.i ≤ address ∧ address < 4096 then
            .ok (Memory.lowByte
              ((pattern.stored word cpu.state).getD (address - cpu.state.i).toNat 0))
          else cpu.bus.memory.read address) ∧
        ∀ larger done : Machine, larger.state = cpu.state →
          pattern.effect word none larger = .ok () done →
          ∀ address, cpu.state.i ≤ address → address < 4096 →
            after.bus.memory.read address = done.bus.memory.read address) ∧
      (Pattern.ofOpcode? word = some .restore →
        (after.bus.memory = cpu.bus.memory ∧ after.bus.display = cpu.bus.display) ∧
        ∀ index : Fin 16,
          (cpu.state.i + index.val < 4096 →
            ∃ byte, cpu.bus.memory.read (cpu.state.i + index.val) = .ok byte ∧
              after.state.get index = byte.toNat) ∧
          (4096 ≤ cpu.state.i + index.val → after.state.get index = cpu.state.get index)) ∧
      (Pattern.ofOpcode? word = some .draw →
        (after.bus.memory = cpu.bus.memory ∧ after.state.v = cpu.state.v) ∧
        ∃ drawn,
          Effect.draw word.x word.y (4096 - cpu.state.i).toNat cpu.toCore = .ok () drawn ∧
          after.bus.display = drawn.bus.display)) := by
  have valid := reachable.valid
  obtain ⟨control, keyboard, random⟩ := valid.left_control refused
  have count := (step_eq_error refused).1
  have index := congrArg Registers.i control
  have stack := congrArg Registers.stack control
  have delay := congrArg Registers.delayTimer control
  have sound := congrArg Registers.soundTimer control
  have halted := congrArg Registers.halted control
  refine ⟨⟨count, index, valid.left_flag refused, stack, delay, sound, halted, keyboard, random⟩,
    valid.left_counter refused, valid.left_still refused, fun word present => ⟨?_, ?_, ?_⟩⟩
  · exact fun pattern decoded stores => valid.left_stored refused present decoded stores
  · exact fun decoded => valid.left_restored refused present decoded
  · exact fun decoded => valid.left_drawn refused present decoded

def digitsAtEnd : List Int := [0x60, 0x7B, 0xAF, 0xFF, 0xF0, 0x33]

/-- The hundreds fit into the last cell, and the tens do not. -/
theorem step_left_behind_digits :
    (((loaded digitsAtEnd).after .step).after .step).Reachable ∧
    ∃ after, Cpu.step (((loaded digitsAtEnd).after .step).after .step) =
        .error (.outsideMemory 4096 4096) after ∧
      after.state.pc = 0x206 ∧ after.bus.memory.read 4095 = .ok 1 := by
  have fits : 0x200 + digitsAtEnd.length ≤ Memory.default.size := by decide
  have first : (loaded digitsAtEnd).Fetches 0x607B .loadByte :=
    fetches_of_loaded .default digitsAtEnd rfl fits 0 (by decide) rfl rfl
  let one : Cpu := ⟨(loaded digitsAtEnd).fetched.withState
    ((loaded digitsAtEnd).fetched.state.set 0 123), 1⟩
  have second : one.Fetches 0xAFFF .loadIndex :=
    fetches_of_loaded .default digitsAtEnd rfl fits 2 (by decide) rfl rfl
  let two : Cpu := ⟨one.fetched.withState { one.fetched.state with i := 0xFFF }, 2⟩
  have third : two.Fetches 0xF033 .storeDecimal :=
    fetches_of_loaded .default digitsAtEnd rfl fits 4 (by decide) rfl rfl
  have ran : ((loaded digitsAtEnd).after .step).after .step = two := by
    have afterFirst : (loaded digitsAtEnd).after .step = one := after_step_of_executed first rfl
    rw [afterFirst]
    exact after_step_of_executed second rfl
  have reachable : two.Reachable := ran ▸ (loaded_reachable digitsAtEnd).step.step
  have refuses : two.Refuses (.outsideMemory 4096 4096) :=
    .data third.present third.decoded (by decide) (by decide)
  obtain ⟨after, refused⟩ := Action.refusal_eq_some.mp (reachable.valid.step_of_refuses refuses)
  obtain ⟨-, counter, -, parts⟩ := step_left_behind reachable refused
  have cells := ((parts _ third.present).1 _ third.decoded (.inl rfl)).2.1
  rw [ran]
  exact ⟨reachable, after, refused, counter, cells 4095⟩

end Cpu

end Chip8
