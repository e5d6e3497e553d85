import Chip8.Proofs.Frame
import Chip8.Proofs.Host
import Chip8.Proofs.Range
/-!
The states that a host brings about on the standard machine, and what holds of all of them. A wait
for a key is carried out by going back to its instruction, so the last part of the invariant is
what keeps the program counter from running away: the instruction is still there.
-/

namespace Chip8

/-- What a host does once a program has been loaded, other than starting over. -/
def Event.Plays : Event → Prop
  | .step | .press _ | .release _ | .tick => True
  | .load _ | .reset => False

namespace Cpu

/-- Reached on a standard machine by a host that loads no program while a key is awaited. -/
inductive Reachable : Cpu → Prop where
  | start (random : RandomSource) : Reachable (ofBus { random := random })
  | event {cpu : Cpu} (event : Event) :
      Reachable cpu → (cpu.state.halted = true → ∀ program, event ≠ .load program) →
        Reachable (cpu.after event)

/-- Nothing but the loading of a program depends on whether a key is awaited. -/
theorem Reachable.play {cpu : Cpu} (reachable : Reachable cpu) (event : Event)
    (plays : event.Plays) : Reachable (cpu.after event) := by
  refine .event event reachable ?_
  rintro - program rfl
  exact plays

theorem Reachable.step {cpu : Cpu} (reachable : Reachable cpu) : Reachable (cpu.after .step) :=
  reachable.play .step trivial

theorem Reachable.loaded (random : RandomSource) (program : List Int) :
    Reachable ((ofBus { random := random }).after (.load program)) :=
  .event (.load program) (.start random) fun halted => by cases halted

theorem loaded_reachable (program : List Int) : Reachable (loaded program) :=
  .loaded (.cycling []) program

def WaitsAt (memory : Memory) (address : Int) : Prop :=
  ∃ word, memory.readWord address = .ok word ∧ Pattern.ofOpcode? word = some .waitKey

structure Valid (cpu : Cpu) : Prop where
  range : cpu.state.InRange
  memory : cpu.bus.memory.size = 4096
  display : cpu.bus.display.size = (64, 32)
  waiting : cpu.state.halted = true →
    2 ≤ cpu.state.pc ∧ WaitsAt cpu.bus.memory (cpu.state.pc - 2)

theorem start_valid (random : RandomSource) : Valid (ofBus { random := random }) where
  range := Registers.initial_inRange
  memory := rfl
  display := rfl
  waiting := by
    intro halted
    cases halted

def fetchAddress (cpu : Cpu) : Int :=
  if cpu.state.halted then cpu.state.pc - 2 else cpu.state.pc

variable {cpu : Cpu}

/-- Going back to a wait does not go round. -/
theorem Valid.fetching_pc (valid : Valid cpu) : cpu.fetching.pc = cpu.fetchAddress := by
  have bound := valid.range.counter.2
  rw [fetching, fetchAddress]
  split
  next halted =>
      have back := (valid.waiting halted).1
      rw [Registers.rewind, Registers.instructionLength]
      exact Int.emod_eq_of_lt (by omega) (by omega)
  next => rfl

theorem Valid.fetches_wait (valid : Valid cpu) (halted : cpu.state.halted = true) :
    ∃ word, cpu.Fetches word .waitKey := by
  obtain ⟨word, present, decoded⟩ := (valid.waiting halted).2
  refine ⟨word, ?_, decoded⟩
  rw [valid.fetching_pc, fetchAddress, if_pos halted]
  exact present

theorem Valid.fetchAddress_nonneg (valid : Valid cpu) : 0 ≤ cpu.fetchAddress := by
  have low := valid.range.counter.1
  rw [fetchAddress]
  split
  next halted =>
      have back := (valid.waiting halted).1
      omega
  next => exact low

/-- What is left of the ranges where a program may also be loaded during a wait: the instruction to
go back to can then be another one, and going back from there goes round at sixteen bits. -/
structure Confined (cpu : Cpu) : Prop where
  range : Registers.InRange { cpu.state with pc := 0 }
  counter : 0 ≤ cpu.state.pc ∧ cpu.state.pc < 0x10000
  memory : cpu.bus.memory.size = 4096

theorem Valid.confined (valid : Valid cpu) : Confined cpu where
  range := valid.range.goto (by decide) (by decide)
  counter := valid.range.sixteenBits
  memory := valid.memory

/-- An instruction that has been fetched lies in memory, so that the program counter behind it is
small. -/
theorem Confined.fetched_counter (confined : Confined cpu) {word : Int}
    (present : cpu.bus.memory.readWord cpu.fetching.pc = .ok word) :
    cpu.fetched.state.pc = cpu.fetching.pc + 2 ∧ 2 ≤ cpu.fetched.state.pc ∧
      cpu.fetched.state.pc ≤ 0x1000 := by
  obtain ⟨low, high⟩ := Memory.inside_of_readWord present
  rw [confined.memory] at high
  rw [cpu.fetched_counter]
  omega

theorem Confined.fetched_inRange (confined : Confined cpu) {word : Int}
    (present : cpu.bus.memory.readWord cpu.fetching.pc = .ok word) :
    cpu.fetched.state.InRange := by
  obtain ⟨-, back, ahead⟩ := confined.fetched_counter present
  rw [cpu.fetched_eq] at back ahead ⊢
  exact confined.range.goto (Int.le_trans (by decide) back) (Int.le_trans ahead (by decide))

theorem Valid.fetched_counter (valid : Valid cpu) {word : Int}
    (present : cpu.bus.memory.readWord cpu.fetching.pc = .ok word) :
    cpu.fetched.state.pc = cpu.fetching.pc + 2 ∧ 2 ≤ cpu.fetched.state.pc ∧
      cpu.fetched.state.pc ≤ 0x1000 :=
  valid.confined.fetched_counter present

theorem Valid.fetched_inRange (valid : Valid cpu) {word : Int}
    (present : cpu.bus.memory.readWord cpu.fetching.pc = .ok word) :
    cpu.fetched.state.InRange :=
  valid.confined.fetched_inRange present

theorem fetching_halted (cpu : Cpu) : cpu.fetching.halted = cpu.state.halted := by
  rw [fetching]
  split <;> rfl

theorem fetching_of_awake (awake : ¬cpu.state.halted = true) : cpu.fetching = cpu.state :=
  if_neg awake

theorem Valid.awake_of_missing (valid : Valid cpu) {fault : Fault}
    (missing : cpu.bus.memory.readWord cpu.fetching.pc = .error fault) :
    ¬cpu.state.halted = true := by
  intro halted
  obtain ⟨word, wait⟩ := valid.fetches_wait halted
  have clash := missing.symm.trans wait.present
  cases clash

theorem Valid.awake_of_undefined (valid : Valid cpu) {word : Int}
    (present : cpu.bus.memory.readWord cpu.fetching.pc = .ok word)
    (undefined : Pattern.ofOpcode? word = none) : ¬cpu.state.halted = true := by
  intro halted
  obtain ⟨other, wait⟩ := valid.fetches_wait halted
  have same := Except.ok.inj (present.symm.trans wait.present)
  have clash := undefined.symm.trans (same ▸ wait.decoded)
  cases clash

theorem Valid.awake_of_fetches (valid : Valid cpu) {word : Opcode} {pattern : Pattern}
    (fetches : cpu.Fetches word pattern) (other : pattern ≠ .waitKey) :
    ¬cpu.state.halted = true := by
  intro halted
  obtain ⟨again, wait⟩ := valid.fetches_wait halted
  exact other (fetches.unique wait).2

/-- After an instruction the processor waits only if the instruction was a wait, which is then two
bytes behind. -/
theorem Valid.executed_waits (valid : Valid cpu) {word : Opcode} {pattern : Pattern}
    (fetches : cpu.Fetches word pattern)
    (halted : (cpu.executed word pattern).state.halted = true) :
    2 ≤ (cpu.executed word pattern).state.pc ∧
      WaitsAt (cpu.executed word pattern).bus.memory
        ((cpu.executed word pattern).state.pc - 2) := by
  by_cases wait : pattern = .waitKey
  · subst wait
    -- The wait has been fetched from two cells in front of the program counter.
    have sameCounter : (cpu.executed word .waitKey).state.pc = cpu.fetched.state.pc :=
      Pattern.effect_keeps .counter (by decide) word _ cpu.fetched
    have sameMemory : (cpu.executed word .waitKey).bus.memory = cpu.bus.memory :=
      Pattern.effect_keeps .memory (by decide) word _ cpu.fetched
    obtain ⟨counter, back, -⟩ := valid.fetched_counter fetches.present
    have place : cpu.fetched.state.pc - 2 = cpu.fetching.pc := by omega
    rw [sameCounter, sameMemory, place]
    exact ⟨back, word, fetches.present, fetches.decoded⟩
  · have other : pattern ∉ Part.halted.writers := by simp [Part.writers, wait]
    have sameHalt : (cpu.executed word pattern).state.halted = cpu.fetched.state.halted :=
      Pattern.effect_keeps_of_other other word _ cpu.fetched
    have still : cpu.fetched.state.halted = cpu.state.halted := cpu.fetching_halted
    rw [sameHalt, still] at halted
    exact absurd halted (valid.awake_of_fetches fetches wait)

theorem shape_after (cpu : Cpu) (event : Event) :
    Machine.shape (cpu.after event).toCore = Machine.shape cpu.toCore := by
  cases event with
  | step =>
      rcases cpu.step_cases with ⟨fault, missing⟩ | ⟨word, present, undefined⟩ |
        ⟨word, pattern, fetches⟩
      · rw [after_step, Action.after_of_error (step_of_missing missing)]
        rfl
      · rw [after_step, Action.after_of_error (step_of_undefined present undefined)]
        rfl
      · rw [after_step_of_fetches fetches]
        exact Pattern.effect_preserves pattern word _ (fun part _ => ignores_shape part) cpu.fetched
  | load program =>
      have size : ((Memory.loadProgram program).after cpu.bus.memory).size = _ :=
        Memory.load_preserves_size _ program cpu.bus.memory
      rw [after_load]
      simp [Machine.shape, Machine.withMemory, size]
  | press key => rw [after_press]; rfl
  | release key => rw [after_release]; rfl
  | tick | reset => rfl

theorem shape_afterAll (cpu : Cpu) (events : List Event) :
    Machine.shape (cpu.afterAll events).toCore = Machine.shape cpu.toCore := by
  induction events generalizing cpu with
  | nil => rfl
  | cons event rest ih => exact (ih (cpu.after event)).trans (shape_after cpu event)

theorem Valid.shape (valid : Valid cpu) : Machine.shape cpu.toCore = (4096, 64, 32) := by
  rw [Machine.shape, valid.memory, valid.display]

theorem Valid.shape_after (valid : Valid cpu) (event : Event) :
    (cpu.after event).bus.memory.size = 4096 ∧ (cpu.after event).bus.display.size = (64, 32) :=
  Prod.ext_iff.mp ((Cpu.shape_after cpu event).trans valid.shape)

theorem Valid.step (valid : Valid cpu) : Valid (cpu.after .step) := by
  rcases cpu.step_cases with ⟨fault, missing⟩ | ⟨word, present, undefined⟩ |
    ⟨word, pattern, fetches⟩
  -- A processor that awaits a key has its wait in memory, and is not refused.
  · have awake := valid.awake_of_missing missing
    rw [after_step, Action.after_of_error (step_of_missing missing), fetching_of_awake awake]
    exact { valid with }
  · have awake := valid.awake_of_undefined present undefined
    rw [after_step, Action.after_of_error (step_of_undefined present undefined)]
    refine ⟨valid.fetched_inRange present, valid.memory, valid.display, fun halted => ?_⟩
    exact absurd (cpu.fetching_halted.symm.trans halted) awake
  · obtain ⟨-, back, ahead⟩ := valid.fetched_counter fetches.present
    have same := after_step_of_fetches fetches
    obtain ⟨memory, display⟩ := valid.shape_after .step
    refine ⟨?_, memory, display, ?_⟩
    · rw [same]
      exact pattern.effect_inRange word _ (valid.fetched_inRange fetches.present) back ahead
    · rw [same]
      exact valid.executed_waits fetches

theorem Valid.load (valid : Valid cpu) (awake : ¬cpu.state.halted = true) (program : List Int) :
    Valid (cpu.after (.load program)) := by
  have size := (valid.shape_after (.load program)).1
  rw [after_load] at size ⊢
  exact ⟨valid.range, size, valid.display, fun halted => absurd halted awake⟩

theorem Valid.after (valid : Valid cpu) (event : Event)
    (permitted : cpu.state.halted = true → ∀ program, event ≠ .load program) :
    Valid (cpu.after event) := by
  cases event with
  | load program => exact valid.load (fun halted => permitted halted program rfl) program
  | step => exact valid.step
  | press key =>
      rw [after_press]
      exact { valid with }
  | release key =>
      rw [after_release]
      exact { valid with }
  | tick =>
      rw [after_tick]
      refine ⟨valid.range.tick, valid.memory, valid.display, ?_⟩
      have halted : cpu.state.tick.halted = cpu.state.halted := by
        rw [Registers.tick]
        split <;> rfl
      have counter : cpu.state.tick.pc = cpu.state.pc := by
        rw [Registers.tick]
        split <;> rfl
      intro waits
      have before := valid.waiting (halted.symm.trans waits)
      rw [← counter] at before
      exact before
  | reset =>
      rw [after_reset]
      refine ⟨Registers.initial_inRange, valid.memory, valid.display, fun halted => ?_⟩
      cases halted

theorem Reachable.valid (reachable : Reachable cpu) : Valid cpu := by
  induction reachable with
  | start random => exact start_valid random
  | event event _ permitted ih => exact ih.after event permitted

theorem start_confined (random : RandomSource) : Confined (ofBus { random := random }) :=
  (start_valid random).confined

theorem Confined.step (confined : Confined cpu) : Confined (cpu.after .step) := by
  have memory : (cpu.after .step).bus.memory.size = 4096 :=
    (congrArg Prod.fst (shape_after cpu .step)).trans confined.memory
  rcases cpu.step_cases with ⟨fault, missing⟩ | ⟨word, present, undefined⟩ |
    ⟨word, pattern, fetches⟩
  · rw [after_step, Action.after_of_error (step_of_missing missing)]
    refine ⟨?_, ?_, confined.memory⟩
    · rw [fetching_eq]
      exact confined.range
    · rw [fetching]
      split
      · exact ⟨Int.emod_nonneg _ (by decide), Int.emod_lt_of_pos _ (by decide)⟩
      · exact confined.counter
  · have range := confined.fetched_inRange present
    rw [after_step, Action.after_of_error (step_of_undefined present undefined)]
    exact ⟨range.goto (by decide) (by decide), range.sixteenBits, confined.memory⟩
  · obtain ⟨-, back, ahead⟩ := confined.fetched_counter fetches.present
    have range := pattern.effect_inRange word (some cpu.fetching.pc)
      (confined.fetched_inRange fetches.present) back ahead
    rw [← executed, ← after_step_of_fetches fetches] at range
    exact ⟨range.goto (by decide) (by decide), range.sixteenBits, memory⟩

theorem Confined.after (confined : Confined cpu) (event : Event) : Confined (cpu.after event) := by
  have memory : (cpu.after event).bus.memory.size = 4096 :=
    (congrArg Prod.fst (shape_after cpu event)).trans confined.memory
  cases event with
  | load program =>
      rw [after_load] at memory ⊢
      exact ⟨confined.range, confined.counter, memory⟩
  | step => exact confined.step
  | press key =>
      rw [after_press]
      exact { confined with }
  | release key =>
      rw [after_release]
      exact { confined with }
  | tick =>
      have ticked :
          { cpu.state.tick with pc := 0 } = Registers.tick { cpu.state with pc := 0 } := by
        rw [Registers.tick, Registers.tick]
        split <;> rfl
      have counter : cpu.state.tick.pc = cpu.state.pc := by
        rw [Registers.tick]
        split <;> rfl
      rw [after_tick]
      exact ⟨ticked ▸ confined.range.tick, counter ▸ confined.counter, confined.memory⟩
  | reset =>
      rw [after_reset]
      have initial := Registers.initial_inRange
      exact ⟨initial.goto (by decide) (by decide), initial.sixteenBits, confined.memory⟩

theorem confined_afterAll (random : RandomSource) (events : List Event) :
    Confined ((ofBus { random := random }).afterAll events) := by
  have start := start_confined random
  generalize ofBus { random := random } = cpu at start
  induction events generalizing cpu with
  | nil => exact start
  | cons event rest ih => exact ih _ (start.after event)

end Cpu

end Chip8
