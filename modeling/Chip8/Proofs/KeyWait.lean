import Chip8.Proofs.Footprint
import Chip8.Proofs.Invariant
import Chip8.Proofs.Keyboard

namespace Chip8

theorem Registers.get_of_woken {before after : Registers} {x : Fin 16} {value : Int}
    (woken : after = { before.set x value with halted := false }) : after.get x = value := by
  rw [woken]
  exact get_set_same before x value

theorem Opcode.x_of_waitKey (x : Fin 16) : Opcode.x (0xF00A + 0x100 * x.val) = x := by
  revert x
  decide

namespace Cpu

variable {cpu : Cpu}

section Counting

def counting (cpu : Cpu) (more : Nat) : Cpu :=
  { cpu with instructionCount := cpu.instructionCount + more }

theorem counting_counting (cpu : Cpu) (first second : Nat) :
    (cpu.counting first).counting second = cpu.counting (first + second) := by
  simp only [counting, Nat.add_assoc]

theorem after_step_counting (cpu : Cpu) (more : Nat) :
    (cpu.counting more).after .step = (cpu.after .step).counting more := by
  rw [after_step, after_step, Action.after, Action.after, step, Hooks.step, Hooks.step]
  have same : (cpu.counting more).toCore = cpu.toCore := rfl
  rw [same]
  cases hooks.cycle cpu.toCore with
  | ok operation core => simp only [counting, Nat.add_right_comm]
  | error fault core => rfl

/-- No event but a reset looks at the count. -/
theorem after_counting (cpu : Cpu) (more : Nat) {event : Event} (other : event ≠ .reset) :
    (cpu.counting more).after event = (cpu.after event).counting more := by
  cases event with
  | step => exact after_step_counting cpu more
  | load program => simp only [after_load, counting]
  | press key => simp only [after_press, counting]
  | release key => simp only [after_release, counting]
  | tick => rfl
  | reset => exact absurd rfl other

theorem afterAll_counting (cpu : Cpu) (more : Nat) {events : List Event}
    (continued : ∀ event ∈ events, event ≠ .reset) :
    (cpu.counting more).afterAll events = (cpu.afterAll events).counting more := by
  induction events generalizing cpu with
  | nil => rfl
  | cons event rest ih =>
      have first := continued event List.mem_cons_self
      rw [afterAll_cons, afterAll_cons, after_counting cpu more first]
      apply ih
      intro later member
      exact continued later (List.mem_cons_of_mem event member)

end Counting

section Waiting

def woken (cpu : Cpu) (x key : Fin 16) : Cpu :=
  ⟨⟨{ cpu.state.set x key.val with halted := false },
    { cpu.bus with keyboard := ⟨Index.update cpu.bus.keyboard.held key false⟩ }⟩,
    cpu.instructionCount + 1⟩

/-- Going back to the wait and passing it again comes to nothing. -/
theorem Valid.fetched_of_halted (valid : Valid cpu) (halted : cpu.state.halted = true) :
    cpu.fetched = cpu.toCore := by
  have back := (valid.waiting halted).1
  have ahead := valid.range.counter.2
  have here : cpu.fetching.pc = cpu.state.pc - 2 := by
    rw [valid.fetching_pc, fetchAddress, if_pos halted]
  have counter : cpu.fetching.advance.pc = cpu.state.pc := by
    calc
      cpu.fetching.advance.pc = (cpu.fetching.pc + 2) % 0x10000 := rfl
      _ = cpu.state.pc := by rw [here]; omega
  rw [fetched_eq, counter]

theorem Valid.fetches_of_halted (valid : Valid cpu) (halted : cpu.state.halted = true) :
    ∃ x : Fin 16,
      cpu.bus.memory.readWord (cpu.state.pc - 2) = .ok (0xF00A + 0x100 * x.val) ∧
        cpu.Fetches (0xF00A + 0x100 * x.val) .waitKey := by
  obtain ⟨x, present⟩ := valid.wait_word halted
  obtain ⟨word, fetches⟩ := valid.fetches_wait halted
  have found := fetches.present
  rw [valid.fetching_pc, fetchAddress, if_pos halted] at found
  have same := Except.ok.inj (found.symm.trans present)
  exact ⟨x, present, same ▸ fetches⟩

theorem Valid.executing_of_halted (valid : Valid cpu) (halted : cpu.state.halted = true)
    (x : Fin 16) :
    cpu.executing (0xF00A + 0x100 * x.val) .waitKey = Effect.waitKey x cpu.toCore := by
  calc
    cpu.executing (0xF00A + 0x100 * x.val) .waitKey =
        Effect.waitKey (Opcode.x (0xF00A + 0x100 * x.val)) cpu.fetched := rfl
    _ = Effect.waitKey x cpu.toCore := by
      rw [Opcode.x_of_waitKey, valid.fetched_of_halted halted]

theorem Valid.waits_on (valid : Valid cpu) (halted : cpu.state.halted = true)
    (released : cpu.bus.keyboard.pressed = []) {x : Fin 16}
    (fetches : cpu.Fetches (0xF00A + 0x100 * x.val) .waitKey) :
    Cpu.step cpu =
      .ok (.ofPattern .waitKey (0xF00A + 0x100 * x.val) (some cpu.fetching.pc))
        (cpu.counting 1) := by
  have none : cpu.toCore.bus.keyboard.pressed.head? = none := by rw [released]; rfl
  have still : Machine.withState cpu.toCore { cpu.state with halted := true } = cpu.toCore := by
    rw [← halted]
    rfl
  have executed := valid.executing_of_halted halted x
  rw [Effect.waitKey_of_released x none, still] at executed
  exact step_of_executed fetches executed

theorem Valid.wakes (valid : Valid cpu) (halted : cpu.state.halted = true) {key : Fin 16}
    (lowest : cpu.bus.keyboard.pressed.head? = some key) {x : Fin 16}
    (fetches : cpu.Fetches (0xF00A + 0x100 * x.val) .waitKey) :
    Cpu.step cpu =
      .ok (.ofPattern .waitKey (0xF00A + 0x100 * x.val) (some cpu.fetching.pc))
        (cpu.woken x key) := by
  have executed := valid.executing_of_halted halted x
  rw [Effect.waitKey_of_pressed x lowest] at executed
  exact step_of_executed fetches executed

theorem Valid.after_step_of_released (valid : Valid cpu) (halted : cpu.state.halted = true)
    (released : cpu.bus.keyboard.pressed = []) : cpu.after .step = cpu.counting 1 := by
  obtain ⟨x, -, fetches⟩ := valid.fetches_of_halted halted
  rw [after_step, Action.after_of_ok (valid.waits_on halted released fetches)]

theorem Valid.afterAll_steps (valid : Valid cpu) (halted : cpu.state.halted = true)
    (released : cpu.bus.keyboard.pressed = []) (count : Nat) :
    cpu.afterAll (List.replicate count .step) = cpu.counting count := by
  induction count with
  | zero => rfl
  | succ count ih =>
      calc
        cpu.afterAll (List.replicate (count + 1) .step) =
            (cpu.afterAll (List.replicate count .step)).after .step :=
          afterAll_replicate_succ cpu count .step
        _ = (cpu.counting count).after .step := by rw [ih]
        _ = (cpu.after .step).counting count := after_step_counting cpu count
        _ = cpu.counting (count + 1) := by
          rw [valid.after_step_of_released halted released, counting_counting, Nat.add_comm]

theorem Valid.halted_of_step_ok (valid : Valid cpu) {operation : Operation} {next : Cpu}
    (went : Cpu.step cpu = .ok operation next) :
    next.state.halted = true ↔ operation.pattern = "FX0A" ∧ cpu.bus.keyboard.pressed = [] := by
  obtain ⟨word, pattern, fetches, executed, rfl, -⟩ := step_eq_ok went
  obtain ⟨machine, count⟩ := next
  have keyboard : cpu.fetched.bus.keyboard = cpu.bus.keyboard := rfl
  by_cases wait : pattern = .waitKey
  · subst wait
    have waited : Effect.waitKey (Opcode.x word) cpu.fetched = .ok () machine := executed
    cases lowest : cpu.fetched.bus.keyboard.pressed.head? with
    | none =>
        rw [Effect.waitKey_of_released _ lowest] at waited
        cases waited
        rw [keyboard] at lowest
        exact ⟨fun _ => ⟨rfl, List.head?_eq_none_iff.mp lowest⟩, fun _ => rfl⟩
    | some key =>
        rw [Effect.waitKey_of_pressed _ lowest] at waited
        cases waited
        constructor
        · intro awake
          cases awake
        · rintro ⟨-, released⟩
          rw [keyboard, released] at lowest
          cases lowest
  -- No other instruction halts, and a halted processor carries out no other one.
  · have awake : ¬machine.state.halted = true := by
      have other : pattern ∉ Part.halted.writers := by simp [Part.writers, wait]
      have kept : machine.state.halted = cpu.state.halted :=
        content_of_executed other (by decide) executed
      rw [kept]
      exact valid.awake_of_fetches fetches wait
    constructor
    · intro halted
      exact absurd halted awake
    · rintro ⟨text, -⟩
      exact absurd (@Pattern.text_inj pattern .waitKey text) wait

/-- A processor that awaits a key carries out its wait. As long as no key is down, only the count of
instructions changes, so that steps put in at this point make no difference to any later events but
for the count. With keys down, the lowest of them is stored and released, and the wait is over. -/
theorem key_wait_stutters (reachable : Reachable cpu) :
    (cpu.state.halted = true → ∃ (x : Fin 16) (next : Cpu),
      cpu.bus.memory.readWord (cpu.state.pc - 2) = .ok (0xF00A + 0x100 * x.val) ∧
      Cpu.step cpu =
        .ok (.ofPattern .waitKey (0xF00A + 0x100 * x.val) (some (cpu.state.pc - 2))) next ∧
      (cpu.bus.keyboard.pressed = [] → next = cpu.counting 1) ∧
      (cpu.bus.keyboard.pressed ≠ [] → ∃ key ∈ cpu.bus.keyboard.pressed,
        (∀ other ∈ cpu.bus.keyboard.pressed, key ≤ other) ∧
        next.state = { cpu.state.set x key.val with halted := false } ∧
        next.bus = { cpu.bus with keyboard := next.bus.keyboard } ∧
        (∀ other, other ∈ next.bus.keyboard.pressed ↔
          other ∈ cpu.bus.keyboard.pressed ∧ other ≠ key) ∧
        next.instructionCount = cpu.instructionCount + 1)) ∧
    (cpu.state.halted = true → cpu.bus.keyboard.pressed = [] →
      ∀ (count : Nat) (later : List Event), (∀ event ∈ later, event ≠ .reset) →
        cpu.afterAll (List.replicate count .step ++ later) =
          (cpu.afterAll later).counting count) ∧
    ∀ operation next, Cpu.step cpu = .ok operation next →
      (next.state.halted = true ↔
        operation.pattern = "FX0A" ∧ cpu.bus.keyboard.pressed = []) := by
  have valid := reachable.valid
  refine ⟨?waiting, ?stutter, fun operation next went => valid.halted_of_step_ok went⟩
  case waiting =>
      intro halted
      obtain ⟨x, present, fetches⟩ := valid.fetches_of_halted halted
      have here : cpu.fetching.pc = cpu.state.pc - 2 := by
        rw [valid.fetching_pc, fetchAddress, if_pos halted]
      cases lowest : cpu.bus.keyboard.pressed.head? with
      | none =>
          have released := List.head?_eq_none_iff.mp lowest
          refine ⟨x, cpu.counting 1, present, ?_, fun _ => rfl, fun some => absurd released some⟩
          rw [← here]
          exact valid.waits_on halted released fetches
      | some key =>
          obtain ⟨member, least⟩ := Keyboard.lowest_of_head lowest
          refine ⟨x, cpu.woken x key, present, ?_, fun none => ?_, fun _ =>
            ⟨key, member, least, rfl, rfl, ?_, rfl⟩⟩
          · rw [← here]
            exact valid.wakes halted lowest fetches
          · rw [none] at member
            cases member
          · exact Keyboard.mem_pressed_up cpu.bus.keyboard key
  case stutter =>
      intro halted released count later continued
      rw [afterAll_append, valid.afterAll_steps halted released,
        afterAll_counting cpu count continued]

def awaiting : Cpu := (loaded [0xF3, 0x0A]).after .step

theorem awaiting_eq :
    awaiting = ⟨(loaded [0xF3, 0x0A]).fetched.withState
      { (loaded [0xF3, 0x0A]).fetched.state with halted := true }, 1⟩ := by
  have fetches : (loaded [0xF3, 0x0A]).Fetches 0xF30A .waitKey :=
    fetches_of_loaded .default [0xF3, 0x0A] rfl (by decide) 0 (by decide) rfl rfl
  have released : (loaded [0xF3, 0x0A]).fetched.bus.keyboard.pressed.head? = none := by decide
  exact after_step_of_executed fetches (Effect.waitKey_of_released 3 released)

def offered : Cpu := awaiting.afterAll [.press 9, .press 7]

theorem offered_reachable : offered.Reachable := by
  have awaits : awaiting.Reachable := (loaded_reachable [0xF3, 0x0A]).step
  rw [offered, afterAll_cons, afterAll_cons]
  exact (awaits.play (.press 9) trivial).play (.press 7) trivial

theorem offered_pressed : offered.bus.keyboard.pressed = [7, 9] := by
  rw [offered, awaiting_eq]
  decide

theorem offered_word :
    offered.bus.memory.readWord (offered.state.pc - 2) = .ok 0xF30A := by
  rw [offered, awaiting_eq]
  exact Memory.readWord_after_load .default 0x200 [0xF3, 0x0A] (by decide) (by decide) 0 (by decide)

/-- However long the wait, of two keys the lower one is stored. -/
theorem key_wait_stutters_two_keys :
    (awaiting.Reachable ∧ awaiting.state.halted = true ∧ awaiting.bus.keyboard.pressed = [] ∧
      ∀ count, awaiting.afterAll (List.replicate count .step ++ [.press 9, .press 7, .step]) =
        (awaiting.afterAll [.press 9, .press 7, .step]).counting count) ∧
    offered.Reachable ∧ offered.state.halted = true ∧ (offered.after .step).state.get 3 = 7 := by
  have reachable : awaiting.Reachable := (loaded_reachable [0xF3, 0x0A]).step
  have halted : awaiting.state.halted = true := by rw [awaiting_eq]; rfl
  have released : awaiting.bus.keyboard.pressed = [] := by rw [awaiting_eq]; decide
  have still : offered.state.halted = true := by rw [offered, awaiting_eq]; rfl
  refine ⟨⟨reachable, halted, released, ?_⟩, offered_reachable, still, ?_⟩
  · intro count
    exact (key_wait_stutters reachable).2.1 halted released count _ (by decide)
  · obtain ⟨x, next, present, went, -, woken⟩ := (key_wait_stutters offered_reachable).1 still
    obtain ⟨key, member, least, state, -⟩ := woken (by rw [offered_pressed]; decide)
    have third : x = 3 := by
      have same := Except.ok.inj (present.symm.trans offered_word)
      apply Fin.ext
      change x.val = 3
      omega
    have seventh : key = 7 := by
      rw [offered_pressed] at member least
      have low := least 7 (by decide)
      clear state
      revert key
      decide
    have stored := Registers.get_of_woken state
    rw [third, seventh] at stored
    rw [after_step, Action.after_of_ok went, stored]
    rfl

end Waiting

end Cpu

end Chip8
