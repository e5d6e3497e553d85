import Chip8.Proofs.Aftermath
import Chip8.Proofs.Faults
import Chip8.Proofs.Footprint
/-!
Calls and returns. Besides these two instructions only a reset touches the stack, so what lies below
a call is still there when the call returns, however deep the calls in between went.
-/

namespace Chip8

namespace Cpu

variable {cpu : Cpu}

def completes? (cpu : Cpu) : Event → Option Operation
  | .step =>
    match Cpu.step cpu with
    | .ok operation _ => some operation
    | .error _ _ => none
  | _ => none

def completed (cpu : Cpu) : List Event → List Operation
  | [] => []
  | event :: rest => (cpu.completes? event).toList ++ completed (cpu.after event) rest

def count (cpu : Cpu) (pattern : Pattern) (events : List Event) : Nat :=
  (cpu.completed events).countP fun operation => operation.pattern == pattern.text

theorem completes_eq_some {event : Event} {operation : Operation} :
    cpu.completes? event = some operation ↔
      event = .step ∧ Cpu.step cpu = .ok operation (cpu.after event) := by
  constructor
  · intro done
    cases event with
    | step =>
        rw [completes?, after_step] at *
        cases result : Cpu.step cpu with
        | ok other next =>
            rw [result] at done
            cases done
            rw [Action.after_of_ok result]
            exact ⟨rfl, rfl⟩
        | error fault left =>
            rw [result] at done
            cases done
    | _ => cases done
  · rintro ⟨rfl, went⟩
    rw [completes?, went]

theorem stack_of_call {word : Opcode} {machine : Machine}
    (executed : cpu.executing word .call = .ok () machine) :
    machine.state.stack = cpu.state.stack ++ [(cpu.fetching.pc + 2) % 0x10000] := by
  have pushed : machine.state.stack = cpu.fetched.state.stack ++ [cpu.fetched.state.pc] := by
    rw [← Action.after_of_ok executed]
    rfl
  rw [fetched_stack, fetched_counter] at pushed
  exact pushed

theorem stack_of_return {word : Opcode} {machine : Machine}
    (executed : cpu.executing word .ret = .ok () machine) :
    cpu.state.stack = machine.state.stack ++ [machine.state.pc] := by
  have popped : Effect.ret (some cpu.fetching.pc) cpu.fetched = .ok () machine := executed
  rw [← cpu.fetched_stack]
  rcases List.eq_nil_or_concat cpu.fetched.state.stack with empty | ⟨older, target, called⟩
  · rw [Effect.ret_of_empty _ empty] at popped
    cases popped
  · rw [List.concat_eq_append] at called
    rw [Effect.ret_of_call _ called] at popped
    cases popped
    exact called

theorem stack_of_other {word : Opcode} {pattern : Pattern} {machine : Machine}
    (call : pattern ≠ .call) (ret : pattern ≠ .ret)
    (executed : cpu.executing word pattern = .ok () machine) :
    machine.state.stack = cpu.state.stack := by
  have other : pattern ∉ Part.stack.writers := by simp [Part.writers, call, ret]
  exact content_of_executed other (by decide) executed

theorem stack_of_step_ok {next : Cpu} {operation : Operation}
    (went : Cpu.step cpu = .ok operation next) :
    (operation.pattern = "2NNN" ∧
      next.state.stack = cpu.state.stack ++ [(cpu.fetching.pc + 2) % 0x10000]) ∨
    (operation.pattern = "00EE" ∧ cpu.state.stack = next.state.stack ++ [next.state.pc]) ∨
    (operation.pattern ≠ "2NNN" ∧ operation.pattern ≠ "00EE" ∧
      next.state.stack = cpu.state.stack) := by
  obtain ⟨word, pattern, -, executed, rfl, -⟩ := step_eq_ok went
  by_cases call : pattern = .call
  · subst call
    exact .inl ⟨rfl, stack_of_call executed⟩
  · by_cases ret : pattern = .ret
    · subst ret
      exact .inr (.inl ⟨rfl, stack_of_return executed⟩)
    · exact .inr (.inr ⟨fun same => call (Pattern.text_inj same),
        fun same => ret (Pattern.text_inj same), stack_of_other call ret executed⟩)

theorem stack_of_step_error {left : Cpu} {fault : Fault}
    (refused : Cpu.step cpu = .error fault left) : left.state.stack = cpu.state.stack := by
  have control : cpu.fetched.state.control.stack = cpu.state.stack := cpu.fetched_stack
  rcases (step_eq_error refused).2 with ⟨-, same⟩ | ⟨word, -, -, -, same⟩ |
    ⟨word, pattern, -, executed⟩
  · rw [same]
    change cpu.fetching.stack = _
    rw [fetching_eq]
  · rw [same, fetched_stack]
  · have kept := congrArg Registers.stack (Pattern.effect_left executed).control
    exact kept.trans control

theorem stack_cases (cpu : Cpu) {event : Event} (other : event ≠ .reset) :
    (∃ operation, cpu.completes? event = some operation ∧ operation.pattern = "2NNN" ∧
      (cpu.after event).state.stack = cpu.state.stack ++ [(cpu.fetching.pc + 2) % 0x10000]) ∨
    (∃ operation, cpu.completes? event = some operation ∧ operation.pattern = "00EE" ∧
      cpu.state.stack = (cpu.after event).state.stack ++ [(cpu.after event).state.pc]) ∨
    ((∀ operation, cpu.completes? event = some operation →
        operation.pattern ≠ "2NNN" ∧ operation.pattern ≠ "00EE") ∧
      (cpu.after event).state.stack = cpu.state.stack) := by
  cases event with
  | reset => exact absurd rfl other
  | step =>
      cases result : Cpu.step cpu with
      | ok operation next =>
          have same : cpu.after .step = next := (after_step cpu).trans (Action.after_of_ok result)
          have done : cpu.completes? .step = some operation := by rw [completes?, result]
          rw [same, done]
          rcases stack_of_step_ok result with ⟨call, pushed⟩ | ⟨ret, popped⟩ | ⟨call, ret, kept⟩
          · exact .inl ⟨operation, rfl, call, pushed⟩
          · exact .inr (.inl ⟨operation, rfl, ret, popped⟩)
          · refine .inr (.inr ⟨?_, kept⟩)
            rintro _ ⟨⟩
            exact ⟨call, ret⟩
      | error fault left =>
          have same : cpu.after .step = left :=
            (after_step cpu).trans (Action.after_of_error result)
          have done : cpu.completes? .step = none := by rw [completes?, result]
          rw [same, done]
          refine .inr (.inr ⟨?_, stack_of_step_error result⟩)
          rintro _ ⟨⟩
  | load program =>
      rw [after_load]
      exact .inr (.inr ⟨fun _ done => (by cases done), rfl⟩)
  | press key =>
      rw [after_press]
      exact .inr (.inr ⟨fun _ done => (by cases done), rfl⟩)
  | release key =>
      rw [after_release]
      exact .inr (.inr ⟨fun _ done => (by cases done), rfl⟩)
  | tick =>
      have kept : cpu.state.tick.stack = cpu.state.stack := by
        rw [Registers.tick]
        split <;> rfl
      exact .inr (.inr ⟨fun _ done => (by cases done), kept⟩)

/-- Entries stay at the bottom of the stack until a return takes the last of them away. -/
theorem prefix_after {older : List Int} {target : Int} {event : Event} (other : event ≠ .reset)
    (held : older ++ [target] <+: cpu.state.stack) :
    older ++ [target] <+: (cpu.after event).state.stack ∨
    ((∃ operation, cpu.completes? event = some operation ∧ operation.pattern = "00EE") ∧
      (cpu.after event).state.stack = older ∧ (cpu.after event).state.pc = target) := by
  rcases cpu.stack_cases other with ⟨operation, -, -, pushed⟩ | ⟨operation, done, ret, popped⟩ |
    ⟨-, kept⟩
  · rw [pushed]
    exact .inl (held.trans (List.prefix_append _ _))
  · rw [popped] at held
    rcases List.prefix_concat_iff.mp held with whole | shorter
    · obtain ⟨stack, counter⟩ := List.append_inj' whole rfl
      exact .inr ⟨⟨operation, done, ret⟩, stack.symm, (List.singleton_inj.mp counter).symm⟩
    · exact .inl shorter
  · rw [kept]
    exact .inl held

/-- A run in which the stack stays above these entries leaves them alone, or ends with the return
that takes the last of them away. -/
theorem prefix_afterAll {older : List Int} {target : Int} {events : List Event}
    (continued : ∀ event ∈ events, event ≠ .reset) (held : older ++ [target] <+: cpu.state.stack)
    (deeper : ∀ n < events.length,
      older.length < (cpu.afterAll (events.take n)).state.stack.length) :
    older ++ [target] <+: (cpu.afterAll events).state.stack ∨
    ((∃ before operation, events = before ++ [.step] ∧
        Cpu.step (cpu.afterAll before) = .ok operation (cpu.afterAll events) ∧
        operation.pattern = "00EE") ∧
      (cpu.afterAll events).state.stack = older ∧ (cpu.afterAll events).state.pc = target) := by
  induction events generalizing cpu with
  | nil => exact .inl held
  | cons event rest ih =>
      have others : ∀ later ∈ rest, later ≠ .reset :=
        fun later member => continued later (List.mem_cons_of_mem event member)
      rcases prefix_after (continued event List.mem_cons_self) held with
        still | ⟨⟨operation, done, ret⟩, stack, counter⟩
      · have above : ∀ n < rest.length,
            older.length < ((cpu.after event).afterAll (rest.take n)).state.stack.length :=
          fun n short => deeper (n + 1) (Nat.succ_lt_succ short)
        rcases ih others still above with later | ⟨⟨before, last, rfl, went, ret⟩, stack, counter⟩
        · exact .inl later
        · exact .inr ⟨⟨event :: before, last, rfl, went, ret⟩, stack, counter⟩
      · cases rest with
        | nil =>
            obtain ⟨rfl, went⟩ := completes_eq_some.mp done
            exact .inr ⟨⟨[], operation, rfl, went, ret⟩, stack, counter⟩
        | cons next rest =>
            -- The stack is down, so that the run must end with this return.
            have above := deeper 1 (Nat.succ_lt_succ (Nat.succ_pos _))
            change older.length < (cpu.after event).state.stack.length at above
            rw [stack] at above
            exact absurd above (Nat.lt_irrefl _)

theorem count_cons (cpu : Cpu) (pattern : Pattern) (event : Event) (rest : List Event) :
    cpu.count pattern (event :: rest) =
      (cpu.completes? event).toList.countP (fun operation => operation.pattern == pattern.text) +
        (cpu.after event).count pattern rest := by
  rw [count, completed, List.countP_append, count]

theorem depth_after (cpu : Cpu) {event : Event} (other : event ≠ .reset) :
    (cpu.after event).state.stack.length +
        (cpu.completes? event).toList.countP (fun done => done.pattern == Pattern.ret.text) =
      cpu.state.stack.length +
        (cpu.completes? event).toList.countP (fun done => done.pattern == Pattern.call.text) := by
  rcases cpu.stack_cases other with ⟨operation, done, call, pushed⟩ |
    ⟨operation, done, ret, popped⟩ | ⟨neither, kept⟩
  · rw [done, pushed]
    simp [call, Pattern.text]
  · rw [done, popped]
    simp [ret, Pattern.text]
  · rw [kept]
    cases done : cpu.completes? event with
    | none => rfl
    | some operation =>
        obtain ⟨call, ret⟩ := neither operation done
        simp [call, ret, Pattern.text]

theorem depth_afterAll (cpu : Cpu) {events : List Event}
    (continued : ∀ event ∈ events, event ≠ .reset) :
    (cpu.afterAll events).state.stack.length + cpu.count .ret events =
      cpu.state.stack.length + cpu.count .call events := by
  induction events generalizing cpu with
  | nil => rfl
  | cons event rest ih =>
      have first := cpu.depth_after (continued event List.mem_cons_self)
      have later := ih (cpu.after event)
        fun other member => continued other (List.mem_cons_of_mem event member)
      rw [afterAll_cons, count_cons, count_cons]
      omega

/-- Only a return can find the stack empty. -/
theorem underflow_iff (cpu : Cpu) (address : Option Int) :
    (∃ left, Cpu.step cpu = .error (.emptyStack address) left) ↔
      address = some cpu.fetching.pc ∧ (∃ word, cpu.Fetches word .ret) ∧ cpu.state.stack = [] := by
  constructor
  · rintro ⟨left, refused⟩
    rcases (step_eq_error refused).2 with ⟨missing, -⟩ | ⟨word, -, -, clash, -⟩ |
      ⟨word, pattern, fetches, executed⟩
    · cases Memory.readWord_kind missing
    · cases clash
    · have foreseen := Action.refusal_of_error executed
      have ret := Pattern.underflow_mem_kinds.mp (pattern.effect_kinds word _ _ _ foreseen)
      subst ret
      rw [show (Pattern.ret.effect word (some cpu.fetching.pc)).refusal? cpu.fetched = _ from
        Effect.refusal_ret _, fetched_stack] at foreseen
      split at foreseen
      next empty =>
          cases foreseen
          exact ⟨rfl, ⟨word, fetches⟩, empty⟩
      next => cases foreseen
  · rintro ⟨rfl, ⟨word, fetches⟩, empty⟩
    exact ⟨_, step_of_refused fetches
      (Effect.ret_of_empty _ (cpu.fetched_stack.trans empty))⟩

def Fresh (cpu : Cpu) : Prop := (∃ bus, cpu = ofBus bus) ∨ ∃ old : Cpu, cpu = old.after .reset

theorem Fresh.stack (fresh : Fresh cpu) : cpu.state.stack = [] := by
  rcases fresh with ⟨bus, rfl⟩ | ⟨old, rfl⟩
  · rfl
  · rw [after_reset]
    rfl

theorem stack_of_called {called : Cpu} {operation : Operation} {address : Int}
    (went : Cpu.step cpu = .ok operation called) (call : operation.pattern = "2NNN")
    (place : operation.address = some address) :
    called.state.stack = cpu.state.stack ++ [(address + 2) % 0x10000] ∧
      (cpu.bus.memory.size < 0x10000 → (address + 2) % 0x10000 = address + 2) := by
  obtain ⟨word, pattern, fetches, -, rfl, -⟩ := step_eq_ok went
  have here : cpu.fetching.pc = address := Option.some.inj place
  obtain ⟨low, high⟩ := Memory.inside_of_readWord fetches.present
  rw [here] at low high
  refine ⟨?_, fun small => Int.emod_eq_of_lt (by omega) (by omega)⟩
  rcases stack_of_step_ok went with ⟨-, pushed⟩ | ⟨ret, -⟩ | ⟨other, -, -⟩
  · rw [pushed, here]
  · rw [call] at ret
    exact absurd ret (by decide)
  · exact absurd call other

/-- From a call on, and as long as the stack is deeper than before, the stack starts with what it
held then and the address behind the call. The first time it is not deeper, a return has gone there.
So the depth of the stack is the number of calls less that of returns, and the returns that fail are
those for which these numbers are equal. The address goes round at sixteen bits, which takes a
memory with that many addresses. -/
theorem subroutine_discipline :
    (∀ (cpu called : Cpu) (operation : Operation) (address : Int) (events : List Event),
      Cpu.step cpu = .ok operation called → operation.pattern = "2NNN" →
      operation.address = some address → (∀ event ∈ events, event ≠ .reset) →
      (∀ n < events.length,
        cpu.state.stack.length < (called.afterAll (events.take n)).state.stack.length) →
      (cpu.state.stack.length < (called.afterAll events).state.stack.length →
        cpu.state.stack ++ [(address + 2) % 0x10000] <+: (called.afterAll events).state.stack) ∧
      ((called.afterAll events).state.stack.length ≤ cpu.state.stack.length →
        (∃ before last, events = before ++ [.step] ∧
          Cpu.step (called.afterAll before) = .ok last (called.afterAll events) ∧
          last.pattern = "00EE") ∧
        (called.afterAll events).state.stack = cpu.state.stack ∧
        (called.afterAll events).state.pc = (address + 2) % 0x10000) ∧
      (cpu.bus.memory.size < 0x10000 → (address + 2) % 0x10000 = address + 2)) ∧
    (∀ (start : Cpu) (events : List Event), Fresh start → (∀ event ∈ events, event ≠ .reset) →
      ((start.afterAll events).state.stack.length : Int) =
        start.count .call events - start.count .ret events ∧
      ∀ address,
        (∃ left, Cpu.step (start.afterAll events) = .error (.emptyStack address) left) ↔
          address = some (start.afterAll events).fetching.pc ∧
            (∃ word, (start.afterAll events).Fetches word .ret) ∧
            start.count .call events = start.count .ret events) := by
  refine ⟨?nested, ?counted⟩
  case nested =>
      intro cpu called operation address events went call place continued deeper
      obtain ⟨pushed, exact⟩ := stack_of_called went call place
      have held : cpu.state.stack ++ [(address + 2) % 0x10000] <+: called.state.stack :=
        ⟨[], by rw [List.append_nil, pushed]⟩
      rcases prefix_afterAll continued held deeper with still | ⟨last, stack, counter⟩
      · have above := still.length_le
        rw [List.length_append, List.length_singleton] at above
        exact ⟨fun _ => still, fun back => absurd above (Nat.not_le.mpr (Nat.lt_succ_of_le back)),
          exact⟩
      · refine ⟨fun above => ?_, fun _ => ⟨last, stack, counter⟩, exact⟩
        rw [stack] at above
        exact absurd above (Nat.lt_irrefl _)
  case counted =>
      intro start events fresh continued
      have depth := depth_afterAll start continued
      rw [fresh.stack, List.length_nil] at depth
      refine ⟨by omega, fun address => ?_⟩
      rw [underflow_iff, ← List.length_eq_zero_iff]
      have equal : (start.afterAll events).state.stack.length = 0 ↔
          start.count .call events = start.count .ret events := by omega
      rw [equal]

def callAndReturn : List Int := [0x22, 0x04, 0x00, 0x00, 0x00, 0xEE]

theorem subroutine_discipline_return :
    ((loaded callAndReturn).afterAll [.step, .step]).state.stack = [] ∧
    ((loaded callAndReturn).afterAll [.step, .step]).state.pc = 0x202 ∧
    (ofBus {}).count .call [.load callAndReturn, .step, .step] =
      (ofBus {}).count .ret [.load callAndReturn, .step, .step] := by
  have fits : 0x200 + callAndReturn.length ≤ Memory.default.size := by decide
  have first : (loaded callAndReturn).Fetches 0x2204 .call :=
    fetches_of_loaded .default callAndReturn rfl fits 0 (by decide) rfl rfl
  let one : Cpu := ⟨(loaded callAndReturn).fetched.withState
    { (loaded callAndReturn).fetched.state with stack := [0x202], pc := 0x204 }, 1⟩
  have second : one.Fetches 0x00EE .ret :=
    fetches_of_loaded .default callAndReturn rfl fits 4 (by decide) rfl rfl
  have called : Cpu.step (loaded callAndReturn) = .ok (.ofPattern .call 0x2204 (some 0x200)) one :=
    step_of_executed first rfl
  have returned : one.after .step = ⟨one.fetched.withState
      { one.fetched.state with stack := [], pc := 0x202 }, 2⟩ :=
    after_step_of_executed second rfl
  have ran : (loaded callAndReturn).afterAll [.step, .step] = one.afterAll [.step] := by
    have afterFirst : (loaded callAndReturn).after .step = one := after_step_of_executed first rfl
    rw [afterAll_cons, afterFirst]
  have above : ∀ n < [Event.step].length, (loaded callAndReturn).state.stack.length <
      (one.afterAll ([Event.step].take n)).state.stack.length := by
    intro n short
    obtain rfl := Nat.lt_one_iff.mp short
    decide
  have back : (one.afterAll [.step]).state.stack.length ≤
      (loaded callAndReturn).state.stack.length := by
    rw [afterAll_cons, returned]
    decide
  obtain ⟨-, emptied, -⟩ := subroutine_discipline.1 _ one _ 0x200 [.step] called rfl rfl
    (by decide) above
  obtain ⟨-, stack, counter⟩ := emptied back
  have counted := (subroutine_discipline.2 (ofBus {}) [.load callAndReturn, .step, .step]
    (.inl ⟨{}, rfl⟩) (by decide)).1
  have same : (ofBus {}).afterAll [.load callAndReturn, .step, .step] =
      (loaded callAndReturn).afterAll [.step, .step] := by
    rw [afterAll_cons, loaded]
  rw [same, ran, stack, loaded_state, List.length_nil] at counted
  rw [ran]
  exact ⟨stack, counter, by omega⟩

def standing (bus : Bus) (pc : Int) (count : Nat) : Cpu := ⟨⟨{ pc := pc }, bus⟩, count⟩

theorem load_standing (memory : Memory) (program : List Int) :
    ∃ bus : Bus, bus.memory = (Memory.loadProgram program).after memory ∧
      (ofBus { memory := memory }).after (.load program) = standing bus 0x200 0 :=
  ⟨{ memory := (Memory.loadProgram program).after memory }, rfl, after_load _ _⟩

theorem runs_through {memory : Memory} {program : List Int} {bus : Bus} (count : Nat)
    (stored : bus.memory = (Memory.loadProgram program).after memory)
    (fits : 0x200 + program.length ≤ memory.size) (inside : 2 * count ≤ program.length)
    (small : 0x200 + 2 * count < 0x10000)
    (compares : ∀ place < 2 * count, program.getD place 0 = 0x99) :
    (standing bus 0x200 0).afterAll (List.replicate count .step) =
      standing bus (0x200 + (2 * count : Nat)) count := by
  induction count with
  | zero => rfl
  | succ count ih =>
      have before := ih (by omega) (by omega) fun place short => compares place (by omega)
      have high := compares (2 * count) (by omega)
      have low := compares (2 * count + 1) (by omega)
      have decoded : Pattern.ofOpcode? (program.getD (2 * count) 0 % 256 * 256 +
          program.getD (2 * count + 1) 0 % 256) = some .skipNe := by
        rw [high, low]
        rfl
      have fetches : (standing bus (0x200 + (2 * count : Nat)) count).Fetches _ .skipNe :=
        fetches_of_loaded memory program stored fits (2 * count) (by omega) rfl decoded
      rw [high, low] at fetches
      have stepped : (standing bus (0x200 + (2 * count : Nat)) count).after .step =
          standing bus ((0x200 + (2 * count : Nat) + 2) % 0x10000) (count + 1) :=
        after_step_of_executed fetches rfl
      have next : ((0x200 : Int) + (2 * count : Nat) + 2) % 0x10000 =
          0x200 + (2 * (count + 1) : Nat) := by omega
      rw [afterAll_replicate_succ, before, stepped, next]

/-- Goes on to the last word below the address `0x10000`, and calls a subroutine from there. -/
def callFromTheEnd : List Int := List.replicate 65022 0x99 ++ [0x22, 0x00]

theorem length_callFromTheEnd : callFromTheEnd.length = 65024 := by
  rw [callFromTheEnd, List.length_append, List.length_replicate]
  rfl

theorem getD_callFromTheEnd {place : Nat} (short : place < 65022) :
    callFromTheEnd.getD place 0 = 0x99 := by
  have inside : place < (List.replicate 65022 (0x99 : Int)).length := by
    rw [List.length_replicate]
    exact short
  rw [callFromTheEnd, List.getD_eq_getElem?_getD, List.getElem?_append_left inside,
    List.getElem?_eq_getElem inside, List.getElem_replicate, Option.getD_some]

theorem getD_callFromTheEnd_last (place : Nat) :
    callFromTheEnd.getD (65022 + place) 0 = [0x22, 0x00].getD place 0 := by
  have behind : (List.replicate 65022 (0x99 : Int)).length ≤ 65022 + place := by
    rw [List.length_replicate]
    exact Nat.le_add_right _ _
  rw [callFromTheEnd, List.getD_eq_getElem?_getD, List.getElem?_append_right behind,
    List.length_replicate, Nat.add_sub_cancel_left, List.getD_eq_getElem?_getD]

def beforeTheEnd : Cpu :=
  ((ofBus { memory := Memory.ofSize 0x10000 }).after (.load callFromTheEnd)).afterAll
    (List.replicate 32511 .step)

theorem beforeTheEnd_eq :
    ∃ bus, beforeTheEnd = standing bus 0xFFFE 32511 ∧ beforeTheEnd.Fetches 0x2200 .call := by
  obtain ⟨bus, stored, started⟩ := load_standing (Memory.ofSize 0x10000) callFromTheEnd
  have fits : 0x200 + callFromTheEnd.length ≤ (Memory.ofSize 0x10000).size := by
    rw [length_callFromTheEnd]
    decide
  have inside : 65022 + 1 < callFromTheEnd.length := by
    rw [length_callFromTheEnd]
    decide
  have high := getD_callFromTheEnd_last 0
  have low := getD_callFromTheEnd_last 1
  have ran : beforeTheEnd = standing bus (0x200 + (2 * 32511 : Nat)) 32511 := by
    rw [beforeTheEnd, started]
    exact runs_through 32511 stored fits (Nat.le_of_lt (Nat.lt_of_succ_lt inside)) (by decide)
      fun place short => getD_callFromTheEnd short
  have fetches : (standing bus (0x200 + (2 * 32511 : Nat)) 32511).Fetches _ .call :=
    fetches_of_loaded _ callFromTheEnd stored fits 65022 inside rfl (by rw [high, low]; rfl)
  rw [high, low] at fetches
  exact ⟨bus, ran, ran ▸ fetches⟩

/-- The return address of a call from the last word goes round. -/
theorem subroutine_discipline_not_exact :
    ∃ operation called, Cpu.step beforeTheEnd = .ok operation called ∧
      operation.pattern = "2NNN" ∧ operation.address = some 0xFFFE ∧
      beforeTheEnd.state.stack.length < called.state.stack.length ∧
      ¬beforeTheEnd.state.stack ++ [0xFFFE + 2] <+: called.state.stack := by
  obtain ⟨bus, stands, fetches⟩ := beforeTheEnd_eq
  rw [stands] at fetches ⊢
  refine ⟨_, _, step_of_executed fetches rfl, rfl, rfl, Nat.zero_lt_one, ?_⟩
  change ¬[0xFFFE + 2] <+: [(0 : Int)]
  decide

end Cpu

end Chip8
