import Mathlib.Algebra.GroupWithZero.Nat
import Chip8.Proofs.FrameLoop
import Chip8.Proofs.Replay
import Chip8.Proofs.Subroutine
/-!
The timers over a whole run. Each of them is set by an instruction of its own and by nothing else;
the delay timer is moreover counted down at the start of each frame. So both can be told from the
last instruction that set them, and from how many frames have begun since.
-/

namespace Chip8

inductive Timer where
  | delay | sound
  deriving DecidableEq, Repr

namespace Timer

def value : Timer → Registers → Int
  | delay => Registers.delayTimer
  | sound => Registers.soundTimer

def setter : Timer → Pattern
  | delay => .setDelay
  | sound => .setSound

variable {timer : Timer} {cpu : Cpu} {word : Opcode}

theorem step_of_setter (fetches : cpu.Fetches word timer.setter) :
    ∃ next, Cpu.step cpu =
        .ok (Operation.ofPattern timer.setter word (some cpu.fetching.pc)) next ∧
      timer.value next.state = cpu.state.get word.x := by
  have register : cpu.fetched.state.get word.x = cpu.state.get word.x :=
    Registers.get_congr cpu.fetched_numbered word.x
  cases timer with
  | delay => exact ⟨_, Cpu.step_of_executed fetches rfl, register⟩
  | sound => exact ⟨_, Cpu.step_of_executed fetches rfl, register⟩

theorem kept_by_step (other : ∀ word, ¬cpu.Fetches word timer.setter) :
    timer.value (cpu.after .step).state = timer.value cpu.state := by
  have kept (part : Part) (apart : part ≠ .counter) (sole : part.writers = [timer.setter]) :
      part.content (cpu.after .step).toCore = part.content cpu.toCore := by
    refine Cpu.content_after_step part apart fun pattern found written => ?_
    rw [sole, List.mem_singleton] at written
    obtain ⟨word, fetches⟩ := Cpu.fetches_of_next (written ▸ found)
    exact other word fetches
  cases timer with
  | delay => exact kept .delay (by decide) rfl
  | sound => exact kept .sound (by decide) rfl

theorem step_cases (timer : Timer) (cpu : Cpu) :
    (∃ operation, cpu.completes? .step = some operation ∧
      operation.pattern = timer.setter.text ∧
      timer.value (cpu.after .step).state = cpu.state.get operation.opcode.x) ∨
    ((∀ operation, cpu.completes? .step = some operation →
        operation.pattern ≠ timer.setter.text) ∧
      timer.value (cpu.after .step).state = timer.value cpu.state) := by
  by_cases sets : ∃ word, cpu.Fetches word timer.setter
  · obtain ⟨word, fetches⟩ := sets
    obtain ⟨next, went, value⟩ := step_of_setter fetches
    have same : cpu.after .step = next := (cpu.after_step).trans (Action.after_of_ok went)
    have done : cpu.completes? .step =
        some (Operation.ofPattern timer.setter word (some cpu.fetching.pc)) := by
      rw [Cpu.completes?, went]
    rw [same]
    exact .inl ⟨_, done, rfl, value⟩
  · have other := not_exists.mp sets
    refine .inr ⟨?_, kept_by_step other⟩
    intro operation done same
    obtain ⟨-, went⟩ := Cpu.completes_eq_some.mp done
    obtain ⟨word, pattern, fetches, -, rfl, -⟩ := Cpu.step_eq_ok went
    cases Pattern.text_inj same
    exact other word fetches

end Timer

/-- An instruction that has been carried out: in which frame, counted from 1, on which state of the
processor, and what it was. -/
structure Execution where
  frame : Nat
  before : Cpu
  operation : Operation

def Execution.vx (execution : Execution) : Int :=
  execution.before.state.get execution.operation.opcode.x

namespace Event

def frames : Event → Nat
  | tick => 1
  | _ => 0

end Event

/-- Nothing changes the delay timer but the start of a frame and the instruction that sets it. -/
theorem Timer.delay_changed {cpu : Cpu} {event : Event} (plays : event.Plays)
    (changed : (cpu.after event).state.delayTimer ≠ cpu.state.delayTimer) :
    event = .tick ∨
      ∃ operation, cpu.completes? event = some operation ∧ operation.pattern = "FX15" := by
  cases event with
  | step =>
      rcases Timer.delay.step_cases cpu with ⟨operation, done, sets, -⟩ | ⟨-, kept⟩
      · exact .inr ⟨operation, done, sets⟩
      · exact absurd kept changed
  | tick => exact .inl rfl
  | press key =>
      rw [cpu.state_after_press key] at changed
      exact absurd rfl changed
  | release key =>
      rw [cpu.state_after_release key] at changed
      exact absurd rfl changed
  | load program => exact plays.elim
  | reset => exact plays.elim

namespace Cpu

def executes (cpu : Cpu) (frame : Nat) (event : Event) : List Execution :=
  (cpu.completes? event).toList.map (Execution.mk frame cpu)

/-- The instructions that a run carries out, where `frame` frames have begun before it. -/
def executions (cpu : Cpu) (frame : Nat) : List Event → List Execution
  | [] => []
  | event :: rest =>
    cpu.executes frame event ++ (cpu.after event).executions (frame + event.frames) rest

theorem executions_split {cpu : Cpu} {frame : Nat} {events : List Event}
    {earlier later : List Execution} {execution : Execution}
    (split : cpu.executions frame events = earlier ++ execution :: later) :
    ∃ past rest, events = past ++ .step :: rest ∧ earlier = cpu.executions frame past ∧
      execution.frame = frame + (past.map Event.frames).sum ∧
      execution.before = cpu.afterAll past ∧
      Cpu.step execution.before =
        .ok execution.operation (execution.before.after .step) := by
  induction events generalizing cpu frame earlier with
  | nil => simp [executions] at split
  | cons event rest ih =>
      rw [executions] at split
      cases done : cpu.completes? event with
      | none =>
          have nothing : cpu.executes frame event = [] := by
            rw [executes, done]
            rfl
          rw [nothing] at split
          obtain ⟨past, others, rfl, rfl, number, before, went⟩ := ih split
          refine ⟨event :: past, others, rfl, ?_, ?_, before, went⟩
          · rw [executions, nothing]
            rfl
          · rw [number, List.map_cons, List.sum_cons, Nat.add_assoc]
      | some operation =>
          have here : cpu.executes frame event = [⟨frame, cpu, operation⟩] := by
            rw [executes, done]
            rfl
          obtain ⟨rfl, went⟩ := completes_eq_some.mp done
          rw [here] at split
          cases earlier with
          | nil =>
              cases List.head_eq_of_cons_eq split
              exact ⟨[], rest, rfl, rfl, rfl, rfl, went⟩
          | cons first earlier =>
              obtain ⟨past, others, rfl, rfl, number, before, went⟩ :=
                ih (List.tail_eq_of_cons_eq split)
              refine ⟨.step :: past, others, rfl, ?_, ?_, before, went⟩
              · rw [executions, here, ← List.head_eq_of_cons_eq split]
                rfl
              · rw [number, List.map_cons, List.sum_cons, Nat.add_assoc]

theorem instructionCount_after (cpu : Cpu) (frame : Nat) {event : Event} (plays : event.Plays) :
    (cpu.after event).instructionCount =
      cpu.instructionCount + (cpu.executes frame event).length := by
  cases event with
  | step =>
      rw [executes, completes?, after_step]
      cases result : Cpu.step cpu with
      | ok operation next =>
          obtain ⟨-, -, -, -, -, counted⟩ := step_eq_ok result
          rw [Action.after_of_ok result]
          exact counted
      | error fault left =>
          rw [Action.after_of_error result]
          exact (step_eq_error result).1
  | press key =>
      rw [after_press]
      rfl
  | release key =>
      rw [after_release]
      rfl
  | tick => rfl
  | load program => exact plays.elim
  | reset => exact plays.elim

theorem instructionCount_afterAll (cpu : Cpu) (frame : Nat) {events : List Event}
    (plays : ∀ event ∈ events, event.Plays) :
    (cpu.afterAll events).instructionCount =
      cpu.instructionCount + (cpu.executions frame events).length := by
  induction events generalizing cpu frame with
  | nil => rfl
  | cons event rest ih =>
      obtain ⟨now, others⟩ := List.forall_mem_cons.mp plays
      have first := cpu.instructionCount_after frame now
      have later := ih (cpu.after event) (frame + event.frames) others
      rw [afterAll_cons, executions, List.length_append]
      omega

theorem get_of_readDelay {cpu next : Cpu} {operation : Operation}
    (went : Cpu.step cpu = .ok operation next) (reads : operation.pattern = "FX07") :
    next.state.get operation.opcode.x = cpu.state.delayTimer := by
  obtain ⟨word, pattern, fetches, executed, rfl, -⟩ := step_eq_ok went
  have read : pattern = .readDelay := Pattern.text_inj reads
  subst read
  have machine : next.toCore =
      cpu.fetched.withState (cpu.fetched.state.set word.x cpu.fetched.state.delayTimer) :=
    (Action.after_of_ok executed).symm
  have timer : cpu.fetched.state.delayTimer = cpu.state.delayTimer := by rw [fetched_eq]
  rw [machine, ← timer]
  exact Registers.get_set_same _ _ _

end Cpu

section Latest

variable {pattern : Pattern} {ran : List Execution}

def latest? (pattern : Pattern) (ran : List Execution) : Option Execution :=
  ran.reverse.find? fun execution => execution.operation.pattern = pattern.text

theorem latest_append (first second : List Execution) :
    latest? pattern (first ++ second) = (latest? pattern second).or (latest? pattern first) := by
  rw [latest?, List.reverse_append, List.find?_append]
  rfl

theorem latest_of_completed {cpu : Cpu} {event : Event} {operation : Operation}
    (done : cpu.completes? event = some operation) (frame : Nat) :
    latest? pattern (cpu.executes frame event) =
      if operation.pattern = pattern.text then some ⟨frame, cpu, operation⟩ else none := by
  rw [latest?, Cpu.executes, done]
  simp [List.find?_singleton]

theorem latest_of_refused {cpu : Cpu} {event : Event} (refused : cpu.completes? event = none)
    (frame : Nat) : latest? pattern (cpu.executes frame event) = none := by
  rw [Cpu.executes, refused]
  rfl

namespace Timer

def lastSet (timer : Timer) (ran : List Execution) : Int :=
  ((latest? timer.setter ran).map Execution.vx).getD 0

def lastFrame (timer : Timer) (ran : List Execution) : Nat :=
  ((latest? timer.setter ran).map Execution.frame).getD 0

/-- A step that sets the timer is the last one to do so, and else the last one stays the same. -/
theorem after_step_cases (timer : Timer) (cpu : Cpu) (frame : Nat) (ran : List Execution) :
    (timer.lastFrame (ran ++ cpu.executes frame .step) = frame ∧
      ∃ x, timer.lastSet (ran ++ cpu.executes frame .step) = cpu.state.get x ∧
        timer.value (cpu.after .step).state = cpu.state.get x) ∨
    (timer.lastFrame (ran ++ cpu.executes frame .step) = timer.lastFrame ran ∧
      timer.lastSet (ran ++ cpu.executes frame .step) = timer.lastSet ran ∧
      timer.value (cpu.after .step).state = timer.value cpu.state) := by
  simp only [lastFrame, lastSet, latest_append]
  rcases timer.step_cases cpu with ⟨operation, done, sets, value⟩ | ⟨other, value⟩
  · rw [latest_of_completed done, if_pos sets]
    exact .inl ⟨rfl, _, rfl, value⟩
  · have none : latest? timer.setter (cpu.executes frame .step) = none := by
      cases result : cpu.completes? .step with
      | none => exact latest_of_refused result frame
      | some operation => rw [latest_of_completed result, if_neg (other operation result)]
    rw [none]
    exact .inr ⟨rfl, rfl, value⟩

end Timer

/-- The delay timer when so many frames have begun: what it was last set to less the frames since,
but never less than 0. -/
def delayAt (frames : Nat) (ran : List Execution) : Int :=
  max 0 (Timer.delay.lastSet ran - (frames - Timer.delay.lastFrame ran))

end Latest

structure Timed (frames : Nat) (ran : List Execution) (cpu : Cpu) : Prop where
  reachable : cpu.Reachable
  delay : cpu.state.delayTimer = delayAt frames ran
  sound : cpu.state.soundTimer = Timer.sound.lastSet ran

namespace Timed

variable {frames : Nat} {ran : List Execution} {cpu : Cpu} {event : Event}

theorem tick (timed : Timed frames ran cpu) : Timed (frames + 1) ran (cpu.after .tick) where
  reachable := timed.reachable.play .tick trivial
  delay := by
    have before := timed.delay
    rw [delayAt] at before
    rw [Cpu.after_tick]
    change cpu.state.tick.delayTimer = _
    rw [Registers.tick, delayAt]
    split <;> (push_cast; omega)
  sound := by
    have same : cpu.state.tick.soundTimer = cpu.state.soundTimer := by
      rw [Registers.tick]
      split <;> rfl
    exact same.trans timed.sound

theorem step (timed : Timed frames ran cpu) :
    Timed frames (ran ++ cpu.executes frames .step) (cpu.after .step) where
  reachable := timed.reachable.step
  delay := by
    have before := timed.delay
    rw [delayAt] at before ⊢
    rcases Timer.delay.after_step_cases cpu frames ran with ⟨frame, x, last, value⟩ |
      ⟨frame, last, value⟩
    · have nonneg := (timed.reachable.valid.range.bytes x).1
      rw [frame, last]
      exact value.trans (by omega)
    · rw [frame, last]
      exact value.trans before
  sound := by
    rcases Timer.sound.after_step_cases cpu frames ran with ⟨-, x, last, value⟩ |
      ⟨-, last, value⟩
    · rw [last]
      exact value
    · rw [last]
      exact value.trans timed.sound

theorem withState (timed : Timed frames ran cpu) {next : Cpu} (reachable : next.Reachable)
    (same : next.state = cpu.state) : Timed frames ran next where
  reachable := reachable
  delay := same ▸ timed.delay
  sound := same ▸ timed.sound

theorem after (timed : Timed frames ran cpu) (plays : event.Plays) :
    Timed (frames + event.frames) (ran ++ cpu.executes frames event) (cpu.after event) := by
  have nothing (idle : cpu.completes? event = none) : ran ++ cpu.executes frames event = ran := by
    rw [Cpu.executes, idle]
    exact List.append_nil ran
  cases event with
  | step => exact timed.step
  | tick =>
      rw [nothing rfl]
      exact timed.tick
  | press key =>
      rw [nothing rfl]
      exact timed.withState (timed.reachable.play _ plays) (cpu.state_after_press key)
  | release key =>
      rw [nothing rfl]
      exact timed.withState (timed.reachable.play _ plays) (cpu.state_after_release key)
  | load program => exact plays.elim
  | reset => exact plays.elim

theorem afterAll (timed : Timed frames ran cpu) {events : List Event}
    (plays : ∀ event ∈ events, event.Plays) :
    Timed (frames + (events.map Event.frames).sum) (ran ++ cpu.executions frames events)
      (cpu.afterAll events) := by
  induction events generalizing frames ran cpu with
  | nil =>
      rw [Cpu.executions, List.append_nil]
      exact timed
  | cons event rest ih =>
      obtain ⟨now, others⟩ := List.forall_mem_cons.mp plays
      have later := ih (timed.after now) others
      rw [Cpu.executions, ← List.append_assoc, List.map_cons, List.sum_cons, ← Nat.add_assoc]
      exact later

/-- Each execution of the run found the timers as they were due. -/
theorem before (timed : Timed frames ran cpu) {events : List Event}
    (plays : ∀ event ∈ events, event.Plays) {earlier later : List Execution}
    {execution : Execution}
    (split : cpu.executions frames events = earlier ++ execution :: later) :
    Timed execution.frame (ran ++ earlier) execution.before ∧
      Cpu.step execution.before =
        .ok execution.operation (execution.before.after .step) := by
  obtain ⟨past, rest, rfl, rfl, number, before, went⟩ := Cpu.executions_split split
  have reached := timed.afterAll fun event member => plays event (List.mem_append_left _ member)
  rw [number, before]
  exact ⟨reached, before ▸ went⟩

end Timed

namespace FrameLoop

variable {loop : FrameLoop}

theorem plays_of_mem_events {call : Call} {event : Event} (member : event ∈ loop.events call) :
    event.Plays := by
  cases call with
  | runFrame =>
      rw [events] at member
      split at member
      · rcases List.mem_cons.mp member with rfl | stepped
        · exact trivial
        · rw [List.eq_of_mem_replicate stepped]
          exact trivial
      · cases member
  | keyDown name =>
      rw [events] at member
      split at member
      · cases member
      · obtain ⟨key, -, rfl⟩ := Option.map_eq_some_iff.mp (Option.mem_toList.mp member)
        exact trivial
  | keyUp name =>
      obtain ⟨key, -, rfl⟩ := Option.map_eq_some_iff.mp (Option.mem_toList.mp member)
      exact trivial
  | quit | pixels => cases member

theorem plays_of_mem_allEvents {calls : List Call} {event : Event}
    (member : event ∈ loop.allEvents calls) : event.Plays := by
  induction calls generalizing loop with
  | nil => cases member
  | cons call rest ih =>
      rcases List.mem_append.mp member with here | later
      · exact plays_of_mem_events here
      · exact ih later

def Begins (loop : FrameLoop) (call : Call) : Prop := loop.running = true ∧ call = .runFrame

instance (loop : FrameLoop) (call : Call) : Decidable (loop.Begins call) := instDecidableAnd

def begun (loop : FrameLoop) : List Call → Nat
  | [] => 0
  | call :: rest => (if loop.Begins call then 1 else 0) + (loop.after call).begun rest

theorem frames_events (loop : FrameLoop) (call : Call) :
    ((loop.events call).map Event.frames).sum = if loop.Begins call then 1 else 0 := by
  have other (differs : call ≠ .runFrame) : ¬loop.Begins call := fun begins => differs begins.2
  cases call with
  | runFrame =>
      rw [events]
      cases running : loop.running with
      | false => simp [Begins, running]
      | true => simp [Begins, running, Event.frames]
  | keyDown name =>
      rw [if_neg (other (by simp)), events]
      split
      · rfl
      · cases loop.keyMap.get? name <;> rfl
  | keyUp name =>
      rw [if_neg (other (by simp)), events]
      cases loop.keyMap.get? name <;> rfl
  | quit | pixels => exact (if_neg (other (by simp))).symm

theorem frames_allEvents (loop : FrameLoop) (calls : List Call) :
    ((loop.allEvents calls).map Event.frames).sum = loop.begun calls := by
  induction calls generalizing loop with
  | nil => rfl
  | cons call rest ih =>
      rw [allEvents, List.map_append, List.sum_append, frames_events, ih, begun]

theorem state_after_of_idle {call : Call} (other : ¬loop.Begins call) :
    (loop.after call).cpu.state = loop.cpu.state := by
  rw [cpu_after]
  cases call with
  | runFrame =>
      have stopped : ¬loop.running = true := fun running => other ⟨running, rfl⟩
      rw [events, if_neg stopped]
      rfl
  | keyDown name =>
      rw [events]
      split
      · rfl
      · cases loop.keyMap.get? name with
        | none => rfl
        | some key => exact loop.cpu.state_after_press key
  | keyUp name =>
      rw [events]
      cases loop.keyMap.get? name with
      | none => rfl
      | some key => exact loop.cpu.state_after_release key
  | quit | pixels => rfl

def executions (loop : FrameLoop) (calls : List Call) : List Execution :=
  loop.cpu.executions 0 (loop.allEvents calls)

def fresh (random : RandomSource) (program : List Int) (keyMap : KeyMap) (quitKey : Text) :
    FrameLoop where
  cpu := (Cpu.ofBus { random := random }).after (.load program)
  keyMap := keyMap
  quitKey := quitKey

theorem fresh_instructionCount (random : RandomSource) (program : List Int) (keyMap : KeyMap)
    (quitKey : Text) : (fresh random program keyMap quitKey).cpu.instructionCount = 0 := by
  rw [fresh, Cpu.after_load]
  rfl

theorem fresh_timed (random : RandomSource) (program : List Int) (keyMap : KeyMap)
    (quitKey : Text) : Timed 0 [] (fresh random program keyMap quitKey).cpu := by
  have start : Timed 0 [] (Cpu.ofBus { random := random }) := ⟨.start random, rfl, rfl⟩
  refine start.withState (.loaded random program) ?_
  rw [fresh, Cpu.after_load]
  rfl

/-- Between any two calls the delay timer is what `FX15` last set it to, less one for each frame
begun since but never less than 0, and the sound timer is what `FX18` last set it to. Instructions
find the delay timer like that as well. Nothing changes it but the start of a frame and `FX15`. -/
theorem timers_over_run (random : RandomSource) (program : List Int) (keyMap : KeyMap)
    (quitKey : Text) (calls : List Call) :
    let start := fresh random program keyMap quitKey
    let loop := start.afterAll calls
    let ran := start.executions calls
    loop.cpu.state.delayTimer = delayAt (start.begun calls) ran ∧
    loop.cpu.state.soundTimer = Timer.sound.lastSet ran ∧
    loop.cpu = start.cpu.afterAll (start.allEvents calls) ∧
    loop.cpu.instructionCount = ran.length ∧
    (∀ earlier execution later, ran = earlier ++ execution :: later →
      Cpu.step execution.before = .ok execution.operation (execution.before.after .step) ∧
      execution.before.state.delayTimer = delayAt execution.frame earlier ∧
      (execution.operation.pattern = "FX07" →
        (execution.before.after .step).state.get execution.operation.opcode.x =
          delayAt execution.frame earlier)) ∧
    (∀ earlier event later, start.allEvents calls = earlier ++ event :: later →
      ((start.cpu.afterAll earlier).after event).state.delayTimer ≠
        (start.cpu.afterAll earlier).state.delayTimer →
      event = .tick ∨
        ∃ operation, (start.cpu.afterAll earlier).completes? event = some operation ∧
          operation.pattern = "FX15") ∧
    ∀ call, ¬loop.Begins call →
      (loop.after call).cpu.state.delayTimer = loop.cpu.state.delayTimer := by
  intro start loop ran
  have timed : Timed 0 [] start.cpu := fresh_timed random program keyMap quitKey
  have plays : ∀ event ∈ start.allEvents calls, event.Plays :=
    fun event member => plays_of_mem_allEvents member
  have reached : loop.cpu = start.cpu.afterAll (start.allEvents calls) := cpu_afterAll start calls
  have final := timed.afterAll plays
  rw [frames_allEvents, Nat.zero_add, List.nil_append, ← reached] at final
  refine ⟨final.delay, final.sound, reached, ?counted, ?found, ?changed, ?idle⟩
  case counted =>
    have counted := start.cpu.instructionCount_afterAll 0 plays
    rw [← reached] at counted
    have none : start.cpu.instructionCount = 0 :=
      fresh_instructionCount random program keyMap quitKey
    rw [none, Nat.zero_add] at counted
    exact counted
  case found =>
    intro earlier execution later split
    obtain ⟨found, went⟩ := timed.before plays split
    refine ⟨went, found.delay, ?_⟩
    intro reads
    exact (Cpu.get_of_readDelay went reads).trans found.delay
  case changed =>
    intro earlier event later split differs
    have here : event ∈ start.allEvents calls := split ▸ List.mem_append_right _ List.mem_cons_self
    exact Timer.delay_changed (plays event here) differs
  case idle =>
    intro call other
    rw [state_after_of_idle other]

end FrameLoop

end Chip8
