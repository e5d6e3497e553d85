import Chip8.FrameLoop
import Chip8.Proofs.Refusal

namespace Chip8

namespace Cpu

variable {cpu left next : Cpu} {fault : Fault}

theorem Reachable.of_step_ok (reachable : cpu.Reachable) {operation : Operation}
    (went : Cpu.step cpu = .ok operation next) :
    next.Reachable ∧ next.instructionCount = cpu.instructionCount + 1 := by
  have moved := reachable.step
  rw [after_step, Action.after_of_ok went] at moved
  obtain ⟨word, pattern, -, -, -, counted⟩ := step_eq_ok went
  exact ⟨moved, counted⟩

theorem Reachable.of_step_error (reachable : cpu.Reachable)
    (refused : Cpu.step cpu = .error fault left) :
    left.Reachable ∧ left.instructionCount = cpu.instructionCount ∧ fault.kind? ≠ none := by
  have moved := reachable.step
  rw [after_step, Action.after_of_error refused] at moved
  have valid := reachable.valid
  exact ⟨moved, (step_eq_error refused).1,
    valid.kind_of_refuses (valid.refuses_of_step refused)⟩

theorem Reachable.of_times_ok (reachable : cpu.Reachable) {count : Nat}
    {operations : List Operation} (went : Action.times Cpu.step count cpu = .ok operations next) :
    next.Reachable ∧ next.instructionCount = cpu.instructionCount + count := by
  induction count generalizing cpu operations with
  | zero =>
      cases went
      exact ⟨reachable, rfl⟩
  | succ count ih =>
      obtain ⟨first, middle, head, tail⟩ := Action.bind_eq_ok.mp went
      obtain ⟨rest, done, others, answer⟩ := Action.bind_eq_ok.mp tail
      cases answer
      obtain ⟨moved, counted⟩ := reachable.of_step_ok head
      obtain ⟨arrived, total⟩ := ih moved others
      exact ⟨arrived, by omega⟩

theorem Reachable.of_times_error (reachable : cpu.Reachable) {count : Nat}
    (refused : Action.times Cpu.step count cpu = .error fault left) :
    left.Reachable ∧ fault.kind? ≠ none ∧
      ∃ done < count, left.instructionCount = cpu.instructionCount + done := by
  obtain ⟨done, early, operations, before, went, stopped⟩ := Action.times_eq_error refused
  obtain ⟨arrived, counted⟩ := reachable.of_times_ok went
  obtain ⟨moved, same, kind⟩ := arrived.of_step_error stopped
  exact ⟨moved, kind, done, early, same.trans counted⟩

theorem afterAll_of_times {count : Nat} {operations : List Operation}
    (went : Action.times Cpu.step count cpu = .ok operations next) :
    next = cpu.afterAll (List.replicate count .step) := by
  induction count generalizing cpu operations with
  | zero =>
      cases went
      rfl
  | succ count ih =>
      obtain ⟨first, middle, head, tail⟩ := Action.bind_eq_ok.mp went
      obtain ⟨rest, done, others, answer⟩ := Action.bind_eq_ok.mp tail
      cases answer
      have stepped : cpu.after .step = middle := (after_step cpu).trans (Action.after_of_ok head)
      rw [List.replicate_succ, afterAll_cons, stepped]
      exact ih others

/-- How many of up to `count` steps are tried: all of them, or those up to the first that is
refused. -/
def tried (cpu : Cpu) : Nat → Nat
  | 0 => 0
  | count + 1 =>
    match Cpu.step cpu with
    | .ok _ next => tried next count + 1
    | .error _ _ => 1

theorem after_times (cpu : Cpu) (count : Nat) :
    (Action.times Cpu.step count).after cpu =
      cpu.afterAll (List.replicate (cpu.tried count) .step) := by
  induction count generalizing cpu with
  | zero => rfl
  | succ count ih =>
      rw [tried, Action.times]
      cases result : Cpu.step cpu with
      | ok operation next =>
          have stepped : cpu.after .step = next :=
            (after_step cpu).trans (Action.after_of_ok result)
          have first : (Action.times Cpu.step (count + 1)).after cpu =
              (Action.times Cpu.step count).after next := by
            rw [Action.times, Action.after, Action.bind_of_ok result]
            exact Action.after_bind_pure _ _ _
          rw [← Action.times, first, ih next, List.replicate_succ, afterAll_cons, stepped]
      | error fault left =>
          have stepped : cpu.after .step = left :=
            (after_step cpu).trans (Action.after_of_error result)
          rw [Action.after_of_error (Action.bind_of_error result)]
          exact stepped.symm

def hold (down : Bool) (key : Int) : Action Fault Cpu Unit := onKeyboard (Keyboard.setHeld down key)

theorem hold_of_key (down : Bool) {key : Int} (low : 0 ≤ key) (high : key < 16) (cpu : Cpu) :
    hold down key cpu = .ok () ((hold down key).after cpu) := by
  obtain ⟨_, -, went⟩ := Keyboard.setHeld_of_known down ⟨low, high⟩ cpu.bus.keyboard
  simp only [Action.after, hold, onKeyboard, onMachine, Action.within, went]

theorem hold_of_unknown (down : Bool) {key : Int} (unknown : ¬(0 ≤ key ∧ key < 16)) (cpu : Cpu) :
    hold down key cpu = .error (.unknownKey key) cpu := by
  simp only [hold, onKeyboard, onMachine, Action.within, Keyboard.setHeld_of_unknown down unknown]

theorem instructionCount_hold (down : Bool) (key : Int) (cpu : Cpu) :
    ((hold down key).after cpu).instructionCount = cpu.instructionCount := by
  rw [hold, onKeyboard, onMachine, Action.after_within]

theorem Reachable.hold (reachable : cpu.Reachable) (down : Bool) (key : Int) :
    ((Cpu.hold down key).after cpu).Reachable := by
  cases down with
  | false => exact reachable.play (.release key) trivial
  | true => exact reachable.play (.press key) trivial

end Cpu

namespace FrameLoop

inductive Call where
  | runFrame
  | keyDown (name : Text)
  | keyUp (name : Text)
  | quit
  | pixels
  deriving DecidableEq, Repr

inductive Answer where
  | frame (ran : Bool)
  | done
  | picture (rows : List (List Bool))
  deriving DecidableEq, Repr

def Call.action : Call → Action Fault FrameLoop Answer
  | runFrame => do
    let ran ← FrameLoop.runFrame
    return .frame ran
  | keyDown name => do
    FrameLoop.keyDown name
    return .done
  | keyUp name => do
    FrameLoop.keyUp name
    return .done
  | quit => do
    modify FrameLoop.quit
    return .done
  | pixels => do
    let loop ← get
    return .picture loop.pixels

def after (loop : FrameLoop) (call : Call) : FrameLoop := call.action.after loop

def afterAll (loop : FrameLoop) (calls : List Call) : FrameLoop := calls.foldl after loop

def outcomes (loop : FrameLoop) : List Call → List (Except Fault Answer)
  | [] => []
  | call :: rest => call.action.outcome loop :: (loop.after call).outcomes rest

def endReport (frames : Nat) : Log.Record :=
  ⟨.info, .frameLoop, "Emulation stopped after " ++ toString frames ++ " frames"⟩

def failureRecords (cpu : Cpu) (kind : FaultKind) (fault : Fault) : List Log.Record :=
  (diagnostics cpu kind fault).map fun text : String => ⟨.error, .frameLoop, text⟩

def failed (loop : FrameLoop) (cpu : Cpu) (kind : FaultKind) (fault : Fault) : FrameLoop :=
  { loop with
    cpu := cpu
    running := false
    error := some fault
    log := loop.log ++ failureRecords cpu kind fault }

theorem stop_eq_failed (loop : FrameLoop) (cpu : Cpu) {kind : FaultKind} {fault : Fault}
    (fatal : fault.kind? = some kind) :
    stop { loop with cpu := cpu } fault = loop.failed cpu kind fault := by
  simp only [stop, fatal, failed, failureRecords, diagnostics, report, List.foldl_cons,
    List.foldl_nil, List.map_cons, List.map_nil, List.append_assoc, List.cons_append,
    List.nil_append]

theorem quit_of_running {loop : FrameLoop} (running : loop.running = true) :
    loop.quit = { loop with running := false, log := loop.log ++ [endReport loop.frameCount] } := by
  rw [FrameLoop.quit, if_pos running]
  rfl

theorem quit_of_stopped {loop : FrameLoop} (stopped : loop.running = false) : loop.quit = loop := by
  rw [FrameLoop.quit, stopped]
  rfl

/-- What can come of a call. -/
inductive Turn (loop : FrameLoop) : Call → Except Fault Answer → FrameLoop → Prop where
  | idle : loop.running = false → Turn loop .runFrame (.ok (.frame false)) loop
  | frame {cpu : Cpu} :
      loop.running = true → cpu.Reachable →
      cpu.instructionCount = loop.cpu.instructionCount + instructionsPerFrame →
      Turn loop .runFrame (.ok (.frame true))
        { loop with cpu := cpu, frameCount := loop.frameCount + 1 }
  | failure {cpu : Cpu} {kind : FaultKind} {fault : Fault} {done : Nat} :
      loop.running = true → cpu.Reachable → fault.kind? = some kind →
      done < instructionsPerFrame → cpu.instructionCount = loop.cpu.instructionCount + done →
      Turn loop .runFrame (.error fault) (loop.failed cpu kind fault)
  | key {call : Call} {cpu : Cpu} :
      cpu.Reachable → cpu.instructionCount = loop.cpu.instructionCount →
      Turn loop call (.ok .done) { loop with cpu := cpu }
  | unknown {call : Call} {name : Text} {key : Int} :
      loop.keyMap.get? name = some key → ¬(0 ≤ key ∧ key < 16) →
      Turn loop call (.error (.unknownKey key)) loop
  | quit {call : Call} : Turn loop call (.ok .done) loop.quit
  | pixels : Turn loop .pixels (.ok (.picture loop.pixels)) loop

variable {loop next : FrameLoop} {call : Call} {answer : Answer} {fault : Fault}

theorem turn_of_ok (went : call.action loop = .ok answer next)
    (turn : Turn loop call (.ok answer) next) :
    Turn loop call (call.action.outcome loop) (loop.after call) := by
  rw [Action.outcome_of_ok went, after, Action.after_of_ok went]
  exact turn

theorem turn_of_error (refused : call.action loop = .error fault next)
    (turn : Turn loop call (.error fault) next) :
    Turn loop call (call.action.outcome loop) (loop.after call) := by
  rw [Action.outcome_of_error refused, after, Action.after_of_error refused]
  exact turn

theorem runFrame_of_stopped (stopped : loop.running = false) :
    FrameLoop.runFrame loop = .ok false loop := by
  rw [FrameLoop.runFrame, stopped]
  rfl

/-- A frame is a tick, which is never refused, and its steps. -/
theorem runFrame_of_ok (running : loop.running = true) {operations : List Operation} {cpu : Cpu}
    (went : Action.times Cpu.step instructionsPerFrame (loop.cpu.after .tick) =
      .ok operations cpu) :
    FrameLoop.runFrame loop =
      .ok true { loop with cpu := cpu, frameCount := loop.frameCount + 1 } := by
  have ticked : Cpu.tick loop.cpu = .ok () (loop.cpu.after .tick) := rfl
  rw [FrameLoop.runFrame, if_pos running, Action.bind_of_ok ticked, went]

theorem runFrame_of_error (running : loop.running = true) {cpu : Cpu}
    (refused : Action.times Cpu.step instructionsPerFrame (loop.cpu.after .tick) =
      .error fault cpu) :
    FrameLoop.runFrame loop = .error fault (stop { loop with cpu := cpu } fault) := by
  have ticked : Cpu.tick loop.cpu = .ok () (loop.cpu.after .tick) := rfl
  rw [FrameLoop.runFrame, if_pos running, Action.bind_of_ok ticked, refused]

theorem turn_runFrame (reachable : loop.cpu.Reachable) :
    Turn loop .runFrame (Call.runFrame.action.outcome loop) (loop.after .runFrame) := by
  cases running : loop.running with
  | false => exact turn_of_ok (Action.bind_of_ok (runFrame_of_stopped running)) (.idle running)
  | true =>
      have ticked : (loop.cpu.after .tick).Reachable := reachable.play .tick trivial
      have counted : (loop.cpu.after .tick).instructionCount = loop.cpu.instructionCount := rfl
      cases result : Action.times Cpu.step instructionsPerFrame (loop.cpu.after .tick) with
      | ok operations cpu =>
          obtain ⟨arrived, total⟩ := ticked.of_times_ok result
          rw [counted] at total
          exact turn_of_ok (Action.bind_of_ok (runFrame_of_ok running result))
            (.frame running arrived total)
      | error fault cpu =>
          obtain ⟨arrived, fatal, done, early, total⟩ := ticked.of_times_error result
          obtain ⟨kind, found⟩ := Option.ne_none_iff_exists'.mp fatal
          have failure := runFrame_of_error running result
          rw [stop_eq_failed loop cpu found] at failure
          rw [counted] at total
          exact turn_of_error (Action.bind_of_error failure)
            (.failure running arrived found early total)

def holdMapped (down : Bool) (name : Text) : Action Fault FrameLoop Unit := fun loop =>
  match loop.keyMap.get? name with
  | none => .ok () loop
  | some key => onCpu (Cpu.hold down key) loop

theorem holdMapped_cases (reachable : loop.cpu.Reachable) (down : Bool) (name : Text) :
    (∃ cpu : Cpu, cpu.Reachable ∧ cpu.instructionCount = loop.cpu.instructionCount ∧
      holdMapped down name loop = .ok () { loop with cpu := cpu }) ∨
    ∃ key, loop.keyMap.get? name = some key ∧ ¬(0 ≤ key ∧ key < 16) ∧
      holdMapped down name loop = .error (.unknownKey key) loop := by
  rw [holdMapped]
  cases loop.keyMap.get? name with
  | none => exact .inl ⟨loop.cpu, reachable, rfl, rfl⟩
  | some key =>
      by_cases known : 0 ≤ key ∧ key < 16
      · have held := Cpu.hold_of_key down known.1 known.2 loop.cpu
        exact .inl ⟨_, reachable.hold down key, Cpu.instructionCount_hold down key loop.cpu,
          Action.within_of_ok held⟩
      · have refused := Cpu.hold_of_unknown down known loop.cpu
        exact .inr ⟨key, rfl, known, Action.within_of_error refused⟩

theorem keyDown_apply (loop : FrameLoop) (name : Text) :
    FrameLoop.keyDown name loop =
      if name = loop.quitKey then .ok () loop.quit else holdMapped true name loop := by
  rw [FrameLoop.keyDown, Action.bind_of_ok (Action.get_apply loop)]
  split
  · rfl
  · rw [holdMapped]
    cases loop.keyMap.get? name <;> rfl

theorem keyUp_apply (loop : FrameLoop) (name : Text) :
    FrameLoop.keyUp name loop = holdMapped false name loop := by
  rw [FrameLoop.keyUp, Action.bind_of_ok (Action.get_apply loop), holdMapped]
  cases loop.keyMap.get? name <;> rfl

theorem turn_of_held (reachable : loop.cpu.Reachable) {down : Bool} {name : Text}
    (action : call.action loop = (do holdMapped down name; return Answer.done) loop) :
    Turn loop call (call.action.outcome loop) (loop.after call) := by
  rcases holdMapped_cases reachable down name with
    ⟨cpu, arrived, counted, went⟩ | ⟨key, mapped, unknown, refused⟩
  · exact turn_of_ok (action.trans (Action.bind_of_ok went)) (.key arrived counted)
  · exact turn_of_error (action.trans (Action.bind_of_error refused)) (.unknown mapped unknown)

section Host

theorem cpu_stop (loop : FrameLoop) (fault : Fault) : (stop loop fault).cpu = loop.cpu := by
  rw [stop]
  cases fault.kind? with
  | none => rfl
  | some kind => rfl

theorem cpu_quit (loop : FrameLoop) : loop.quit.cpu = loop.cpu := by
  rw [FrameLoop.quit]
  split <;> rfl

/-- What a call does to the processor, as the events of a host. -/
def events (loop : FrameLoop) : Call → List Event
  | .runFrame =>
    if loop.running then
      .tick :: List.replicate ((loop.cpu.after .tick).tried instructionsPerFrame) .step
    else []
  | .keyDown name =>
    if name = loop.quitKey then [] else ((loop.keyMap.get? name).map Event.press).toList
  | .keyUp name => ((loop.keyMap.get? name).map Event.release).toList
  | .quit | .pixels => []

def allEvents (loop : FrameLoop) : List Call → List Event
  | [] => []
  | call :: rest => loop.events call ++ (loop.after call).allEvents rest

theorem cpu_after_runFrame (loop : FrameLoop) :
    (FrameLoop.runFrame.after loop).cpu = loop.cpu.afterAll (loop.events .runFrame) := by
  cases running : loop.running with
  | false =>
      rw [events, Action.after_of_ok (runFrame_of_stopped running), running]
      rfl
  | true =>
      rw [events, if_pos running, Cpu.afterAll_cons, ← Cpu.after_times]
      cases result : Action.times Cpu.step instructionsPerFrame (loop.cpu.after .tick) with
      | ok operations cpu =>
          rw [Action.after_of_ok (runFrame_of_ok running result), Action.after_of_ok result]
      | error fault cpu =>
          rw [Action.after_of_error (runFrame_of_error running result), cpu_stop,
            Action.after_of_error result]

theorem cpu_after_hold (loop : FrameLoop) (down : Bool) (name : Text) :
    ((holdMapped down name).after loop).cpu =
      loop.cpu.afterAll ((loop.keyMap.get? name).map fun key =>
        if down then Event.press key else Event.release key).toList := by
  cases mapped : loop.keyMap.get? name with
  | none =>
      rw [Action.after, holdMapped, mapped]
      rfl
  | some key =>
      have held : ((holdMapped down name).after loop).cpu = (Cpu.hold down key).after loop.cpu := by
        rw [Action.after, holdMapped, mapped]
        exact congrArg FrameLoop.cpu (Action.after_within _ _ (Cpu.hold down key) loop)
      rw [held]
      cases down <;> rfl

/-- The loop does nothing to the processor but what a host may do. -/
theorem cpu_after (loop : FrameLoop) (call : Call) :
    (loop.after call).cpu = loop.cpu.afterAll (loop.events call) := by
  rw [after]
  cases call with
  | runFrame =>
      rw [Call.action, Action.after_bind_pure]
      exact cpu_after_runFrame loop
  | keyDown name =>
      rw [Call.action, Action.after_bind_pure, events]
      by_cases quits : name = loop.quitKey
      · have went : FrameLoop.keyDown name loop = .ok () loop.quit := by
          rw [keyDown_apply, if_pos quits]
        rw [Action.after_of_ok went, if_pos quits]
        exact cpu_quit loop
      · have held : (FrameLoop.keyDown name).after loop = (holdMapped true name).after loop := by
          rw [Action.after, keyDown_apply, if_neg quits, Action.after]
        rw [held, if_neg quits]
        exact cpu_after_hold loop true name
  | keyUp name =>
      have held : (FrameLoop.keyUp name).after loop = (holdMapped false name).after loop := by
        rw [Action.after, keyUp_apply, Action.after]
      rw [Call.action, Action.after_bind_pure, held]
      exact cpu_after_hold loop false name
  | quit => exact cpu_quit loop
  | pixels => rfl

theorem cpu_afterAll (loop : FrameLoop) (calls : List Call) :
    (loop.afterAll calls).cpu = loop.cpu.afterAll (loop.allEvents calls) := by
  induction calls generalizing loop with
  | nil => rfl
  | cons call rest ih =>
      rw [allEvents, Cpu.afterAll_append, ← cpu_after]
      exact ih (loop.after call)

end Host

/-- Every call of a loop whose processor is in order comes out in one of these ways. -/
theorem turn (reachable : loop.cpu.Reachable) (call : Call) :
    Turn loop call (call.action.outcome loop) (loop.after call) := by
  cases call with
  | runFrame => exact turn_runFrame reachable
  | quit => exact .quit
  | pixels => exact .pixels
  | keyUp name =>
      have action : (Call.keyUp name).action loop =
          (do holdMapped false name; return Answer.done) loop := by
        rw [Call.action, Action.bind_apply, keyUp_apply, Action.bind_apply]
      exact turn_of_held reachable action
  | keyDown name =>
      by_cases quits : name = loop.quitKey
      · have went : FrameLoop.keyDown name loop = .ok () loop.quit := by
          rw [keyDown_apply, if_pos quits]
        exact turn_of_ok (Action.bind_of_ok went) .quit
      · have action : (Call.keyDown name).action loop =
            (do holdMapped true name; return Answer.done) loop := by
          rw [Call.action, Action.bind_apply, keyDown_apply, if_neg quits, Action.bind_apply]
        exact turn_of_held reachable action

variable {outcome : Except Fault Answer}

theorem Turn.reachable (turn : Turn loop call outcome next) (reachable : loop.cpu.Reachable) :
    next.cpu.Reachable := by
  cases turn with
  | idle | unknown | pixels => exact reachable
  | frame _ arrived | failure _ arrived | key arrived => exact arrived
  | quit =>
      rw [cpu_quit]
      exact reachable

theorem Turn.settings (turn : Turn loop call outcome next) :
    next.keyMap = loop.keyMap ∧ next.quitKey = loop.quitKey := by
  cases turn with
  | idle | unknown | pixels | key | frame | failure => exact ⟨rfl, rfl⟩
  | quit =>
      rw [FrameLoop.quit]
      split <;> exact ⟨rfl, rfl⟩

theorem Turn.stopped (turn : Turn loop call outcome next) (stopped : loop.running = false) :
    next.running = false ∧ next.error = loop.error ∧ next.log = loop.log ∧
      next.frameCount = loop.frameCount := by
  cases turn with
  | idle | unknown | pixels | key => exact ⟨stopped, rfl, rfl, rfl⟩
  | frame running | failure running => rw [running] at stopped; cases stopped
  | quit =>
      rw [quit_of_stopped stopped]
      exact ⟨stopped, rfl, rfl, rfl⟩

theorem after_reachable (reachable : loop.cpu.Reachable) (call : Call) :
    (loop.after call).cpu.Reachable := (turn reachable call).reachable reachable

theorem afterAll_reachable (reachable : loop.cpu.Reachable) (calls : List Call) :
    (loop.afterAll calls).cpu.Reachable := by
  induction calls generalizing loop with
  | nil => exact reachable
  | cons call rest ih => exact ih (after_reachable reachable call)

theorem afterAll_settings (reachable : loop.cpu.Reachable) (calls : List Call) :
    (loop.afterAll calls).keyMap = loop.keyMap ∧
      (loop.afterAll calls).quitKey = loop.quitKey := by
  induction calls generalizing loop with
  | nil => exact ⟨rfl, rfl⟩
  | cons call rest ih =>
      obtain ⟨keyMap, quitKey⟩ := ih (after_reachable reachable call)
      obtain ⟨sameMap, sameQuit⟩ := (turn reachable call).settings
      exact ⟨keyMap.trans sameMap, quitKey.trans sameQuit⟩

theorem afterAll_keyMap (reachable : loop.cpu.Reachable) (calls : List Call) :
    (loop.afterAll calls).keyMap = loop.keyMap := (afterAll_settings reachable calls).1

theorem afterAll_stopped (reachable : loop.cpu.Reachable) (stopped : loop.running = false)
    (calls : List Call) :
    (loop.afterAll calls).running = false ∧ (loop.afterAll calls).error = loop.error := by
  induction calls generalizing loop with
  | nil => exact ⟨stopped, rfl⟩
  | cons call rest ih =>
      obtain ⟨still, same, -⟩ := (turn reachable call).stopped stopped
      obtain ⟨idle, kept⟩ := ih (after_reachable reachable call) still
      exact ⟨idle, kept.trans same⟩

end FrameLoop

end Chip8
