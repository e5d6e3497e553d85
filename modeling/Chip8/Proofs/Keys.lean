import Chip8.Proofs.KeyWait
import Chip8.Proofs.Timers

namespace Chip8

def Execution.taken? (execution : Execution) : Option Int :=
  let after := execution.before.after .step
  if execution.operation.pattern = "FX0A" ∧ after.state.halted = false then
    some (after.state.get execution.operation.opcode.x)
  else none

namespace Cpu

variable {cpu : Cpu} {operation : Operation}

structure Takes (cpu next : Cpu) (key : Fin 16) : Prop where
  down : key ∈ cpu.bus.keyboard.pressed
  lowest : ∀ other ∈ cpu.bus.keyboard.pressed, key ≤ other
  released : ∀ other, other ∈ next.bus.keyboard.pressed ↔
    other ∈ cpu.bus.keyboard.pressed ∧ other ≠ key

theorem taken_cases (frame : Nat) (went : Cpu.step cpu = .ok operation (cpu.after .step)) :
    (∃ key : Fin 16, (Execution.mk frame cpu operation).taken? = some (key.val : Int) ∧
      Takes cpu (cpu.after .step) key) ∨
    ((Execution.mk frame cpu operation).taken? = none ∧
      (cpu.after .step).bus.keyboard = cpu.bus.keyboard) := by
  obtain ⟨word, pattern, fetches, executed, rfl, -⟩ := step_eq_ok went
  by_cases wait : pattern = .waitKey
  · subst wait
    have waited : Effect.waitKey (Opcode.x word) cpu.fetched = .ok () (cpu.after .step).toCore :=
      executed
    cases lowest : cpu.bus.keyboard.pressed.head? with
    | none =>
        have left := (Action.after_of_ok waited).symm.trans
          (Action.after_of_ok (Effect.waitKey_of_released _ lowest))
        have halted : (cpu.after .step).state.halted = true := by rw [left]; rfl
        refine .inr ⟨?_, by rw [left]; rfl⟩
        rw [Execution.taken?, if_neg]
        rintro ⟨-, awake⟩
        cases halted.symm.trans awake
    | some key =>
        have left := (Action.after_of_ok waited).symm.trans
          (Action.after_of_ok (Effect.waitKey_of_pressed _ lowest))
        have awake : (cpu.after .step).state.halted = false := by rw [left]; rfl
        have stored : (cpu.after .step).state.get (Opcode.x word) = key.val := by
          rw [left]
          exact Registers.get_of_woken rfl
        have keyboard : (cpu.after .step).bus.keyboard =
            ⟨Index.update cpu.bus.keyboard.held key false⟩ := by rw [left]; rfl
        obtain ⟨down, least⟩ := Keyboard.lowest_of_head lowest
        refine .inl ⟨key, ?_, down, least, ?_⟩
        · rw [Execution.taken?, if_pos ⟨rfl, awake⟩]
          exact congrArg some stored
        · intro other
          rw [keyboard]
          exact Keyboard.mem_pressed_up cpu.bus.keyboard key other
  · have other : pattern ∉ Part.keyboard.writers := mt List.mem_singleton.mp wait
    have kept : (cpu.after .step).bus.keyboard = cpu.bus.keyboard :=
      content_of_executed other (by decide) executed
    refine .inr ⟨?_, kept⟩
    rw [Execution.taken?, if_neg]
    rintro ⟨named, -⟩
    exact wait (Pattern.text_inj named)

theorem keyboard_of_refused (refused : cpu.completes? .step = none) :
    (cpu.after .step).bus.keyboard = cpu.bus.keyboard := by
  refine content_after_step .keyboard (by decide) ?_
  intro pattern found writes
  obtain rfl := List.mem_singleton.mp writes
  obtain ⟨word, fetches⟩ := fetches_of_next found
  have goes : (Effect.waitKey (Opcode.x word)).refusal? cpu.fetched = none :=
    Effect.refusal_waitKey _
  obtain ⟨_, done, went⟩ := Action.refusal_eq_none.mp goes
  have stepped := step_of_executed fetches went
  rw [completes?, stepped] at refused
  cases refused

end Cpu

/-- What happens at a host loop: host keys go down and up, and instructions are carried out. -/
inductive Happening where
  | down (name : Text)
  | up (name : Text)
  | ran (execution : Execution)

namespace Happening

def presses : Happening → Bool
  | down _ => true
  | up _ | ran _ => false

/-- It has to do with the key: a host key that stands for it, or a wait that took it. The quit key
presses nothing, even if it is mapped. -/
def concerns (keyMap : KeyMap) (quitKey : Text) (key : Fin 16) : Happening → Bool
  | down name => decide (name ≠ quitKey ∧ keyMap.get? name = some (key.val : Int))
  | up name => decide (keyMap.get? name = some (key.val : Int))
  | ran execution => decide (execution.taken? = some (key.val : Int))

end Happening

section Follows

variable {keyMap : KeyMap} {quitKey : Text} {key : Fin 16} {happened : List Happening}
  {happening : Happening} {before after cpu : Cpu}

def lastFor? (keyMap : KeyMap) (quitKey : Text) (key : Fin 16) (happened : List Happening) :
    Option Happening :=
  happened.reverse.find? (Happening.concerns keyMap quitKey key)

/-- The last that has happened to the key is that a host key went down. -/
def Pressed (keyMap : KeyMap) (quitKey : Text) (key : Fin 16) (happened : List Happening) : Prop :=
  ∃ name, lastFor? keyMap quitKey key happened = some (.down name)

theorem lastFor_append (first second : List Happening) :
    lastFor? keyMap quitKey key (first ++ second) =
      (lastFor? keyMap quitKey key second).or (lastFor? keyMap quitKey key first) := by
  rw [lastFor?, List.reverse_append, List.find?_append]
  rfl

theorem pressed_append_singleton :
    Pressed keyMap quitKey key (happened ++ [happening]) ↔
      if happening.concerns keyMap quitKey key then happening.presses = true
      else Pressed keyMap quitKey key happened := by
  rw [Pressed, lastFor_append, lastFor?, List.reverse_singleton, List.find?_singleton]
  split
  next =>
      rw [Option.some_or]
      cases happening <;> simp [Happening.presses]
  next =>
      rw [Option.none_or]
      rfl

/-- A key that is down has been pressed lately, or was down before. -/
theorem pressed_append {first second : List Happening}
    (pressed : Pressed keyMap quitKey key (first ++ second)) :
    (∃ name, .down name ∈ second ∧ name ≠ quitKey ∧ keyMap.get? name = some (key.val : Int)) ∨
      Pressed keyMap quitKey key first := by
  obtain ⟨name, last⟩ := pressed
  rw [lastFor_append] at last
  rcases Option.or_eq_some_iff.mp last with lately | ⟨-, before⟩
  · have concerns := List.find?_some lately
    rw [Happening.concerns, decide_eq_true_eq] at concerns
    exact .inl ⟨name, List.mem_reverse.mp (List.mem_of_find?_eq_some lately), concerns⟩
  · exact .inr ⟨name, before⟩

/-- The keys that are down are those that the happenings have left down. -/
def Follows (keyMap : KeyMap) (quitKey : Text) (happened : List Happening) (cpu : Cpu) : Prop :=
  ∀ key, key ∈ cpu.bus.keyboard.pressed ↔ Pressed keyMap quitKey key happened

theorem Follows.append_singleton (follows : Follows keyMap quitKey happened before)
    (changed : ∀ key, key ∈ after.bus.keyboard.pressed ↔
      if happening.concerns keyMap quitKey key then happening.presses = true
      else key ∈ before.bus.keyboard.pressed) :
    Follows keyMap quitKey (happened ++ [happening]) after := by
  intro key
  rw [changed key, pressed_append_singleton, follows key]

theorem Follows.of_keyboard (follows : Follows keyMap quitKey happened before)
    (same : after.bus.keyboard = before.bus.keyboard) : Follows keyMap quitKey happened after := by
  intro key
  rw [same]
  exact follows key

theorem Follows.step (follows : Follows keyMap quitKey happened cpu) (frame : Nat) :
    Follows keyMap quitKey (happened ++ (cpu.executes frame .step).map .ran)
      (cpu.after .step) := by
  cases done : cpu.completes? .step with
  | none =>
      rw [Cpu.executes, done, Option.toList_none, List.map_nil, List.map_nil, List.append_nil]
      exact follows.of_keyboard (Cpu.keyboard_of_refused done)
  | some operation =>
      rw [Cpu.executes, done]
      apply follows.append_singleton
      intro key
      have went := (Cpu.completes_eq_some.mp done).2
      rcases Cpu.taken_cases frame went with ⟨taken, found, takes⟩ | ⟨none, kept⟩
      · have same : (taken.val : Int) = key.val ↔ key = taken := by
          rw [Fin.ext_iff]
          omega
        rw [takes.released, Happening.concerns, found]
        simp only [Option.some.injEq, same, decide_eq_true_eq]
        split
        next here => simp [here, Happening.presses]
        next elsewhere => simp [elsewhere]
      · rw [kept, Happening.concerns, none]
        rfl

theorem mem_pressed_after_stroke (cpu : Cpu) (down : Bool) (number : Int) (key : Fin 16) :
    key ∈ (cpu.after (if down then .press number else .release number)).bus.keyboard.pressed ↔
      if number = key.val then down = true else key ∈ cpu.bus.keyboard.pressed := by
  rw [← Keyboard.mem_pressed_setHeld]
  cases down with
  | true =>
      rw [if_pos rfl, Cpu.after_press]
      rfl
  | false =>
      rw [if_neg Bool.false_ne_true, Cpu.after_release]
      rfl

theorem Follows.stroke (follows : Follows keyMap quitKey happened cpu) {mapped : Option Int}
    (concerns : ∀ key,
      happening.concerns keyMap quitKey key = decide (mapped = some (key.val : Int))) :
    Follows keyMap quitKey (happened ++ [happening]) (cpu.afterAll (mapped.map fun number =>
      if happening.presses then .press number else .release number).toList) := by
  apply follows.append_singleton
  intro key
  rw [concerns]
  cases mapped with
  | none => rfl
  | some number =>
      simp only [decide_eq_true_eq, Option.some.injEq]
      exact mem_pressed_after_stroke cpu happening.presses number key

theorem append_eq_append_cons {α : Type} {first second earlier later : List α} {element : α}
    (split : first ++ second = earlier ++ element :: later) :
    (∃ others, first = earlier ++ element :: others) ∨
      ∃ past, earlier = first ++ past ∧ second = past ++ element :: later := by
  rcases List.append_eq_append_iff.mp split with ⟨past, rfl, there⟩ | ⟨others, here, there⟩
  · exact .inr ⟨past, rfl, there⟩
  · cases others with
    | nil =>
        rw [List.append_nil] at here
        exact .inr ⟨[], by rw [here, List.append_nil], there.symm⟩
    | cons head others =>
        cases List.head_eq_of_cons_eq there
        exact .inl ⟨others, here⟩

theorem Follows.frame (follows : Follows keyMap quitKey happened cpu) (number : Nat)
    {events : List Event} (inFrame : ∀ event ∈ events, event = .tick ∨ event = .step) :
    Follows keyMap quitKey (happened ++ (cpu.executions number events).map .ran)
      (cpu.afterAll events) := by
  induction events generalizing cpu number happened with
  | nil =>
      rw [Cpu.executions, List.map_nil, List.append_nil]
      exact follows
  | cons event rest ih =>
      obtain ⟨here, later⟩ := List.forall_mem_cons.mp inFrame
      rw [Cpu.executions, List.map_append, ← List.append_assoc]
      have first : Follows keyMap quitKey (happened ++ (cpu.executes number event).map .ran)
          (cpu.after event) := by
        rcases here with rfl | rfl
        · have nothing : cpu.executes number .tick = [] := rfl
          rw [nothing, List.map_nil, List.append_nil]
          exact follows.of_keyboard rfl
        · exact follows.step number
      exact ih first _ later

theorem Follows.inside_frame (follows : Follows keyMap quitKey happened cpu) {number : Nat}
    {events : List Event} (inFrame : ∀ event ∈ events, event = .tick ∨ event = .step)
    {earlier later : List Happening} {execution : Execution}
    (split : (cpu.executions number events).map .ran = earlier ++ .ran execution :: later) :
    Follows keyMap quitKey (happened ++ earlier) execution.before ∧
      Cpu.step execution.before = .ok execution.operation (execution.before.after .step) := by
  obtain ⟨first, second, found, rfl, others⟩ := List.map_eq_append_iff.mp split
  obtain ⟨here, rest, rfl, same, -⟩ := List.map_eq_cons_iff.mp others
  cases same
  obtain ⟨past, _, rfl, rfl, -, before, went⟩ := Cpu.executions_split found
  refine ⟨?_, went⟩
  rw [before]
  exact follows.frame number fun event member => inFrame event (List.mem_append_left _ member)

end Follows

namespace FrameLoop

variable {loop : FrameLoop} {happened : List Happening}

def happenings (loop : FrameLoop) : Call → List Happening
  | .runFrame => (loop.cpu.executions loop.frameCount (loop.events .runFrame)).map .ran
  | .keyDown name => [.down name]
  | .keyUp name => [.up name]
  | .quit | .pixels => []

def allHappenings (loop : FrameLoop) : List Call → List Happening
  | [] => []
  | call :: rest => loop.happenings call ++ (loop.after call).allHappenings rest

theorem events_runFrame (loop : FrameLoop) :
    ∀ event ∈ loop.events .runFrame, event = .tick ∨ event = .step := by
  intro event member
  rw [events] at member
  split at member
  · rcases List.mem_cons.mp member with ticks | steps
    · exact .inl ticks
    · exact .inr (List.eq_of_mem_replicate steps)
  · cases member

theorem happenings_runFrame {loop : FrameLoop} (running : loop.running = true)
    {operation : Operation} {next : Cpu}
    (went : Cpu.step (loop.cpu.after .tick) = .ok operation next) :
    ∃ later, loop.happenings .runFrame =
      .ran ⟨loop.frameCount + 1, loop.cpu.after .tick, operation⟩ :: later := by
  have tried : (loop.cpu.after .tick).tried instructionsPerFrame = next.tried 9 + 1 := by
    rw [instructionsPerFrame, Cpu.tried, went]
  have first (frame : Nat) : (loop.cpu.after .tick).executes frame .step =
      [⟨frame, loop.cpu.after .tick, operation⟩] := by
    rw [Cpu.executes, Cpu.completes?, went]
    rfl
  rw [happenings, events, if_pos running, tried, List.replicate_succ, Cpu.executions,
    Cpu.executions, first]
  exact ⟨_, rfl⟩

theorem follows_after (follows : Follows loop.keyMap loop.quitKey happened loop.cpu)
    (call : Call) :
    Follows loop.keyMap loop.quitKey (happened ++ loop.happenings call) (loop.after call).cpu := by
  rw [cpu_after]
  cases call with
  | runFrame => exact follows.frame loop.frameCount (events_runFrame loop)
  | keyUp name => exact follows.stroke fun key => rfl
  | keyDown name =>
      rw [events]
      split
      next quits =>
          have nothing : ∀ key,
              (Happening.down name).concerns loop.keyMap loop.quitKey key =
                decide (none = some (key.val : Int)) := by
            intro key
            simp [Happening.concerns, quits]
          exact follows.stroke nothing
      next other =>
          have mapped : ∀ key,
              (Happening.down name).concerns loop.keyMap loop.quitKey key =
                decide (loop.keyMap.get? name = some (key.val : Int)) := by
            intro key
            simp [Happening.concerns, other]
          exact follows.stroke mapped
  | quit | pixels =>
      rw [happenings, List.append_nil]
      exact follows

theorem follows_afterAll (reachable : loop.cpu.Reachable)
    (follows : Follows loop.keyMap loop.quitKey happened loop.cpu) (calls : List Call) :
    Follows loop.keyMap loop.quitKey (happened ++ loop.allHappenings calls)
      (loop.afterAll calls).cpu := by
  induction calls generalizing loop happened with
  | nil =>
      rw [allHappenings, List.append_nil]
      exact follows
  | cons call rest ih =>
      obtain ⟨keyMap, quitKey⟩ := (turn reachable call).settings
      have next := follows_after follows call
      rw [← keyMap, ← quitKey] at next ⊢
      rw [allHappenings, ← List.append_assoc]
      exact ih (after_reachable reachable call) next

theorem follows_inside (follows : Follows loop.keyMap loop.quitKey happened loop.cpu) {call : Call}
    {earlier later : List Happening} {execution : Execution}
    (split : loop.happenings call = earlier ++ .ran execution :: later) :
    Follows loop.keyMap loop.quitKey (happened ++ earlier) execution.before ∧
      Cpu.step execution.before = .ok execution.operation (execution.before.after .step) := by
  have member : .ran execution ∈ loop.happenings call :=
    split ▸ List.mem_append_right _ List.mem_cons_self
  cases call with
  | runFrame => exact follows.inside_frame (events_runFrame loop) split
  | keyDown name => cases List.mem_singleton.mp member
  | keyUp name => cases List.mem_singleton.mp member
  | quit | pixels => cases member

/-- An instruction of the run finds the keyboard as the happenings before it have left it. -/
theorem follows_before (reachable : loop.cpu.Reachable)
    (follows : Follows loop.keyMap loop.quitKey happened loop.cpu) {calls : List Call}
    {earlier later : List Happening} {execution : Execution}
    (split : loop.allHappenings calls = earlier ++ .ran execution :: later) :
    Follows loop.keyMap loop.quitKey (happened ++ earlier) execution.before ∧
      Cpu.step execution.before = .ok execution.operation (execution.before.after .step) := by
  induction calls generalizing loop happened earlier with
  | nil => simp [allHappenings] at split
  | cons call rest ih =>
      rcases append_eq_append_cons split with ⟨others, here⟩ | ⟨past, rfl, there⟩
      · exact follows_inside follows here
      · obtain ⟨keyMap, quitKey⟩ := (turn reachable call).settings
        have next := follows_after follows call
        rw [← keyMap, ← quitKey] at next ⊢
        rw [← List.append_assoc]
        exact ih (after_reachable reachable call) next there

theorem fresh_reachable (random : RandomSource) (program : List Int) (keyMap : KeyMap)
    (quitKey : Text) : (fresh random program keyMap quitKey).cpu.Reachable :=
  .loaded random program

theorem fresh_follows (random : RandomSource) (program : List Int) (keyMap : KeyMap)
    (quitKey : Text) : Follows keyMap quitKey [] (fresh random program keyMap quitKey).cpu := by
  have released : Follows keyMap quitKey [] (Cpu.ofBus { random := random }) := by
    intro key
    constructor
    · intro down
      have none : Keyboard.released.pressed = [] := by decide
      rw [Cpu.ofBus, none] at down
      cases down
    · rintro ⟨name, last⟩
      cases last
  refine released.of_keyboard ?_
  rw [fresh, Cpu.after_load]
  rfl

/-- A key is down if the last of these was a press: the presses and releases of host keys that stand
for it, where the quit key presses nothing, and the waits that took it. Such a wait finds the keys
like that as well, and takes the lowest of those that are down; so a key must be pressed anew before
it is taken again. -/
theorem keys_over_run (random : RandomSource) (program : List Int) (keyMap : KeyMap)
    (quitKey : Text) (calls : List Call) :
    let start := fresh random program keyMap quitKey
    let loop := start.afterAll calls
    let happened := start.allHappenings calls
    (∀ key, key ∈ loop.cpu.bus.keyboard.pressed ↔ Pressed keyMap quitKey key happened) ∧
    (∀ earlier execution later, happened = earlier ++ .ran execution :: later →
      Cpu.step execution.before = .ok execution.operation (execution.before.after .step) ∧
      (∀ key, key ∈ execution.before.bus.keyboard.pressed ↔ Pressed keyMap quitKey key earlier) ∧
      ∀ number, execution.taken? = some number →
        ∃ key ∈ execution.before.bus.keyboard.pressed, number = key.val ∧
          ∀ other ∈ execution.before.bus.keyboard.pressed, key ≤ other) ∧
    (∀ earlier first between second later number,
      happened = earlier ++ .ran first :: (between ++ .ran second :: later) →
      first.taken? = some number → second.taken? = some number →
      ∃ name, .down name ∈ between ∧ name ≠ quitKey ∧ keyMap.get? name = some number) ∧
    (∀ name, name ≠ quitKey → keyMap.get? name = none →
      FrameLoop.keyDown name loop = .ok () loop ∧ FrameLoop.keyUp name loop = .ok () loop) ∧
    FrameLoop.keyDown quitKey loop = .ok () loop.quit ∧ loop.quit.cpu = loop.cpu := by
  intro start loop happened
  have reachable : start.cpu.Reachable := fresh_reachable random program keyMap quitKey
  have follows : Follows keyMap quitKey [] start.cpu :=
    fresh_follows random program keyMap quitKey
  have sameMap : loop.keyMap = keyMap := (afterAll_settings reachable calls).1
  have sameQuit : loop.quitKey = quitKey := (afterAll_settings reachable calls).2
  have found {earlier later : List Happening} {execution : Execution}
      (split : happened = earlier ++ .ran execution :: later) :
      Follows keyMap quitKey earlier execution.before ∧
        Cpu.step execution.before = .ok execution.operation (execution.before.after .step) :=
    follows_before reachable follows split
  refine ⟨follows_afterAll reachable follows calls, ?taken, ?anew, ?unmapped, ?quit⟩
  case taken =>
    intro earlier execution later split
    obtain ⟨before, went⟩ := found split
    refine ⟨went, before, ?_⟩
    intro number takes
    rcases Cpu.taken_cases execution.frame went with ⟨key, taken, lowest⟩ | ⟨none, -⟩
    · exact ⟨key, lowest.down, Option.some.inj (takes.symm.trans taken), lowest.lowest⟩
    · cases takes.symm.trans none
  case anew =>
    intro earlier first between second later number split firstTakes secondTakes
    have here : happened = (earlier ++ .ran first :: between) ++ .ran second :: later := by
      rw [split, List.append_assoc, List.cons_append]
    obtain ⟨before, went⟩ := found here
    rcases Cpu.taken_cases second.frame went with ⟨key, taken, takes⟩ | ⟨none, -⟩
    · have same : number = key.val := Option.some.inj (secondTakes.symm.trans taken)
      have pressed := (before key).mp takes.down
      -- The first wait took the key, so that the press comes after it.
      rw [List.append_cons] at pressed
      rcases pressed_append pressed with lately | still
      · rw [same]
        exact lately
      · have concerns : (Happening.ran first).concerns keyMap quitKey key = true :=
          decide_eq_true (firstTakes.trans (congrArg some same))
        rw [pressed_append_singleton, if_pos concerns] at still
        cases still
    · cases secondTakes.symm.trans none
  case unmapped =>
    intro name other unmapped
    have held : ∀ down, holdMapped down name loop = .ok () loop := by
      intro down
      rw [holdMapped, sameMap, unmapped]
    rw [keyDown_apply, keyUp_apply, sameQuit, if_neg other]
    exact ⟨held true, held false⟩
  case quit =>
    rw [keyDown_apply, sameQuit, if_pos rfl]
    exact ⟨rfl, cpu_quit loop⟩

def waiting : FrameLoop := fresh (.cycling []) [0xF3, 0x0A] KeyMap.default "Q"

def offered : Cpu := (waiting.after (.keyDown "W")).cpu.after .tick

theorem offered_takes : ∃ operation next, Cpu.step offered = .ok operation next ∧
    (Execution.mk 1 offered operation).taken? = some 5 := by
  have struck : waiting.events (.keyDown "W") = [.press 5] := rfl
  have offers : offered = (waiting.cpu.afterAll [.press 5]).after .tick := by
    rw [offered, cpu_after, struck]
  rw [offers]
  have fetches : ((waiting.cpu.afterAll [.press 5]).after .tick).Fetches 0xF30A .waitKey :=
    Cpu.fetches_of_loaded .default [0xF3, 0x0A] rfl (by decide) 0 (by decide) rfl rfl
  have lowest : ((waiting.cpu.afterAll [.press 5]).after .tick).fetched.bus.keyboard.pressed.head? =
      some 5 := by
    decide
  have went := Cpu.step_of_executed fetches (Effect.waitKey_of_pressed 3 lowest)
  refine ⟨_, _, went, ?_⟩
  rw [Execution.taken?, Cpu.after_step, Action.after_of_ok went]
  rfl

/-- The quit key stands for the key 4 as well, but does not press it. A wait takes the key that is
down. -/
theorem keys_over_run_of_mapped_quit_key :
    let loop := waiting.afterAll [.keyDown "W", .keyDown "Q", .keyUp "E"]
    (5 ∈ loop.cpu.bus.keyboard.pressed ∧ 4 ∉ loop.cpu.bus.keyboard.pressed) ∧
    ∃ execution later,
      waiting.allHappenings [.keyDown "W", .runFrame] = [.down "W"] ++ .ran execution :: later ∧
      execution.taken? = some 5 ∧ 5 ∈ execution.before.bus.keyboard.pressed := by
  intro loop
  have keys := (keys_over_run (.cycling []) [0xF3, 0x0A] KeyMap.default "Q"
    [.keyDown "W", .keyDown "Q", .keyUp "E"]).1
  refine ⟨⟨(keys 5).mpr ⟨"W", rfl⟩, ?_⟩, ?_⟩
  · intro down
    obtain ⟨name, last⟩ := (keys 4).mp down
    have nothing : lastFor? KeyMap.default "Q" 4
        (waiting.allHappenings [.keyDown "W", .keyDown "Q", .keyUp "E"]) = none := rfl
    cases nothing.symm.trans last
  · obtain ⟨operation, next, went, taken⟩ := offered_takes
    have running : (waiting.after (.keyDown "W")).running = true := rfl
    obtain ⟨later, frame⟩ := happenings_runFrame running went
    have split : waiting.allHappenings [.keyDown "W", .runFrame] =
        [.down "W"] ++ .ran ⟨1, offered, operation⟩ :: (later ++ []) := by
      rw [allHappenings, allHappenings, frame]
      rfl
    obtain ⟨-, -, takes⟩ := (keys_over_run (.cycling []) [0xF3, 0x0A] KeyMap.default "Q"
      [.keyDown "W", .runFrame]).2.1 _ _ _ split
    obtain ⟨key, down, same, -⟩ := takes 5 taken
    have fifth : key = 5 := by omega
    exact ⟨_, _, split, taken, fifth ▸ down⟩

end FrameLoop

end Chip8
