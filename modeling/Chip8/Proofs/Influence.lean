import Mathlib.Data.List.Forall2
import Chip8.Proofs.FrameLoop
import Chip8.Proofs.Subroutine
import Chip8.Proofs.Unread

namespace Chip8

open Machine

def Event.strikes : Event → Bool
  | press _ | release _ => true
  | load _ | step | tick | reset => false

def Operation.ReadsKeys (operation : Operation) : Prop :=
  operation.pattern ∈ ["EX9E", "EXA1", "FX0A"]

namespace Cpu

variable {cpu first second : Cpu} {part : Part} {event : Event}

namespace SameBut

theorem refl (part : Part) (cpu : Cpu) : cpu.SameBut part cpu :=
  ⟨part.content cpu.toCore, (put_content part cpu).symm⟩

theorem symm (same : first.SameBut part second) : second.SameBut part first := by
  obtain ⟨content, rfl⟩ := same
  refine ⟨part.content first.toCore, ?_⟩
  rw [put_put, put_content]

theorem trans {third : Cpu} (same : first.SameBut part second) (more : second.SameBut part third) :
    first.SameBut part third := by
  obtain ⟨content, rfl⟩ := same
  obtain ⟨other, rfl⟩ := more
  exact ⟨other, put_put part content other first⟩

end SameBut

section Hosts

variable {α : Type} {content : part.Content}

theorem onMachine_commutes {action : Action Fault Machine α}
    (commutes : action.Commutes (part.put content)) :
    (onMachine action).Commutes (put part content) :=
  Action.commutes_within (fun _ => rfl) (fun _ _ => rfl) commutes

theorem loadProgram_commutes (memory : .memory ≠ part) (program : List Int) :
    (loadProgram program).Commutes (put part content) :=
  onMachine_commutes (Effect.onMemory_commutes memory _)

theorem onKeyboard_commutes (keyboard : .keyboard ≠ part) (action : Action Fault Keyboard α) :
    (onKeyboard action).Commutes (put part content) := by
  have inside := Action.commutes_id action
  apply onMachine_commutes
  refine Action.commutes_within ?_ ?_ inside
  · exact Part.content_put_of_other keyboard content
  · intro machine keys
    cases part <;> first
    | rfl
    | exact absurd rfl keyboard

theorem tick_commutes (delay : .delay ≠ part) : Cpu.tick.Commutes (put part content) := by
  apply onMachine_commutes
  apply Effect.mapRegisters_commutes
  intro registers
  have timer : (part.inState content registers).delayTimer = registers.delayTimer :=
    Part.content_put_of_other delay content ⟨registers, default⟩
  rw [Registers.tick, Registers.tick, timer]
  split
  next =>
      cases part <;> first
      | rfl
      | exact absurd rfl delay
  next => rfl

end Hosts

def Matches (part : Part) (one other : Except Fault (Option Operation) × Cpu) : Prop :=
  one.1 = other.1 ∧ one.2.SameBut part other.2

def Agree (part : Part) (first second : Cpu) (event : Event) : Prop :=
  Matches part (first.answer event, first.after event) (second.answer event, second.after event)

theorem agree_of_step (alike : Action.Alike (SameBut part) (step first) (step second)) :
    Agree part first second .step := by
  obtain ⟨answer, after⟩ := alike.outcome_and_after
  refine ⟨congrArg (Except.map some) answer, ?_⟩
  rw [after_step, after_step]
  exact after

theorem agree_of_commutes {content : part.Content} (other : event ≠ .step)
    (commutes : event.action.Commutes (put part content)) :
    Agree part cpu (cpu.put part content) event := by
  have alike : Action.Alike (SameBut part) (event.action cpu)
      (event.action (cpu.put part content)) := by
    rw [commutes cpu]
    exact Action.alike_carried (fun _ => ⟨content, rfl⟩) _
  obtain ⟨answer, after⟩ := alike.outcome_and_after
  refine ⟨?_, after⟩
  cases event with
  | step => exact absurd rfl other
  | _ => exact congrArg (Except.map fun _ => none) answer

section Sound

/-- Only one instruction has to do with the sound timer, and it sets it. -/
theorem executing_alike_sound (content : Part.sound.Content) (word : Opcode) (pattern : Pattern) :
    Action.Alike (Machine.SameBut .sound) (cpu.executing word pattern)
      ((cpu.put .sound content).executing word pattern) := by
  have apart : Part.sound ∉ Part.guiding := by decide
  by_cases sets : pattern = .setSound
  · subst sets
    have same : (cpu.put .sound content).executing word .setSound =
        cpu.executing word .setSound := by
      rw [executing, executing, fetched_put apart, counter_put apart]
      rfl
    rw [same, executing]
    exact .ok () ⟨_, (Part.sound.put_content _).symm⟩
  · exact executing_alike apart List.not_mem_nil (mt List.mem_singleton.mp sets)

theorem SameBut.sound_agree (same : first.SameBut .sound second) (event : Event) :
    Agree .sound first second event := by
  obtain ⟨content, rfl⟩ := same
  cases event with
  | step =>
      apply agree_of_step
      apply step_alike (by decide)
      intro word pattern fetches
      exact executing_alike_sound content word pattern
  | load program => exact agree_of_commutes nofun (loadProgram_commutes (by decide) program)
  | press key => exact agree_of_commutes nofun (onKeyboard_commutes (by decide) _)
  | release key => exact agree_of_commutes nofun (onKeyboard_commutes (by decide) _)
  | tick => exact agree_of_commutes nofun (tick_commutes (by decide))
  | reset => exact ⟨rfl, .refl .sound _⟩

end Sound

section Keyboard

theorem skipIfKey_alike {machine : Machine} (content : Part.keyboard.Content) (x : Fin 16)
    (down : Bool) (refused : ∀ done, Effect.skipIfKey x down machine ≠ .ok () done) :
    Action.Alike (Machine.SameBut .keyboard) (Effect.skipIfKey x down machine)
      (Effect.skipIfKey x down (Part.keyboard.put content machine)) := by
  by_cases known : 0 ≤ machine.state.get x ∧ machine.state.get x < 16
  · obtain ⟨pressed, -, went⟩ := Effect.skipIfKey_of_key x down known.1 known.2
    exact absurd went (refused _)
  · have unknown := known
    change ¬(0 ≤ (Part.keyboard.put content machine).state.get x ∧ _) at unknown
    rw [Effect.skipIfKey_of_unknown x down known, Effect.skipIfKey_of_unknown x down unknown]
    exact .error _ ⟨content, rfl⟩

theorem executing_alike_keyboard (content : Part.keyboard.Content) {word : Opcode}
    {pattern : Pattern} (unread : ∀ machine, cpu.executing word pattern = .ok () machine →
      pattern ∉ Part.keyboard.readers) :
    Action.Alike (Machine.SameBut .keyboard) (cpu.executing word pattern)
      ((cpu.put .keyboard content).executing word pattern) := by
  have apart : Part.keyboard ∉ Part.guiding := by decide
  by_cases reads : pattern ∈ Part.keyboard.readers
  · have refused : ∀ machine, cpu.executing word pattern ≠ .ok () machine :=
      fun machine went => unread machine went reads
    rw [executing] at refused
    rw [executing, executing, fetched_put apart, counter_put apart]
    simp only [Part.readers, List.mem_cons, List.not_mem_nil, or_false] at reads
    rcases reads with rfl | rfl | rfl
    · exact skipIfKey_alike content word.x true refused
    · exact skipIfKey_alike content word.x false refused
    · obtain ⟨_, done, went⟩ := Action.refusal_eq_none.mp (Effect.refusal_waitKey (Opcode.x word))
      exact absurd went (refused done)
  · refine executing_alike apart reads ?_
    intro writes
    obtain rfl := List.mem_singleton.mp writes
    exact reads (by decide)

theorem SameBut.keyboard_step (same : first.SameBut .keyboard second)
    (unread : ∀ operation, first.completes? .step = some operation → ¬operation.ReadsKeys) :
    Agree .keyboard first second .step := by
  obtain ⟨content, rfl⟩ := same
  apply agree_of_step
  apply step_alike (by decide)
  intro word pattern fetches
  apply executing_alike_keyboard
  intro machine went reads
  have done : first.completes? .step =
      some (Operation.ofPattern pattern word (some first.fetching.pc)) := by
    rw [completes?, step_of_executed fetches went]
  have named : pattern.text ∈ Part.keyboard.readers.map Pattern.text := List.mem_map_of_mem reads
  exact unread _ done named

theorem SameBut.keyboard_agree (same : first.SameBut .keyboard second)
    (quiet : event.strikes = false)
    (unread : ∀ operation, first.completes? event = some operation → ¬operation.ReadsKeys) :
    Agree .keyboard first second event := by
  cases event with
  | step => exact same.keyboard_step unread
  | press key => cases quiet
  | release key => cases quiet
  | load program =>
      obtain ⟨content, rfl⟩ := same
      exact agree_of_commutes nofun (loadProgram_commutes (by decide) program)
  | tick =>
      obtain ⟨content, rfl⟩ := same
      exact agree_of_commutes nofun (tick_commutes (by decide))
  | reset =>
      obtain ⟨content, rfl⟩ := same
      exact ⟨rfl, .refl .keyboard _⟩

theorem sameBut_of_strikes (cpu : Cpu) (strikes : event.strikes = true) :
    cpu.SameBut .keyboard (cpu.after event) := by
  cases event with
  | press key => exact ⟨_, after_press cpu key⟩
  | release key => exact ⟨_, after_release cpu key⟩
  | _ => cases strikes

theorem sameBut_of_allStrike (cpu : Cpu) {events : List Event}
    (strikes : ∀ event ∈ events, event.strikes = true) :
    cpu.SameBut .keyboard (cpu.afterAll events) := by
  induction events generalizing cpu with
  | nil => exact .refl .keyboard cpu
  | cons event rest ih =>
      obtain ⟨here, later⟩ := List.forall_mem_cons.mp strikes
      exact (sameBut_of_strikes cpu here).trans (ih (cpu.after event) later)

end Keyboard

/-- What the events of a run other than strokes answer, each with the state after it. -/
def played (cpu : Cpu) : List Event → List (Except Fault (Option Operation) × Cpu)
  | [] => []
  | event :: rest =>
    (if event.strikes then [] else [(cpu.answer event, cpu.after event)]) ++
      (cpu.after event).played rest

theorem played_of_strikes (rest : List Event) (strikes : event.strikes = true) :
    cpu.played (event :: rest) = (cpu.after event).played rest := by
  rw [played, if_pos strikes, List.nil_append]

theorem played_of_quiet (rest : List Event) (quiet : event.strikes = false) :
    cpu.played (event :: rest) =
      (cpu.answer event, cpu.after event) :: (cpu.after event).played rest := by
  rw [played, quiet]
  rfl

theorem played_of_allStrike {strokes : List Event} (rest : List Event)
    (strikes : ∀ event ∈ strokes, event.strikes = true) :
    cpu.played (strokes ++ rest) = (cpu.afterAll strokes).played rest := by
  induction strokes generalizing cpu with
  | nil => rfl
  | cons event later ih =>
      obtain ⟨here, others⟩ := List.forall_mem_cons.mp strikes
      exact (played_of_strikes (later ++ rest) here).trans (ih others)

theorem SameBut.sound_history (same : first.SameBut .sound second) (events : List Event) :
    List.Forall₂ (Matches .sound) (first.history events) (second.history events) ∧
      (first.afterAll events).SameBut .sound (second.afterAll events) := by
  induction events generalizing first second with
  | nil => exact ⟨.nil, same⟩
  | cons event rest ih =>
      have agree := same.sound_agree event
      obtain ⟨entries, final⟩ := ih agree.2
      exact ⟨.cons agree entries, final⟩

/-- Runs whose events are the same but for strokes: each event of the one run is found in the other
after some strokes, which make no difference to it. -/
theorem SameBut.keyboard_played (same : first.SameBut .keyboard second) {events others : List Event}
    (unread : ∀ operation ∈ first.completed events, ¬operation.ReadsKeys)
    (between : events.filter (!·.strikes) = others.filter (!·.strikes)) :
    List.Forall₂ (Matches .keyboard) (first.played events) (second.played others) ∧
      (first.afterAll events).SameBut .keyboard (second.afterAll others) := by
  induction events generalizing first second others with
  | nil =>
      have strokes : ∀ event ∈ others, event.strikes = true := by
        simpa using List.filter_eq_nil_iff.mp between.symm
      have silent : second.played others = [] := by
        rw [← List.append_nil others]
        exact played_of_allStrike [] strokes
      rw [silent]
      exact ⟨.nil, same.trans (sameBut_of_allStrike second strokes)⟩
  | cons event rest ih =>
      have later : ∀ operation ∈ (first.after event).completed rest,
          ¬operation.ReadsKeys := by
        intro operation member
        exact unread operation (List.mem_append_right _ member)
      cases quiet : event.strikes with
      | true =>
          -- A stroke of the first run needs none in the second.
          have struck := (sameBut_of_strikes first quiet).symm.trans same
          rw [List.filter_cons_of_neg (by simp [quiet])] at between
          rw [played_of_strikes rest quiet]
          exact ih struck later between
      | false =>
          have now : ∀ operation, first.completes? event = some operation →
              ¬operation.ReadsKeys := by
            intro operation done
            exact unread operation (List.mem_append_left _ (Option.mem_toList.mpr done))
          rw [List.filter_cons_of_pos (by simp [quiet])] at between
          -- The same event of the second run, behind some strokes.
          obtain ⟨strokes, tail, rfl, before, -, after⟩ :=
            List.filter_eq_cons_iff.mp between.symm
          have strikes : ∀ event ∈ strokes, event.strikes = true := by simpa using before
          have agree := (same.trans (sameBut_of_allStrike second strikes)).keyboard_agree quiet now
          obtain ⟨entries, final⟩ := ih agree.2 later after.symm
          rw [played_of_quiet rest quiet, played_of_allStrike _ strikes, played_of_quiet tail quiet,
            afterAll_append]
          exact ⟨.cons agree entries, final⟩

/-- What is not read has no influence. Processors that differ in the sound timer answer all events
the same, and go on differing in it only. Where no instruction for keys goes through, strokes make
no difference to anything but the keyboard, and go through themselves. -/
theorem unread_state_has_no_influence :
    (∀ first second : Cpu, first.SameBut .sound second → ∀ events : List Event,
      List.Forall₂ (Matches .sound) (first.history events) (second.history events) ∧
        (first.afterAll events).SameBut .sound (second.afterAll events)) ∧
    (∀ (cpu : Cpu) (events others : List Event),
      (∀ operation ∈ cpu.completed events, ¬operation.ReadsKeys) →
      events.filter (!·.strikes) = others.filter (!·.strikes) →
      List.Forall₂ (Matches .keyboard) (cpu.played events) (cpu.played others) ∧
        (cpu.afterAll events).SameBut .keyboard (cpu.afterAll others)) ∧
    ∀ (cpu : Cpu) (key : Int), 0 ≤ key → key < 16 →
      cpu.answer (.press key) = .ok none ∧ cpu.answer (.release key) = .ok none := by
  refine ⟨?sound, ?keyboard, ?strokes⟩
  case sound => exact fun first second same events => same.sound_history events
  case keyboard =>
    intro cpu events others unread between
    exact (SameBut.refl .keyboard cpu).keyboard_played unread between
  case strokes =>
    intro cpu key low high
    have held (down : Bool) : ((hold down key).outcome cpu).map (fun _ => none) =
        (.ok none : Except Fault (Option Operation)) := by
      rw [Action.outcome_of_ok (hold_of_key down low high cpu), Except.map]
    exact ⟨held true, held false⟩

theorem unread_state_has_no_influence_set :
    let start := loaded setAndEnd
    let other := start.put .sound (7 : Int)
    List.Forall₂ (Matches .sound) (start.history [.step]) (other.history [.step]) ∧
      (start.afterAll [.step]).SameBut .keyboard
        (start.afterAll [.press 3, .step, .release 12]) := by
  intro start other
  have fetches : start.Fetches 0x6005 .loadByte :=
    fetches_of_loaded .default setAndEnd rfl (by decide) 0 (by decide) rfl rfl
  have went := step_of_executed fetches rfl
  have done : start.completed [.step] =
      [Operation.ofPattern .loadByte 0x6005 (some start.fetching.pc)] := by
    rw [completed, completes?, went]
    rfl
  have unread : ∀ operation ∈ start.completed [.step], ¬operation.ReadsKeys := by
    intro operation member
    rw [done, List.mem_singleton] at member
    have named : operation.pattern = "6XNN" := congrArg Operation.pattern member
    rw [Operation.ReadsKeys, named]
    decide
  have sound := unread_state_has_no_influence.1 start other ⟨_, rfl⟩ [.step]
  have keyboard := unread_state_has_no_influence.2.1 start [.step] [.press 3, .step, .release 12]
    unread rfl
  exact ⟨sound.1, keyboard.2⟩

end Cpu

end Chip8
