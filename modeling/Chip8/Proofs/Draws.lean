import Chip8.Proofs.Influence

namespace Chip8

namespace RandomSource

def upcoming (source : RandomSource) (turn : Nat) : UInt8 := source.bytes (source.position + turn)

def skip (source : RandomSource) (turns : Nat) : RandomSource :=
  { source with position := source.position + turns }

theorem skip_skip (source : RandomSource) (first second : Nat) :
    (source.skip first).skip second = source.skip (first + second) := by
  simp only [skip, Nat.add_assoc]

theorem upcoming_skip (source : RandomSource) (turns turn : Nat) :
    (source.skip turns).upcoming turn = source.upcoming (turns + turn) := by
  simp only [upcoming, skip, Nat.add_assoc]

end RandomSource

namespace Cpu

variable {cpu first second next : Cpu} {word : Opcode} {event : Event} {operation : Operation}

theorem step_of_draw (fetches : cpu.Fetches word .random) :
    step cpu = .ok (Operation.ofPattern .random word (some cpu.fetching.pc))
      ⟨(cpu.fetched.withRandom (cpu.bus.random.skip 1)).withState (cpu.fetched.state.set word.x
        ((cpu.bus.random.upcoming 0).toNat &&& word.nn : Nat)), cpu.instructionCount + 1⟩ :=
  step_of_executed fetches (Effect.random_apply word.x word.nn)

theorem fetches_of_completed {pattern : Pattern} (done : cpu.completes? event = some operation)
    (named : operation.pattern = pattern.text) :
    event = .step ∧ ∃ word, cpu.Fetches word pattern := by
  obtain ⟨stepped, went⟩ := completes_eq_some.mp done
  obtain ⟨word, other, fetches, -, rfl, -⟩ := step_eq_ok went
  cases Pattern.text_inj named
  exact ⟨stepped, word, fetches⟩

theorem count_singleton (cpu : Cpu) (pattern : Pattern) (event : Event) :
    cpu.count pattern [event] =
      (cpu.completes? event).toList.countP fun operation => operation.pattern == pattern.text := by
  rw [count_cons]
  rfl

theorem count_cons_singleton (cpu : Cpu) (pattern : Pattern) (event : Event) (rest : List Event) :
    cpu.count pattern (event :: rest) =
      cpu.count pattern [event] + (cpu.after event).count pattern rest := by
  rw [count_cons, count_singleton]

theorem count_of_draw (fetches : cpu.Fetches word .random) : cpu.count .random [.step] = 1 := by
  rw [count_singleton, completes?, step_of_draw fetches]
  rfl

theorem draw_cases (cpu : Cpu) (event : Event) :
    (event = .step ∧ cpu.count .random [event] = 1 ∧ ∃ word, cpu.Fetches word .random) ∨
    (cpu.count .random [event] = 0 ∧ ∀ word, event = .step → ¬cpu.Fetches word .random) := by
  by_cases draws : event = .step ∧ ∃ word, cpu.Fetches word .random
  · obtain ⟨rfl, word, fetches⟩ := draws
    exact .inl ⟨rfl, count_of_draw fetches, word, fetches⟩
  · refine .inr ⟨?_, fun word stepped fetches => draws ⟨stepped, word, fetches⟩⟩
    rw [count_singleton, List.countP_eq_zero]
    intro operation done named
    exact draws (fetches_of_completed (Option.mem_toList.mp done) (beq_iff_eq.mp named))

theorem source_after (cpu : Cpu) (event : Event) :
    (cpu.after event).bus.random = cpu.bus.random.skip (cpu.count .random [event]) := by
  cases cpu.draw_cases event with
  | inl draws =>
      obtain ⟨rfl, once, word, fetches⟩ := draws
      rw [once, after_step, Action.after_of_ok (step_of_draw fetches)]
      rfl
  | inr other =>
      obtain ⟨never, unfetched⟩ := other
      rw [never]
      apply random_after
      intro pattern tried writes
      obtain rfl := List.mem_singleton.mp writes
      cases event with
      | step =>
          obtain ⟨word, fetches⟩ := fetches_of_next tried
          exact unfetched word rfl fetches
      | _ => cases tried

theorem source_afterAll (cpu : Cpu) (events : List Event) :
    (cpu.afterAll events).bus.random = cpu.bus.random.skip (cpu.count .random events) := by
  induction events generalizing cpu with
  | nil => rfl
  | cons event rest ih =>
      rw [afterAll_cons, ih, source_after, RandomSource.skip_skip, ← count_cons_singleton]

theorem get_of_draw (went : step cpu = .ok operation next) (draws : operation.pattern = "CXNN") :
    next.state.get operation.opcode.x =
      ((cpu.bus.random.upcoming 0).toNat &&& operation.opcode.nn : Nat) := by
  obtain ⟨word, pattern, fetches, -, rfl, -⟩ := step_eq_ok went
  have drawn : pattern = .random := Pattern.text_inj draws
  subst drawn
  cases went.symm.trans (step_of_draw fetches)
  exact Registers.get_set_same _ _ _

section Unread

theorem completes_of_answer (cpu : Cpu) (event : Event) :
    cpu.completes? event = (cpu.answer event).toOption.join := by
  have nothing (outcome : Except Fault Unit) :
      none = (outcome.map fun _ => (none : Option Operation)).toOption.join := by
    cases outcome <;> rfl
  cases event with
  | step =>
      rw [completes?, answer, Action.outcome]
      cases step cpu <;> rfl
  | load _ | press _ | release _ => exact nothing _
  | tick => exact nothing (Event.tick.action.outcome cpu)
  | reset => exact nothing (Event.reset.action.outcome cpu)

theorem count_of_agree {part : Part} (pattern : Pattern) (agree : Agree part first second event) :
    first.count pattern [event] = second.count pattern [event] := by
  have answers : first.answer event = second.answer event := agree.1
  rw [count_singleton, count_singleton, completes_of_answer, completes_of_answer, answers]

theorem executing_alike_random {content : Part.random.Content}
    (same : RandomSource.upcoming content 0 = cpu.bus.random.upcoming 0) (word : Opcode) :
    Action.Alike (Machine.SameBut .random) (cpu.executing word .random)
      ((cpu.put .random content).executing word .random) := by
  have apart : Part.random ∉ Part.guiding := by decide
  have drawn : (cpu.put .random content).executing word .random =
      .ok () (Part.random.put (RandomSource.skip content 1) (cpu.fetched.withState
        (cpu.fetched.state.set word.x
          ((cpu.bus.random.upcoming 0).toNat &&& word.nn : Nat)))) := by
    rw [executing, fetched_put apart, ← same]
    rfl
  rw [drawn]
  exact .ok () ⟨_, rfl⟩

theorem SameBut.random_agree (same : first.SameBut .random second)
    (upcoming : ∀ turn < first.count .random [event],
      second.bus.random.upcoming turn = first.bus.random.upcoming turn) :
    Agree .random first second event := by
  obtain ⟨content, rfl⟩ := same
  cases event with
  | step =>
      apply agree_of_step
      apply step_alike (by decide)
      intro word pattern fetches
      by_cases draws : pattern = .random
      · subst draws
        have once := count_of_draw fetches
        exact executing_alike_random (upcoming 0 (once ▸ Nat.one_pos)) word
      · have other : pattern ∉ [Pattern.random] := mt List.mem_singleton.mp draws
        exact executing_alike (by decide) other other
  | load program => exact agree_of_commutes nofun (loadProgram_commutes (by decide) program)
  | press key => exact agree_of_commutes nofun (onKeyboard_commutes (by decide) _)
  | release key => exact agree_of_commutes nofun (onKeyboard_commutes (by decide) _)
  | tick => exact agree_of_commutes nofun (tick_commutes (by decide))
  | reset => exact ⟨rfl, content, rfl⟩

/-- Sources that agree on the bytes that a run draws make no difference to it. -/
theorem SameBut.random_history (same : first.SameBut .random second) {events : List Event}
    (upcoming : ∀ turn < first.count .random events,
      second.bus.random.upcoming turn = first.bus.random.upcoming turn) :
    List.Forall₂ (Matches .random) (first.history events) (second.history events) ∧
      (first.afterAll events).SameBut .random (second.afterAll events) ∧
      second.count .random events = first.count .random events := by
  induction events generalizing first second with
  | nil => exact ⟨.nil, same, rfl⟩
  | cons event rest ih =>
      rw [count_cons_singleton] at upcoming
      have agree : Agree .random first second event :=
        same.random_agree fun turn early => upcoming turn (by omega)
      have once := count_of_agree .random agree
      -- Behind the bytes that the event draws, the sources agree as far as before.
      have later : ∀ turn < (first.after event).count .random rest,
          (second.after event).bus.random.upcoming turn =
            (first.after event).bus.random.upcoming turn := by
        intro turn early
        rw [source_after, source_after, RandomSource.upcoming_skip, RandomSource.upcoming_skip,
          ← once]
        exact upcoming _ (by omega)
      obtain ⟨entries, final, counts⟩ := ih agree.2 later
      refine ⟨.cons agree entries, final, ?_⟩
      rw [count_cons_singleton, count_cons_singleton first, counts, once]

end Unread

/-- Random bytes are used up in order, one for each instruction that draws, and a reset does not
bring them back. So a run does not depend on what its source has beyond the bytes that it draws. -/
theorem random_bytes_in_order (bus : Bus) (events : List Event) :
    let start := ofBus bus
    let drawn := start.count .random events
    (start.afterAll events).bus.random = bus.random.skip drawn ∧
    ((start.afterAll events).after .reset).bus.random = (start.afterAll events).bus.random ∧
    (∀ operation next, Cpu.step (start.afterAll events) = .ok operation next →
      operation.pattern = "CXNN" →
      next.state.get operation.opcode.x =
        ((bus.random.upcoming drawn).toNat &&& operation.opcode.nn : Nat)) ∧
    ∀ source : RandomSource,
      (∀ turn < drawn, source.upcoming turn = bus.random.upcoming turn) →
      let other := ofBus { bus with random := source }
      List.Forall₂ (Matches .random) (start.history events) (other.history events) ∧
        (start.afterAll events).SameBut .random (other.afterAll events) ∧
        (other.afterAll events).bus.random = source.skip drawn := by
  intro start drawn
  have used : (start.afterAll events).bus.random = bus.random.skip drawn :=
    start.source_afterAll events
  refine ⟨used, rfl, ?_, ?_⟩
  · intro operation next went draws
    rw [get_of_draw went draws, used, RandomSource.upcoming_skip, Nat.add_zero]
  · intro source same other
    have alike : start.SameBut .random other := ⟨source, rfl⟩
    obtain ⟨entries, final, counts⟩ := alike.random_history same
    have usedToo : (other.afterAll events).bus.random = _ := other.source_afterAll events
    rw [counts] at usedToo
    exact ⟨entries, final, usedToo⟩

def twoDraws : List Int := [0xC1, 0x0F, 0xC2, 0xF0]

def beginningWithSeven (others : UInt8) : RandomSource where
  bytes turn := if turn = 0 then 7 else others
  position := 0

theorem random_bytes_in_order_two :
    let start := ofBus { random := beginningWithSeven 200 }
    let other := ofBus { random := beginningWithSeven 9 }
    (∃ operation next, Cpu.step (start.afterAll [.load twoDraws, .step]) = .ok operation next ∧
      operation.pattern = "CXNN" ∧ next.state.get operation.opcode.x = 0xC0) ∧
    (start.afterAll [.load twoDraws, .step]).SameBut .random
      (other.afterAll [.load twoDraws, .step]) := by
  intro start other
  have first : (start.after (.load twoDraws)).Fetches 0xC10F .random :=
    fetches_of_loaded .default twoDraws rfl (by decide) 0 (by decide) rfl rfl
  have stepped := (after_step _).trans (Action.after_of_ok (step_of_draw first))
  have second : (start.afterAll [.load twoDraws, .step]).Fetches 0xC2F0 .random := by
    rw [afterAll_cons, afterAll_cons, stepped]
    exact fetches_of_loaded .default twoDraws rfl (by decide) 2 (by decide) rfl rfl
  have once : start.count .random [.load twoDraws, .step] = 1 := by
    rw [count_cons_singleton, count_of_draw first]
    rfl
  have law := random_bytes_in_order { random := beginningWithSeven 200 } [.load twoDraws, .step]
  obtain ⟨operation, next, went, draws, word⟩ : ∃ operation next,
      step (start.afterAll [.load twoDraws, .step]) = .ok operation next ∧
        operation.pattern = "CXNN" ∧ operation.opcode = 0xC2F0 :=
    ⟨_, _, step_of_draw second, rfl, rfl⟩
  refine ⟨⟨operation, next, went, draws, ?_⟩, ?_⟩
  · rw [law.2.2.1 operation next went draws, once, word]
    rfl
  · refine (law.2.2.2 (beginningWithSeven 9) ?_).2.1
    intro turn early
    rw [once] at early
    obtain rfl : turn = 0 := by omega
    rfl

end Cpu

end Chip8
