import Chip8.Action
/-!
Laws of actions. `after` is the state that an action leaves behind whether or not it is refused;
an action preserves a view of the state that looks the same before and after.
-/

namespace Chip8.Action

variable {ε σ τ α β γ : Type}

def after (action : Action ε σ α) (state : σ) : σ :=
  match action state with
  | .ok _ done => done
  | .error _ done => done

theorem after_of_ok {action : Action ε σ α} {state done : σ} {value : α}
    (went : action state = .ok value done) : action.after state = done := by
  simp only [after, went]

theorem after_of_error {action : Action ε σ α} {state done : σ} {refusal : ε}
    (refused : action state = .error refusal done) : action.after state = done := by
  simp only [after, refused]

def refusal? (action : Action ε σ α) (state : σ) : Option ε :=
  match action state with
  | .ok _ _ => none
  | .error refusal _ => some refusal

theorem refusal_of_ok {action : Action ε σ α} {state done : σ} {value : α}
    (went : action state = .ok value done) : action.refusal? state = none := by
  simp only [refusal?, went]

theorem refusal_of_error {action : Action ε σ α} {state done : σ} {refusal : ε}
    (refused : action state = .error refusal done) : action.refusal? state = some refusal := by
  simp only [refusal?, refused]

theorem refusal_eq_some {action : Action ε σ α} {state : σ} {refusal : ε} :
    action.refusal? state = some refusal ↔ ∃ done, action state = .error refusal done := by
  constructor
  · intro refused
    cases result : action state with
    | ok value done =>
        rw [refusal_of_ok result] at refused
        cases refused
    | error cause done =>
        rw [refusal_of_error result] at refused
        cases refused
        exact ⟨done, rfl⟩
  · rintro ⟨done, refused⟩
    exact refusal_of_error refused

theorem refusal_eq_none {action : Action ε σ α} {state : σ} :
    action.refusal? state = none ↔ ∃ value done, action state = .ok value done := by
  constructor
  · intro goes
    cases result : action state with
    | ok value done => exact ⟨value, done, rfl⟩
    | error refusal done =>
        rw [refusal_of_error result] at goes
        cases goes
  · rintro ⟨value, done, went⟩
    exact refusal_of_ok went

def outcome (action : Action ε σ α) (state : σ) : Except ε α :=
  match action state with
  | .ok value _ => .ok value
  | .error refusal _ => .error refusal

theorem outcome_of_ok {action : Action ε σ α} {state done : σ} {value : α}
    (went : action state = .ok value done) : action.outcome state = .ok value := by
  simp only [outcome, went]

theorem outcome_of_error {action : Action ε σ α} {state done : σ} {refusal : ε}
    (refused : action state = .error refusal done) : action.outcome state = .error refusal := by
  simp only [outcome, refused]

@[simp] theorem get_apply (state : σ) : (get : Action ε σ σ) state = .ok state state := rfl

@[simp] theorem attempt_ok (value : α) (state : σ) :
    (attempt (.ok value) : Action ε σ α) state = .ok value state := rfl

@[simp] theorem attempt_error (refusal : ε) (state : σ) :
    (attempt (.error refusal) : Action ε σ α) state = .error refusal state := rfl

theorem attempt_eq_ok {outcome : Except ε α} {state done : σ} {value : α} :
    (attempt outcome : Action ε σ α) state = .ok value done ↔
      outcome = .ok value ∧ state = done := by
  cases outcome with
  | error refusal => simp
  | ok found => simp

theorem bind_apply (first : Action ε σ α) (rest : α → Action ε σ β) (state : σ) :
    (first >>= rest) state =
      match first state with
      | .ok value done => rest value done
      | .error refusal done => .error refusal done := rfl

theorem within_apply (part : σ → τ) (replace : σ → τ → σ) (action : Action ε τ α) (state : σ) :
    within part replace action state =
      match action (part state) with
      | .ok value done => .ok value (replace state done)
      | .error refusal done => .error refusal (replace state done) := rfl

theorem bind_of_ok {first : Action ε σ α} {rest : α → Action ε σ β} {state done : σ} {value : α}
    (went : first state = .ok value done) : (first >>= rest) state = rest value done := by
  rw [bind_apply, went]

theorem bind_of_error {first : Action ε σ α} {rest : α → Action ε σ β} {state done : σ}
    {refusal : ε} (refused : first state = .error refusal done) :
    (first >>= rest) state = .error refusal done := by
  rw [bind_apply, refused]

theorem bind_eq_ok {first : Action ε σ α} {rest : α → Action ε σ β} {state done : σ} {value : β} :
    (first >>= rest) state = .ok value done ↔
      ∃ found middle, first state = .ok found middle ∧ rest found middle = .ok value done := by
  rw [bind_apply]
  constructor
  · intro went
    cases result : first state with
    | ok found middle =>
        rw [result] at went
        exact ⟨found, middle, rfl, went⟩
    | error refusal middle =>
        rw [result] at went
        cases went
  · rintro ⟨found, middle, head, tail⟩
    rw [head]
    exact tail

theorem bind_eq_error {first : Action ε σ α} {rest : α → Action ε σ β} {state done : σ}
    {refusal : ε} :
    (first >>= rest) state = .error refusal done ↔
      first state = .error refusal done ∨
        ∃ found middle,
          first state = .ok found middle ∧ rest found middle = .error refusal done := by
  rw [bind_apply]
  cases first state with
  | error cause middle => simp
  | ok found middle =>
      constructor
      · intro refused
        exact .inr ⟨found, middle, rfl, refused⟩
      · rintro (clash | ⟨value, between, same, refused⟩)
        · cases clash
        · cases same
          exact refused

theorem within_of_ok {part : σ → τ} {replace : σ → τ → σ} {action : Action ε τ α} {state : σ}
    {value : α} {done : τ} (went : action (part state) = .ok value done) :
    within part replace action state = .ok value (replace state done) := by
  rw [within_apply, went]

theorem within_of_error {part : σ → τ} {replace : σ → τ → σ} {action : Action ε τ α} {state : σ}
    {refusal : ε} {done : τ} (refused : action (part state) = .error refusal done) :
    within part replace action state = .error refusal (replace state done) := by
  rw [within_apply, refused]

theorem after_within (part : σ → τ) (replace : σ → τ → σ) (action : Action ε τ α) (state : σ) :
    (within part replace action).after state = replace state (action.after (part state)) := by
  rw [after, within_apply, after]
  cases action (part state) <;> rfl

theorem after_bind_pure (action : Action ε σ α) (answer : α → β) (state : σ) :
    (action >>= fun value => pure (answer value)).after state = action.after state := by
  rw [after, bind_apply, after]
  cases action state <;> rfl

/-- Of several repetitions one is refused, and those before it went through. -/
theorem times_eq_error {action : Action ε σ α} {count : Nat} {state left : σ} {refusal : ε}
    (refused : times action count state = .error refusal left) :
    ∃ done < count, ∃ answers before,
      times action done state = .ok answers before ∧ action before = .error refusal left := by
  induction count generalizing state with
  | zero => cases refused
  | succ count ih =>
      cases bind_eq_error.mp refused with
      | inl here => exact ⟨0, Nat.succ_pos count, [], state, rfl, here⟩
      | inr later =>
          obtain ⟨first, middle, head, tail⟩ := later
          have rest : times action count middle = .error refusal left := by
            rcases bind_eq_error.mp tail with stopped | ⟨answers, done, -, answer⟩
            · exact stopped
            · cases answer
          obtain ⟨done, early, answers, before, went, stopped⟩ := ih rest
          have whole : times action (done + 1) state = .ok (first :: answers) before :=
            (bind_of_ok head).trans (bind_of_ok went)
          exact ⟨done + 1, Nat.succ_lt_succ early, first :: answers, before, whole, stopped⟩

/-- What can be seen through `view` is left alone, also by a refusal. -/
def Preserves (view : σ → γ) (action : Action ε σ α) : Prop :=
  ∀ state, view (action.after state) = view state

theorem preserves_pure (view : σ → γ) (value : α) :
    Preserves view (pure value : Action ε σ α) := fun _ => rfl

theorem preserves_attempt (view : σ → γ) (answer : Except ε α) :
    Preserves view (attempt answer : Action ε σ α) := by
  intro state
  cases answer <;> rfl

theorem view_after_bind {view : σ → γ} (first : Action ε σ α) {rest : α → Action ε σ β}
    (tail : ∀ value, Preserves view (rest value)) (state : σ) :
    view ((first >>= rest).after state) = view (first.after state) := by
  simp only [after, bind_apply]
  cases first state with
  | error refusal done => rfl
  | ok value done => exact tail value done

theorem Preserves.bind {view : σ → γ} {first : Action ε σ α} {rest : α → Action ε σ β}
    (head : Preserves view first) (tail : ∀ value, Preserves view (rest value)) :
    Preserves view (first >>= rest) := by
  intro state
  exact (view_after_bind first tail state).trans (head state)

theorem preserves_get_bind {view : σ → γ} {rest : σ → Action ε σ β}
    (tail : ∀ value, Preserves view (rest value)) : Preserves view (get >>= rest) :=
  Preserves.bind (fun _ => rfl) tail

theorem preserves_within {view : σ → γ} {part : σ → τ} {replace : σ → τ → σ}
    {action : Action ε τ α}
    (kept : ∀ state, view (replace state (action.after (part state))) = view state) :
    Preserves view (within part replace action) := by
  intro state
  have agreed := kept state
  simp only [after, within_apply] at agreed ⊢
  cases went : action (part state) <;> simpa only [went] using agreed

def RefusesOnly (sort : ε → Prop) (action : Action ε σ α) : Prop :=
  ∀ state refusal, action.refusal? state = some refusal → sort refusal

theorem refusesOnly_of_ok {sort : ε → Prop} {action : Action ε σ α}
    (goes : ∀ state, action.refusal? state = none) : RefusesOnly sort action := by
  intro state refusal refused
  rw [goes state] at refused
  cases refused

theorem refusesOnly_attempt {sort : ε → Prop} {answer : Except ε α}
    (only : ∀ refusal, answer = .error refusal → sort refusal) :
    RefusesOnly sort (attempt answer : Action ε σ α) := by
  intro state refusal refused
  cases answer with
  | ok value => cases refused
  | error cause =>
      cases refused
      exact only refusal rfl

theorem RefusesOnly.bind {sort : ε → Prop} {first : Action ε σ α} {rest : α → Action ε σ β}
    (head : RefusesOnly sort first) (tail : ∀ value, RefusesOnly sort (rest value)) :
    RefusesOnly sort (first >>= rest) := by
  intro state refusal refused
  rw [refusal?, bind_apply] at refused
  cases went : first state with
  | error cause done =>
      rw [went] at refused
      cases refused
      exact head state refusal (refusal_of_error went)
  | ok value done =>
      rw [went] at refused
      exact tail value done refusal refused

theorem refusesOnly_get_bind {sort : ε → Prop} {rest : σ → Action ε σ β}
    (tail : ∀ value, RefusesOnly sort (rest value)) : RefusesOnly sort (get >>= rest) :=
  RefusesOnly.bind (refusesOnly_of_ok fun _ => rfl) tail

theorem RefusesOnly.within {sort : ε → Prop} {part : σ → τ} {replace : σ → τ → σ}
    {action : Action ε τ α} (only : RefusesOnly sort action) :
    RefusesOnly sort (within part replace action) := by
  intro state refusal refused
  rw [refusal?, within_apply] at refused
  cases went : action (part state) with
  | ok value done =>
      rw [went] at refused
      cases refused
  | error cause done =>
      rw [went] at refused
      cases refused
      exact only (part state) refusal (refusal_of_error went)

def carried (change : σ → σ) : EStateM.Result ε σ α → EStateM.Result ε σ α
  | .ok value done => .ok value (change done)
  | .error refusal done => .error refusal (change done)

/-- The answer is the same whether the state is changed before the action or after it, and so is the
state left behind. -/
def Commutes (change : σ → σ) (action : Action ε σ α) : Prop :=
  ∀ state, action (change state) = carried change (action state)

theorem commutes_pure (change : σ → σ) (value : α) :
    Commutes change (pure value : Action ε σ α) := fun _ => rfl

theorem commutes_attempt (change : σ → σ) (answer : Except ε α) :
    Commutes change (attempt answer : Action ε σ α) := by
  intro state
  cases answer <;> rfl

theorem commutes_id (action : Action ε σ α) : Commutes id action := by
  intro state
  rw [id]
  cases action state <;> rfl

theorem Commutes.bind {change : σ → σ} {first : Action ε σ α} {rest : α → Action ε σ β}
    (head : Commutes change first) (tail : ∀ value, Commutes change (rest value)) :
    Commutes change (first >>= rest) := by
  intro state
  rw [bind_apply, bind_apply, head state]
  cases first state with
  | error refusal done => rfl
  | ok value done => exact tail value done

theorem commutes_get_bind {change : σ → σ} {rest : σ → Action ε σ β}
    (unseen : ∀ state, rest (change state) = rest state)
    (tail : ∀ state, Commutes change (rest state)) : Commutes change (get >>= rest) := by
  intro state
  rw [bind_apply, bind_apply, get_apply, get_apply]
  exact (congrFun (unseen state) (change state)).trans (tail state state)

theorem commutes_within {change : σ → σ} {inner : τ → τ} {part : σ → τ} {replace : σ → τ → σ}
    {action : Action ε τ α} (sees : ∀ state, part (change state) = inner (part state))
    (replaces : ∀ state done, replace (change state) (inner done) = change (replace state done))
    (inside : Commutes inner action) : Commutes change (within part replace action) := by
  intro state
  rw [within_apply, within_apply, sees, inside (part state)]
  cases action (part state) with
  | ok value done => exact congrArg (EStateM.Result.ok value) (replaces state done)
  | error refusal done => exact congrArg (EStateM.Result.error refusal) (replaces state done)

inductive Alike (related : σ → σ → Prop) :
    EStateM.Result ε σ α → EStateM.Result ε σ α → Prop where
  | ok (value : α) {first second : σ} (same : related first second) :
      Alike related (.ok value first) (.ok value second)
  | error (refusal : ε) {first second : σ} (same : related first second) :
      Alike related (.error refusal first) (.error refusal second)

theorem alike_carried {related : σ → σ → Prop} {change : σ → σ}
    (changed : ∀ state, related state (change state)) (result : EStateM.Result ε σ α) :
    Alike related result (carried change result) := by
  cases result with
  | ok value done => exact .ok value (changed done)
  | error refusal done => exact .error refusal (changed done)

theorem Alike.of_ok {related : σ → σ → Prop} {result : EStateM.Result ε σ α} {value : α} {done : σ}
    (alike : Alike related (.ok value done) result) :
    ∃ other, result = .ok value other ∧ related done other := by
  cases alike with
  | ok _ same => exact ⟨_, rfl, same⟩

theorem Alike.of_error {related : σ → σ → Prop} {result : EStateM.Result ε σ α} {refusal : ε}
    {done : σ} (alike : Alike related (.error refusal done) result) :
    ∃ other, result = .error refusal other ∧ related done other := by
  cases alike with
  | error _ same => exact ⟨_, rfl, same⟩

theorem Alike.outcome_and_after {related : σ → σ → Prop} {action : Action ε σ α} {first second : σ}
    (alike : Alike related (action first) (action second)) :
    action.outcome first = action.outcome second ∧
      related (action.after first) (action.after second) := by
  cases went : action first with
  | ok value done =>
      rw [went] at alike
      obtain ⟨other, also, same⟩ := alike.of_ok
      rw [outcome_of_ok went, outcome_of_ok also, after_of_ok went, after_of_ok also]
      exact ⟨rfl, same⟩
  | error refusal done =>
      rw [went] at alike
      obtain ⟨other, also, same⟩ := alike.of_error
      rw [outcome_of_error went, outcome_of_error also, after_of_error went, after_of_error also]
      exact ⟨rfl, same⟩

end Chip8.Action
