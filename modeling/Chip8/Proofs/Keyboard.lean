import Mathlib.Data.Finset.Max
import Mathlib.Data.List.Sort
import Chip8.Keyboard
import Chip8.Proofs.Action
import Chip8.Proofs.Digits
/-!
The keyboard as a finite set. Whatever is done to it, the keys that are down are the members of a
set to which presses add and from which releases remove. Taking a key removes the least member, so
keys that are taken one after the other come in ascending order.
-/

namespace Chip8.Keyboard

section Laws

variable {keyboard : Keyboard} {key : Fin 16}

theorem mem_pressed_setHeld (keyboard : Keyboard) (down : Bool) (number : Int) (key : Fin 16) :
    key ∈ ((setHeld down number).after keyboard).pressed ↔
      if number = key.val then down = true else key ∈ keyboard.pressed := by
  by_cases known : 0 ≤ number ∧ number < 16
  · obtain ⟨held, rfl, went⟩ := setHeld_of_known down known keyboard
    rw [Action.after_of_ok went, mem_pressed, mem_pressed, Index.get_update]
    simp only [Int.ofNat_inj, Fin.ext_iff]
    split <;> rfl
  · have elsewhere : number ≠ key.val := by omega
    rw [Action.after_of_error (setHeld_of_unknown down known keyboard), if_neg elsewhere]

theorem pressed_sorted (keyboard : Keyboard) : keyboard.pressed.Pairwise (· < ·) :=
  (List.pairwise_lt_finRange 16).sublist List.filter_sublist

theorem lowest_of_head (first : keyboard.pressed.head? = some key) :
    key ∈ keyboard.pressed ∧ ∀ other ∈ keyboard.pressed, key ≤ other := by
  have sorted := keyboard.pressed_sorted
  obtain ⟨rest, listed⟩ := List.head?_eq_some_iff.mp first
  rw [listed] at sorted ⊢
  constructor
  · exact List.mem_cons_self
  · intro other member
    rcases List.mem_cons.mp member with rfl | later
    · exact Fin.le_refl other
    · exact Fin.le_of_lt (List.rel_of_pairwise_cons sorted later)

theorem pressed_up (keyboard : Keyboard) (key : Fin 16) :
    pressed ⟨Index.update keyboard.held key false⟩ = keyboard.pressed.filter (· ≠ key) := by
  rw [pressed, pressed, List.filter_filter]
  refine List.filter_congr fun other _ => ?_
  rw [Index.get_update]
  by_cases same : key = other
  · simp [same]
  · simp [same, Ne.symm same]

theorem mem_pressed_up (keyboard : Keyboard) (key other : Fin 16) :
    other ∈ pressed ⟨Index.update keyboard.held key false⟩ ↔
      other ∈ keyboard.pressed ∧ other ≠ key := by
  rw [pressed_up, List.mem_filter, decide_eq_true_eq]

end Laws

def numbers (keyboard : Keyboard) : List Int := keyboard.pressed.map fun key => (key.val : Int)

inductive Answer where
  | done
  | down (pressed : Bool)
  | taken (number : Option Int)
  deriving DecidableEq, Repr

inductive Call where
  | press (number : Int)
  | release (number : Int)
  | isPressed (number : Int)
  | take
  | releaseAll
  deriving DecidableEq, Repr

namespace Call

def action : Call → Action Fault Keyboard Answer
  | press number => do
    Keyboard.press number
    return .done
  | release number => do
    Keyboard.release number
    return .done
  | isPressed number => do
    let keyboard ← get
    let pressed ← Action.attempt (keyboard.isPressed number)
    return .down pressed
  | take => fun keyboard =>
    .ok (.taken (keyboard.take.1.map fun key => (key.val : Int))) keyboard.take.2
  | releaseAll => fun _ => .ok .done released

/-- What a call makes of the set of the keys that are down. -/
def change (keys : Finset Int) : Call → Finset Int
  | press number => if 0 ≤ number ∧ number < 16 then insert number keys else keys
  | release number => keys.erase number
  | isPressed _ => keys
  | take => if present : keys.Nonempty then keys.erase (keys.min' present) else keys
  | releaseAll => ∅

end Call

def afterCalls (keyboard : Keyboard) (calls : List Call) : Keyboard :=
  calls.foldl (fun keyboard call => call.action.after keyboard) keyboard

def keysAfter (calls : List Call) : Finset Int := calls.foldl Call.change ∅

section Set

variable {keyboard : Keyboard} {number least : Int} {rest : List Int}

theorem mem_numbers : number ∈ keyboard.numbers ↔
    ∃ key ∈ keyboard.pressed, (key.val : Int) = number :=
  List.mem_map

theorem numbers_sorted (keyboard : Keyboard) : keyboard.numbers.Pairwise (· < ·) :=
  List.pairwise_map.mpr (keyboard.pressed_sorted.imp fun {_ _} below => Int.ofNat_lt.mpr below)

theorem isPressed_eq_ok (known : 0 ≤ number ∧ number < 16) :
    keyboard.isPressed number = .ok (decide (number ∈ keyboard.numbers)) := by
  obtain ⟨key, rfl, found⟩ := isPressed_of_known known keyboard
  have named : (key.val : Int) ∈ keyboard.numbers ↔ keyboard.held.get key = true := by
    rw [mem_numbers, ← mem_pressed]
    constructor
    · rintro ⟨other, down, same⟩
      rwa [← Fin.ext (Int.ofNat_inj.mp same)]
    · exact fun down => ⟨key, down, rfl⟩
  have answer : keyboard.held.get key = decide ((key.val : Int) ∈ keyboard.numbers) := by
    rw [Bool.eq_iff_iff, decide_eq_true_iff]
    exact named.symm
  rw [found, ← answer]

theorem mem_numbers_setHeld (keyboard : Keyboard) (down : Bool) (number other : Int) :
    other ∈ ((setHeld down number).after keyboard).numbers ↔
      if other = number then (0 ≤ number ∧ number < 16) ∧ down = true
      else other ∈ keyboard.numbers := by
  simp only [mem_numbers, mem_pressed_setHeld]
  by_cases here : other = number
  · subst here
    rw [if_pos rfl]
    constructor
    · rintro ⟨key, held, rfl⟩
      rw [if_pos rfl] at held
      exact ⟨by omega, held⟩
    · rintro ⟨known, held⟩
      have named : ((other.toNat : Nat) : Int) = other := Int.toNat_of_nonneg known.1
      exact ⟨⟨other.toNat, by omega⟩, by rwa [if_pos named.symm], named⟩
  · rw [if_neg here]
    refine exists_congr fun key => and_congr_left fun named => ?_
    rw [if_neg (by omega)]

theorem take_numbers (keyboard : Keyboard) :
    keyboard.take.1.map (fun key => (key.val : Int)) = keyboard.numbers.head? ∧
      keyboard.take.2.numbers = keyboard.numbers.tail := by
  cases first : keyboard.pressed.head? with
  | none =>
      have empty : keyboard.numbers = [] := by
        rw [numbers, List.head?_eq_none_iff.mp first, List.map_nil]
      rw [take_of_none first, empty]
      exact ⟨rfl, rfl⟩
  | some key =>
      obtain ⟨rest, listed⟩ := List.head?_eq_some_iff.mp first
      have sorted := keyboard.pressed_sorted
      rw [listed] at sorted
      have others : (key :: rest).filter (· ≠ key) = rest := by
        rw [List.filter_cons_of_neg (by simp), List.filter_eq_self]
        intro other member
        exact decide_eq_true (Fin.ne_of_gt (List.rel_of_pairwise_cons sorted member))
      rw [take_of_head first, numbers, numbers, pressed_up, listed, others]
      exact ⟨rfl, rfl⟩

theorem take_of_nil (empty : keyboard.numbers = []) : keyboard.take.2 = keyboard := by
  rw [numbers, List.map_eq_nil_iff] at empty
  rw [take, empty]
  rfl

def keys (keyboard : Keyboard) : Finset Int := keyboard.numbers.toFinset

theorem mem_keys : number ∈ keyboard.keys ↔ number ∈ keyboard.numbers := List.mem_toFinset

theorem keys_setHeld_of_unknown (down : Bool) (unknown : ¬(0 ≤ number ∧ number < 16)) :
    ((setHeld down number).after keyboard).keys = keyboard.keys := by
  rw [Action.after_of_error (setHeld_of_unknown down unknown keyboard)]

theorem keys_press (keyboard : Keyboard) (known : 0 ≤ number ∧ number < 16) :
    ((press number).after keyboard).keys = insert number keyboard.keys := by
  ext other
  rw [mem_keys, press, mem_numbers_setHeld, Finset.mem_insert, mem_keys]
  by_cases here : other = number <;> simp [here, known]

/-- A number that names no key is no member in the first place. -/
theorem keys_release (keyboard : Keyboard) (number : Int) :
    ((release number).after keyboard).keys = keyboard.keys.erase number := by
  ext other
  rw [mem_keys, release, mem_numbers_setHeld, Finset.mem_erase, mem_keys]
  by_cases here : other = number <;> simp [here]

theorem keys_eq_empty (empty : keyboard.numbers = []) : keyboard.keys = ∅ := by
  rw [keys, empty, List.toFinset_nil]

theorem keys_nonempty (listed : keyboard.numbers = least :: rest) : keyboard.keys.Nonempty :=
  ⟨least, by rw [mem_keys, listed]; exact List.mem_cons_self⟩

theorem min_keys (listed : keyboard.numbers = least :: rest) (present : keyboard.keys.Nonempty) :
    keyboard.keys.min' present = least := by
  have sorted := keyboard.numbers_sorted
  rw [listed] at sorted
  refine le_antisymm (Finset.min'_le _ _ ?_) (Finset.le_min' _ _ _ fun other member => ?_)
  · rw [mem_keys, listed]
    exact List.mem_cons_self
  · rw [mem_keys, listed] at member
    rcases List.mem_cons.mp member with rfl | later
    · exact le_rfl
    · exact le_of_lt (List.rel_of_pairwise_cons sorted later)

theorem keys_take (keyboard : Keyboard) :
    keyboard.take.2.keys = Call.take.change keyboard.keys := by
  have others := keyboard.take_numbers.2
  cases listed : keyboard.numbers with
  | nil =>
      rw [listed] at others
      rw [keys_eq_empty others, keys_eq_empty listed]
      rfl
  | cons least rest =>
      have sorted := keyboard.numbers_sorted
      rw [listed] at others sorted
      have once : least ∉ rest.toFinset := fun member =>
        lt_irrefl least (List.rel_of_pairwise_cons sorted (List.mem_toFinset.mp member))
      have present := keys_nonempty listed
      rw [Call.change, dif_pos present, min_keys listed present, keys, keys, others, listed,
        List.toFinset_cons, Finset.erase_insert once, List.tail_cons]

/-- The step from one call to the next. -/
theorem keys_after_call (keyboard : Keyboard) (call : Call) :
    (call.action.after keyboard).keys = call.change keyboard.keys := by
  cases call with
  | press number =>
      rw [Call.action, Action.after_bind_pure, Call.change]
      by_cases known : 0 ≤ number ∧ number < 16
      · rw [keys_press keyboard known, if_pos known]
      · rw [press, keys_setHeld_of_unknown true known, if_neg known]
  | release number =>
      rw [Call.action, Action.after_bind_pure, keys_release, Call.change]
  | isPressed number =>
      have asks : (Call.isPressed number).action.Preserves keys :=
        Action.preserves_get_bind fun _ =>
          (Action.preserves_attempt _ _).bind fun _ => Action.preserves_pure _ _
      exact asks keyboard
  | take => exact keyboard.keys_take
  | releaseAll => rfl

theorem keys_afterCalls (calls : List Call) :
    (released.afterCalls calls).keys = keysAfter calls := by
  have none : released.keys = ∅ := by decide
  rw [keysAfter, ← none]
  exact (List.foldl_hom keys fun keyboard call => (keys_after_call keyboard call).symm).symm

theorem afterCalls_concat (keyboard : Keyboard) (calls : List Call) (call : Call) :
    keyboard.afterCalls (calls ++ [call]) = call.action.after (keyboard.afterCalls calls) := by
  rw [afterCalls, List.foldl_append]
  rfl

theorem Call.isPressed_apply (number : Int) (keyboard : Keyboard) :
    (Call.isPressed number).action keyboard =
      match keyboard.isPressed number with
      | .ok pressed => .ok (.down pressed) keyboard
      | .error refusal => .error refusal keyboard := by
  rw [Call.action, Action.bind_of_ok (Action.get_apply keyboard)]
  cases keyboard.isPressed number <;> rfl

theorem Call.refused_of_unknown (unknown : ¬(0 ≤ number ∧ number < 16)) {call : Call}
    (member : call ∈ [Call.press number, Call.release number, Call.isPressed number])
    (keyboard : Keyboard) : call.action keyboard = .error (.unknownKey number) keyboard := by
  simp only [List.mem_cons, List.not_mem_nil, or_false] at member
  rcases member with rfl | rfl | rfl
  · exact Action.bind_of_error (setHeld_of_unknown true unknown keyboard)
  · exact Action.bind_of_error (setHeld_of_unknown false unknown keyboard)
  · rw [Call.isPressed_apply, isPressed_of_unknown unknown]

theorem Call.done_of_known (known : 0 ≤ number ∧ number < 16) {call : Call}
    (member : call ∈ [Call.press number, Call.release number]) (keyboard : Keyboard) :
    call.action keyboard = .ok .done (call.action.after keyboard) := by
  have held : ∀ down, setHeld down number keyboard =
      .ok () ((setHeld down number).after keyboard) := by
    intro down
    obtain ⟨key, -, went⟩ := setHeld_of_known down known keyboard
    rw [Action.after_of_ok went, went]
  simp only [List.mem_cons, List.not_mem_nil, or_false] at member
  rcases member with rfl | rfl
  · rw [Call.action, Action.after_bind_pure]
    exact Action.bind_of_ok (held true)
  · rw [Call.action, Action.after_bind_pure]
    exact Action.bind_of_ok (held false)

theorem Call.take_apply (keyboard : Keyboard) :
    Call.take.action keyboard = .ok (.taken keyboard.numbers.head?) keyboard.take.2 := by
  change EStateM.Result.ok (Answer.taken (keyboard.take.1.map _)) keyboard.take.2 = _
  rw [keyboard.take_numbers.1]

/-- The places of the list are taken one by one. Beyond its end there is nothing to take. -/
theorem times_take (keyboard : Keyboard) (count : Nat) :
    ∃ left, Action.times Call.take.action count keyboard =
      .ok ((List.range count).map fun place => .taken keyboard.numbers[place]?) left := by
  induction count generalizing keyboard with
  | zero => exact ⟨keyboard, rfl⟩
  | succ count ih =>
      obtain ⟨left, went⟩ := ih keyboard.take.2
      rw [keyboard.take_numbers.2] at went
      refine ⟨left, ?_⟩
      rw [Action.times, Action.bind_of_ok (Call.take_apply keyboard), Action.bind_of_ok went,
        List.range_succ_eq_map, List.map_cons, List.map_map]
      cases keyboard.numbers <;> rfl

end Set

/-- A new keyboard, whatever calls follow, some of which may be refused. A call for a number that
names no key is refused and changes nothing; it counts as a key out of bounds only if the number has
at most 4300 digits. A key is down if it is a member of the set that the calls have made. Taking a
key answers the least member, if there is one; so taking again and again goes through the members in
ascending order, once each, and then finds none for ever. -/
theorem refines_finite_set (calls : List Call) :
    (∀ number : Int, ¬(0 ≤ number ∧ number < 16) →
      (∀ call ∈ [Call.press number, Call.release number, Call.isPressed number],
        call.action (released.afterCalls calls) =
          .error (.unknownKey number) (released.afterCalls calls)) ∧
      (Fault.unknownKey number).kind? =
        if (Nat.toDigits 10 number.natAbs).length ≤ 4300 then some .keyBounds else none) ∧
    (∀ number, 0 ≤ number → number < 16 →
      (∀ call ∈ [Call.press number, Call.release number],
        call.action (released.afterCalls calls) =
          .ok .done (released.afterCalls (calls ++ [call]))) ∧
      (Call.isPressed number).action (released.afterCalls calls) =
        .ok (.down (decide (number ∈ keysAfter calls))) (released.afterCalls calls)) ∧
    (keysAfter calls = ∅ → Call.take.action (released.afterCalls calls) =
      .ok (.taken none) (released.afterCalls calls)) ∧
    (∀ present : (keysAfter calls).Nonempty, Call.take.action (released.afterCalls calls) =
      .ok (.taken (some ((keysAfter calls).min' present)))
        (released.afterCalls (calls ++ [.take]))) ∧
    Call.releaseAll.action (released.afterCalls calls) = .ok .done released ∧
    ∃ order : List Int, order.Pairwise (· < ·) ∧ (∀ number, number ∈ order ↔
      number ∈ keysAfter calls) ∧
      ∀ count, ∃ left, Action.times Call.take.action count (released.afterCalls calls) =
        .ok ((List.range count).map fun place => .taken order[place]?) left := by
  have reached := keys_afterCalls calls
  simp only [afterCalls_concat]
  generalize released.afterCalls calls = keyboard at reached ⊢
  generalize keysAfter calls = keys at reached ⊢
  subst reached
  refine ⟨fun number unknown =>
      ⟨fun call member => Call.refused_of_unknown unknown member keyboard,
        Fault.kind_unknownKey number⟩,
    fun number low high => ⟨fun call member => Call.done_of_known ⟨low, high⟩ member keyboard,
      ?asked⟩, ?empty, ?least, rfl, keyboard.numbers, keyboard.numbers_sorted,
    fun number => mem_keys.symm, keyboard.times_take⟩
  case asked =>
    rw [Call.isPressed_apply, isPressed_eq_ok ⟨low, high⟩, decide_eq_decide.mpr mem_keys]
  case empty =>
    intro none
    have empty : keyboard.numbers = [] := (List.toFinset_eq_empty_iff _).mp none
    rw [Call.take_apply, take_of_nil empty, empty]
    rfl
  case least =>
    intro present
    cases listed : keyboard.numbers with
    | nil => exact absurd (keys_eq_empty listed) present.ne_empty
    | cons least rest =>
        rw [Action.after_of_ok (Call.take_apply keyboard), Call.take_apply,
          min_keys listed present, listed]
        rfl

/-- Three keys are pressed, of which the lowest is taken and another one released. The numbers -1
and 32 name no key. -/
def fewCalls : List Call :=
  [.press 9, .press (-1), .press 15, .press 3, .press 32, .take, .release 9, .press 7]

theorem refines_finite_set_few :
    keysAfter fewCalls = {7, 15} ∧
    (Call.press (-1)).action (released.afterCalls fewCalls) =
      .error (.unknownKey (-1)) (released.afterCalls fewCalls) ∧
    (Call.isPressed 15).action (released.afterCalls fewCalls) =
      .ok (.down true) (released.afterCalls fewCalls) ∧
    (Call.isPressed 9).action (released.afterCalls fewCalls) =
      .ok (.down false) (released.afterCalls fewCalls) ∧
    Call.take.action (released.afterCalls fewCalls) =
      .ok (.taken (some 7)) (released.afterCalls (fewCalls ++ [.take])) ∧
    ∃ left, Action.times Call.take.action 4 (released.afterCalls fewCalls) =
      .ok [.taken (some 7), .taken (some 15), .taken none, .taken none] left := by
  obtain ⟨unknown, known, -, least, -, order, sorted, members, taken⟩ := refines_finite_set fewCalls
  have reached : keysAfter fewCalls = {7, 15} := by decide
  have listed : order = [7, 15] := by
    refine sorted.eq_of_mem_iff (by decide) fun number => ?_
    rw [members, reached]
    simp
  have present : (keysAfter fewCalls).Nonempty := by decide
  have lowest : (keysAfter fewCalls).min' present = 7 := by decide +revert
  subst listed
  refine ⟨reached, (unknown (-1) (by decide)).1 (.press (-1)) (by decide), ?_, ?_, ?_, taken 4⟩
  · rw [(known 15 (by decide) (by decide)).2, reached]
    rfl
  · rw [(known 9 (by decide) (by decide)).2, reached]
    rfl
  · rw [least present, lowest]

theorem press_of_endless {number : Int} (long : Numeral.Endless number) :
    (Call.press number).action released = .error (.unknownKey number) released ∧
    (Fault.unknownKey number).kind? = none ∧
    (Fault.unknownKey number).message = Numeral.endlessText := by
  have unknown : ¬(0 ≤ number ∧ number < 16) := fun known =>
    Numeral.not_endless_of_lt (by omega) long
  exact ⟨Call.refused_of_unknown unknown List.mem_cons_self released, if_pos long, if_pos long⟩

/-- One digit too many. -/
theorem press_of_endless_number :
    (Call.press (10 ^ 4300)).action released = .error (.unknownKey (10 ^ 4300)) released ∧
    (Fault.unknownKey (10 ^ 4300)).kind? = none ∧
    (Fault.unknownKey (10 ^ 4300)).message = Numeral.endlessText :=
  press_of_endless Numeral.endless_pow

end Chip8.Keyboard
