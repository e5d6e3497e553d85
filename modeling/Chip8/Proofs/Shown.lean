import Mathlib.Data.List.Perm.Subperm
import Chip8.Yaml.Value.Printer

namespace Chip8.Yaml

theorem Scalar.quoted_eq_none {value : Scalar} (mute : value.quoted? = none) :
    ∃ number, value = .int number ∧ Numeral.Endless number := by
  cases value with
  | int number =>
      rw [quoted?, Numeral.decimal?] at mute
      split at mute
      next long => exact ⟨number, rfl, long⟩
      next => cases mute
  | _ => cases mute

def Knotted.Holds (part : Scalar) : Knotted → Prop
  | scalar value => value = part
  | map entries => ∃ entry ∈ entries, entry.1 = part
  | set items => part ∈ items
  | list _ | pairs _ => False

/-- What a value is made of in the end. Of a knot this is all that its table has. -/
inductive Value.Holds (part : Scalar) : Value → Prop where
  | scalar : Holds part (.scalar part)
  | item {items : List Value} {item : Value} :
      item ∈ items → Holds part item → Holds part (.list items)
  | key {entries : List (Scalar × Value)} {value : Value} :
      (part, value) ∈ entries → Holds part (.map entries)
  | entry {entries : List (Scalar × Value)} {key : Scalar} {value : Value} :
      (key, value) ∈ entries → Holds part value → Holds part (.map entries)
  | element {items : List Scalar} : part ∈ items → Holds part (.set items)
  | first {entries : List (Value × Value)} {one other : Value} :
      (one, other) ∈ entries → Holds part one → Holds part (.pairs entries)
  | second {entries : List (Value × Value)} {one other : Value} :
      (one, other) ∈ entries → Holds part other → Holds part (.pairs entries)
  | knot {table : Array Knotted} {start number : Nat} {value : Knotted} :
      table[number]? = some value → value.Holds part → Holds part (.knot table start)

namespace Value

theorem mapM_ne_none {α β : Type} {read : α → Option β} {items : List α}
    (found : ∀ item ∈ items, read item ≠ none) : items.mapM read ≠ none := by
  induction items with
  | nil => simp
  | cons item rest ih =>
      obtain ⟨now, later⟩ := List.forall_mem_cons.mp found
      obtain ⟨first, head⟩ := Option.ne_none_iff_exists'.mp now
      obtain ⟨others, tail⟩ := Option.ne_none_iff_exists'.mp (ih later)
      rw [List.mapM_cons, head]
      simp [tail]

theorem join_ne_none {α β γ : Type} (join : α → β → γ) {first : Option α} {second : Option β}
    (one : first ≠ none) (other : second ≠ none) :
    (do return join (← first) (← second)) ≠ none := by
  obtain ⟨left, found⟩ := Option.ne_none_iff_exists'.mp one
  obtain ⟨right, present⟩ := Option.ne_none_iff_exists'.mp other
  simp [found, present]

theorem setText_ne_none {items : List Scalar} (shown : ∀ item ∈ items, item.quoted? ≠ none) :
    setText? items ≠ none := by
  rw [setText?]
  split
  · simp
  · simpa using mapM_ne_none shown

theorem length_path_le {size : Nat} {path : List Nat} (distinct : path.Nodup)
    (inside : ∀ number ∈ path, number < size) : path.length ≤ size := by
  have bounded : path ⊆ List.range size := by
    intro number member
    exact List.mem_range.mpr (inside number member)
  have short := (List.subperm_of_subset distinct bounded).length_le
  rwa [List.length_range] at short

/-- The collections around are different ones of the table, so that the search ends. -/
theorem knotText_ne_none {table : Array Knotted}
    (shown : ∀ (number : Nat) (value : Knotted), table[number]? = some value →
      ∀ part : Scalar, value.Holds part → part.quoted? ≠ none)
    {path : List Nat} {fuel : Nat} (number : Nat) (distinct : path.Nodup)
    (inside : ∀ place ∈ path, place < table.size) (enough : table.size < path.length + fuel) :
    knotText? table path fuel number ≠ none := by
  induction fuel generalizing path number with
  | zero =>
      have short := length_path_le distinct inside
      omega
  | succ fuel ih =>
      rw [knotText?]
      cases here : table[number]? with
      | none => simp [Scalar.quoted?]
      | some value =>
          have bound : number < table.size := (Array.getElem?_eq_some_iff.mp here).1
          -- One collection further in, the path has one more number, and there is less fuel by one.
          have inner (fresh : path.contains number = false) (next : Nat) :
              knotText? table (number :: path) fuel next ≠ none := by
            apply ih next
            · exact List.nodup_cons.mpr ⟨by simpa using fresh, distinct⟩
            · intro place member
              rcases List.mem_cons.mp member with rfl | older
              · exact bound
              · exact inside place older
            · rw [List.length_cons]
              omega
          cases value with
          | scalar part => exact shown number _ here part rfl
          | set items => exact setText_ne_none fun part member => shown number _ here part member
          | list items =>
              simp only
              split
              · simp
              next fresh =>
                  simpa using mapM_ne_none fun next _ => inner (by simpa using fresh) next
          | map entries =>
              simp only
              split
              · simp
              next fresh =>
                  have each : ∀ entry ∈ entries, (do
                      return entryText (← entry.1.quoted?)
                        (← knotText? table (number :: path) fuel entry.2)) ≠ none :=
                    fun entry member =>
                      join_ne_none entryText (shown number _ here entry.1 ⟨entry, member, rfl⟩)
                        (inner (by simpa using fresh) entry.2)
                  simpa using mapM_ne_none each
          | pairs entries =>
              simp only
              split
              · simp
              next fresh =>
                  have each : ∀ entry ∈ entries, (do
                      return pairText (← knotText? table (number :: path) fuel entry.1)
                        (← knotText? table (number :: path) fuel entry.2)) ≠ none :=
                    fun entry _ =>
                      join_ne_none pairText (inner (by simpa using fresh) entry.1)
                        (inner (by simpa using fresh) entry.2)
                  simpa using mapM_ne_none each

mutual

theorem quoted_ne_none : (value : Value) →
    (∀ part : Scalar, value.Holds part → part.quoted? ≠ none) → value.quoted? ≠ none
  | .scalar part, shown => shown part .scalar
  | .list items, shown => by
    have texts := itemTexts_ne_none items fun item member part holds =>
      shown part (.item member holds)
    simpa [quoted?] using texts
  | .map entries, shown => by
    have texts := entryTexts_ne_none entries (fun entry member => shown entry.1 (.key member))
      fun entry member part holds => shown part (.entry member holds)
    simpa [quoted?] using texts
  | .set items, shown => setText_ne_none fun part member => shown part (.element member)
  | .pairs entries, shown => by
    have texts := pairTexts_ne_none entries fun entry member part holds =>
      shown part (holds.elim (.first member) (.second member))
    simpa [quoted?] using texts
  | .knot table start, shown =>
    knotText_ne_none (fun _ _ here part holds => shown part (.knot here holds)) start
      List.nodup_nil (by simp) (by simp)

theorem itemTexts_ne_none : (items : List Value) →
    (∀ item ∈ items, ∀ part : Scalar, item.Holds part → part.quoted? ≠ none) →
    itemTexts? items ≠ none
  | [], _ => by simp [itemTexts?]
  | item :: rest, shown => by
    obtain ⟨now, later⟩ := List.forall_mem_cons.mp shown
    have first := quoted_ne_none item now
    have others := itemTexts_ne_none rest later
    rw [itemTexts?]
    exact join_ne_none List.cons first others

theorem entryTexts_ne_none : (entries : List (Scalar × Value)) →
    (∀ entry ∈ entries, entry.1.quoted? ≠ none) →
    (∀ entry ∈ entries, ∀ part : Scalar, entry.2.Holds part → part.quoted? ≠ none) →
    entryTexts? entries ≠ none
  | [], _, _ => by simp [entryTexts?]
  | (key, value) :: rest, named, shown => by
    obtain ⟨nameNow, namedLater⟩ := List.forall_mem_cons.mp named
    obtain ⟨now, later⟩ := List.forall_mem_cons.mp shown
    obtain ⟨name, found⟩ := Option.ne_none_iff_exists'.mp nameNow
    have content := quoted_ne_none value now
    have others := entryTexts_ne_none rest namedLater later
    rw [entryTexts?, found]
    exact join_ne_none (fun text texts => entryText name text :: texts) content others

theorem pairTexts_ne_none : (entries : List (Value × Value)) →
    (∀ entry ∈ entries, ∀ part : Scalar, entry.1.Holds part ∨ entry.2.Holds part →
      part.quoted? ≠ none) →
    pairTexts? entries ≠ none
  | [], _ => by simp [pairTexts?]
  | (one, other) :: rest, shown => by
    obtain ⟨now, later⟩ := List.forall_mem_cons.mp shown
    have first := quoted_ne_none one fun part holds => now part (.inl holds)
    obtain ⟨text, found⟩ := Option.ne_none_iff_exists'.mp first
    have second := quoted_ne_none other fun part holds => now part (.inr holds)
    have others := pairTexts_ne_none rest later
    rw [pairTexts?, found]
    exact join_ne_none (fun right texts => pairText text right :: texts) second others

end

/-- Only an integer of too many digits keeps a value from being shown. -/
theorem endless_of_text_eq_none {value : Value} (mute : value.text? = none) :
    ∃ number, value.Holds (.int number) ∧ Numeral.Endless number := by
  have unquoted : value.quoted? = none := by
    cases value with
    | scalar part =>
        cases part with
        | text | date | moment => cases mute
        | _ => exact Option.map_eq_none_iff.mp mute
    | _ => exact Option.map_eq_none_iff.mp mute
  by_contra absent
  refine quoted_ne_none value (fun part holds mute => ?_) unquoted
  obtain ⟨number, rfl, long⟩ := Scalar.quoted_eq_none mute
  exact absent ⟨number, holds, long⟩

theorem holds_of_ofTable {table : Array Knotted} {number : Nat} {part : Scalar}
    (holds : (ofTable table number).Holds part) (start : Nat) :
    (knot table start).Holds part := by
  rw [ofTable] at holds
  split at holds
  next value here =>
      cases holds
      exact .knot here rfl
  next =>
      cases holds with
      | knot here inner => exact .knot here inner

theorem holds_of_unfold {value : Value} {entries : List (Scalar × Value)}
    (layer : value.unfold = .map entries) {entry : Scalar × Value} (member : entry ∈ entries) :
    value.Holds entry.1 ∧ ∀ part, entry.2.Holds part → value.Holds part := by
  cases value with
  | map others =>
      cases layer
      exact ⟨.key member, fun part holds => .entry member holds⟩
  | knot table start =>
      rw [unfold] at layer
      split at layer
      case h_3 inner here =>
        cases layer
        obtain ⟨⟨key, number⟩, present, rfl⟩ := List.mem_map.mp member
        exact ⟨.knot here ⟨_, present, rfl⟩, fun part holds => holds_of_ofTable holds start⟩
      all_goals cases layer
  | _ => cases layer

end Value

end Chip8.Yaml
