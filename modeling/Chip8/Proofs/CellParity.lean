import Chip8.Proofs.Flips
import Chip8.Proofs.Invariant
import Mathlib.Data.List.Induction
/-!
A screen over all that is done to it. A cell is lit if it has been flipped an odd number of times
since the screen was cleared, wherever its column and its row were counted from.
-/

namespace Chip8

namespace Index

variable {length : Nat} {position : Int}

theorem resolve_emod (low : -length ≤ position) (high : position < length)
    (narrow : (length : Int) < wordLimit) :
    resolve length position = resolve length (position % length) := by
  by_cases negative : position < 0
  · have found : resolve length position = .ok ⟨(position + length).toNat, by omega⟩ := by
      rw [wordLimit] at narrow
      rw [resolve, if_neg (by omega)]
      simp only [if_pos negative]
      exact dif_pos ⟨by omega, by omega⟩
    have front : position % length = position + length := by
      rw [← Int.add_emod_right, Int.emod_eq_of_lt (by omega) (by omega)]
    rw [found, front, resolve_eq length (by omega) (by omega) (by omega)]
  · rw [Int.emod_eq_of_lt (by omega) high]

theorem resolve_of_beyond (beyond : ¬(-length ≤ position ∧ position < length)) :
    ∃ refusal, resolve length position = .error refusal := by
  rw [resolve]
  split
  next => exact ⟨_, rfl⟩
  next => exact ⟨_, dif_neg (by split <;> omega)⟩

end Index

namespace Display

def Named (width height x y : Int) : Prop :=
  (-width ≤ x ∧ x < width) ∧ -height ≤ y ∧ y < height

instance (width height x y : Int) : Decidable (Named width height x y) :=
  inferInstanceAs (Decidable ((_ ∧ _) ∧ _ ∧ _))

def Counted (width height : Int) : Prop :=
  0 < height → width < Index.wordLimit ∧ height < Index.wordLimit

theorem blank?_eq_none {width height : Int} :
    blank? width height = none ↔ 0 < height ∧
      (0x8000000000000000 ≤ height ∨ width < -0x8000000000000000 ∨
        0x8000000000000000 ≤ width) := by
  rw [blank?]
  split <;> simp_all

theorem counted_of_blank {width height : Int} {screen : Display}
    (made : blank? width height = some screen) :
    screen = blank width height ∧ Counted width height := by
  rw [blank?] at made
  split at made
  next => cases made
  next countable =>
      cases made
      refine ⟨rfl, fun present => ?_⟩
      rw [Index.wordLimit]
      omega

section Step

variable {display : Display} {x y : Int}

theorem shows_of_named (counted : Counted display.width display.height)
    (named : Named display.width display.height x y) :
    display.Shows (x % display.width, y % display.height) := by
  obtain ⟨⟨left, right⟩, top, bottom⟩ := named
  have columns : 0 < display.width := by omega
  have rows : 0 < display.height := by omega
  obtain ⟨narrow, low⟩ := counted rows
  have within := Int.emod_lt_of_pos x columns
  have above := Int.emod_lt_of_pos y rows
  exact ⟨Int.emod_nonneg x (by omega), within, by omega, Int.emod_nonneg y (by omega), above,
    by omega⟩

theorem locate_of_named (counted : Counted display.width display.height)
    (named : Named display.width display.height x y) :
    display.locate x y = display.locate (x % display.width) (y % display.height) := by
  obtain ⟨⟨left, right⟩, top, bottom⟩ := named
  have width : (display.width.toNat : Int) = display.width := Int.toNat_of_nonneg (by omega)
  have height : (display.height.toNat : Int) = display.height := Int.toNat_of_nonneg (by omega)
  obtain ⟨narrow, low⟩ := counted (by omega)
  have column : Index.resolve display.width.toNat x =
      Index.resolve display.width.toNat (x % display.width) := by
    rw [Index.resolve_emod (by omega) (by omega) (by omega), width]
  have row : Index.resolve display.height.toNat y =
      Index.resolve display.height.toNat (y % display.height) := by
    rw [Index.resolve_emod (by omega) (by omega) (by omega), height]
  rw [locate, row, column, locate]

theorem locate_of_not_named (unnamed : ¬Named display.width display.height x y) :
    ∃ refusal, display.locate x y = .error (.offScreen refusal) := by
  rw [locate]
  cases atRow : Index.resolve display.height.toNat y with
  | error refusal => exact ⟨refusal, rfl⟩
  | ok row =>
      have named : -display.height ≤ y ∧ y < display.height := by
        apply Decidable.byContradiction
        intro beyond
        obtain ⟨refusal, refused⟩ : ∃ refusal, Index.resolve display.height.toNat y =
            .error refusal := Index.resolve_of_beyond (by omega)
        cases atRow.symm.trans refused
      have beyond : ¬(-display.width ≤ x ∧ x < display.width) := fun within =>
        unnamed ⟨within, named⟩
      obtain ⟨refusal, refused⟩ : ∃ refusal, Index.resolve display.width.toNat x =
          .error refusal := Index.resolve_of_beyond (by omega)
      exact ⟨refusal, by rw [refused]⟩

theorem get_of_named (counted : Counted display.width display.height)
    (named : Named display.width display.height x y) :
    display.get x y = .ok (display.lit (x % display.width, y % display.height)) := by
  rw [get, locate_of_named counted named]
  exact get_of_shows (shows_of_named counted named)

theorem get_of_not_named (unnamed : ¬Named display.width display.height x y) :
    ∃ refusal, display.get x y = .error (.offScreen refusal) ∧
      ∀ value, set x y value display = .error (.offScreen refusal) display := by
  obtain ⟨refusal, located⟩ := locate_of_not_named unnamed
  exact ⟨refusal, by rw [get, located], fun value => by rw [set, located]⟩

theorem rows_of_shows {cell : Int × Int} (shown : display.Shows cell) :
    ∃ row, display.rows[cell.2.toNat]? = some row ∧
      row[cell.1.toNat]? = some (display.lit cell) := by
  obtain ⟨inRow, inColumn⟩ : cell.2.toNat < display.height.toNat ∧
      cell.1.toNat < display.width.toNat := by
    have := shown.inside
    rw [Inside] at this
    omega
  have cells : display.lit cell = (display.cells[cell.2.toNat])[cell.1.toNat] :=
    dif_pos shown.inside
  refine ⟨(display.cells[cell.2.toNat]).toList, ?_, ?_⟩
  · simp [rows, inRow]
  · simp [cells, inColumn]

theorem set_of_named (counted : Counted display.width display.height)
    (named : Named display.width display.height x y) (value : Int) :
    ∃ next, set x y value display =
        .ok (display.lit (x % display.width, y % display.height) && decide (value % 2 = 1)) next ∧
      next.size = display.size ∧
      ∀ cell, next.lit cell = (display.lit cell ^^
        (decide (cell = (x % display.width, y % display.height)) && decide (value % 2 = 1))) := by
  obtain ⟨left, right, narrow, top, bottom, low⟩ := shows_of_named counted named
  obtain ⟨erased, next, went⟩ := display.set_of_inside value left right top bottom narrow low
  obtain ⟨-, told, flipped⟩ := set_flips left top went
  have same : set x y value display =
      set (x % display.width) (y % display.height) value display := by
    rw [set, locate_of_named counted named, set]
  have size := set_preserves_size (x % display.width) (y % display.height) value display
  rw [Action.after_of_ok went] at size
  exact ⟨next, by rw [same, went, told], size, flipped⟩

theorem lit_blank (width height : Int) (cell : Int × Int) :
    (blank width height).lit cell = false := by
  rw [lit]
  split
  next => simp [blank, Vector.get]
  next => rfl

end Step

inductive Call where
  | set (x y value : Int)
  | clear
  deriving DecidableEq, Repr

namespace Call

def after (display : Display) : Call → Display
  | set x y value => (Display.set x y value).after display
  | clear => display.clear

def flips (width height : Int) (cell : Int × Int) : Call → Bool
  | set x y value =>
    decide (Named width height x y ∧ (x % width, y % height) = cell ∧ value % 2 = 1)
  | clear => false

end Call

def afterCalls (display : Display) (calls : List Call) : Display := calls.foldl Call.after display

/-- The calls behind the last one that clears the screen, the latest first. -/
def sinceClear (calls : List Call) : List Call := calls.reverse.takeWhile (· ≠ .clear)

def flipCount (width height : Int) (calls : List Call) (cell : Int × Int) : Nat :=
  (sinceClear calls).countP (Call.flips width height cell)

section Run

variable {width height : Int} {display : Display}

theorem flipCount_set (calls : List Call) (x y value : Int) (cell : Int × Int) :
    flipCount width height (calls ++ [.set x y value]) cell =
      flipCount width height calls cell +
        if (Call.set x y value).flips width height cell then 1 else 0 := by
  rw [flipCount, sinceClear, List.reverse_append, List.reverse_singleton, List.singleton_append,
    List.takeWhile_cons_of_pos (by simp), List.countP_cons]
  rfl

theorem flipCount_clear (calls : List Call) (cell : Int × Int) :
    flipCount width height (calls ++ [.clear]) cell = 0 := by
  rw [flipCount, sinceClear, List.reverse_append, List.reverse_singleton, List.singleton_append,
    List.takeWhile_cons_of_neg (by simp), List.countP_nil]

/-- What a run has made of a screen of this size: the cells that have been flipped an odd number of
times are lit. -/
structure Tracks (width height : Int) (calls : List Call) (display : Display) : Prop where
  size : display.size = (width, height)
  cells : ∀ cell, display.lit cell = (flipCount width height calls cell).bodd

theorem tracks_blank (width height : Int) : Tracks width height [] (blank width height) where
  size := rfl
  cells cell := (lit_blank width height cell).trans Nat.bodd_zero.symm

theorem Tracks.set (counted : Counted width height) {calls : List Call}
    (tracks : Tracks width height calls display) (x y value : Int) :
    Tracks width height (calls ++ [.set x y value]) ((Call.set x y value).after display) := by
  obtain ⟨rfl, rfl⟩ := Prod.mk.inj tracks.size
  by_cases named : Named display.width display.height x y
  · obtain ⟨next, went, size, flipped⟩ := set_of_named counted named value
    rw [Call.after, Action.after_of_ok went]
    refine ⟨size, fun cell => ?_⟩
    rw [flipped, tracks.cells, flipCount_set, Nat.bodd_add]
    congr 1
    by_cases here : cell = (x % display.width, y % display.height)
    · by_cases odd : value % 2 = 1 <;> simp [Call.flips, named, here, odd]
    · simp [Call.flips, here, Ne.symm here]
  · obtain ⟨refusal, -, refused⟩ := get_of_not_named named
    rw [Call.after, Action.after_of_error (refused value)]
    refine ⟨rfl, fun cell => ?_⟩
    rw [tracks.cells, flipCount_set]
    simp [Call.flips, named]

theorem Tracks.clear {calls : List Call} (tracks : Tracks width height calls display) :
    Tracks width height (calls ++ [.clear]) (Call.clear.after display) where
  size := tracks.size
  cells cell := by
    rw [flipCount_clear, Nat.bodd_zero]
    exact lit_blank display.width display.height cell

/-- The induction goes along the calls as they are made, so that the last one is the newest. -/
theorem tracks_afterCalls (counted : Counted width height) (calls : List Call) :
    Tracks width height calls ((blank width height).afterCalls calls) := by
  induction calls using List.reverseRecOn with
  | nil => exact tracks_blank width height
  | append_singleton calls call ih =>
      rw [afterCalls, List.foldl_append]
      cases call with
      | set x y value => exact ih.set counted x y value
      | clear => exact ih.clear

end Run

/-- A screen is made of any size that machine words can count. Whatever calls follow, some of which
may be refused, it keeps its cells, and each is lit if an odd number of calls have flipped it since
the last one that cleared the screen. The next set tells of a lit cell that goes dark. Beside the
screen there is nothing to get or to set. -/
theorem cells_are_parities (width height : Int) :
    (blank? width height = none ↔ 0 < height ∧
      (0x8000000000000000 ≤ height ∨ width < -0x8000000000000000 ∨ 0x8000000000000000 ≤ width)) ∧
    ∀ screen, blank? width height = some screen → ∀ calls : List Call,
      ((screen.afterCalls calls).rows.length = max 0 height ∧
        ∀ row ∈ (screen.afterCalls calls).rows, row.length = max 0 width) ∧
      (∀ x y, -width ≤ x → x < width → -height ≤ y → y < height →
        (screen.afterCalls calls).get x y =
          .ok (flipCount width height calls (x % width, y % height)).bodd ∧
        (∃ row, (screen.afterCalls calls).rows[(y % height).toNat]? = some row ∧
          row[(x % width).toNat]? =
            some (flipCount width height calls (x % width, y % height)).bodd) ∧
        ∀ value, ∃ next, set x y value (screen.afterCalls calls) =
          .ok ((flipCount width height calls (x % width, y % height)).bodd &&
            decide (value % 2 = 1)) next) ∧
      ∀ x y, ¬((-width ≤ x ∧ x < width) ∧ -height ≤ y ∧ y < height) →
        ∃ refusal, (screen.afterCalls calls).get x y = .error (.offScreen refusal) ∧
          ∀ value, set x y value (screen.afterCalls calls) =
            .error (.offScreen refusal) (screen.afterCalls calls) := by
  refine ⟨blank?_eq_none, fun screen made calls => ?_⟩
  obtain ⟨rfl, counted⟩ := counted_of_blank made
  have tracks := tracks_afterCalls counted calls
  generalize (blank width height).afterCalls calls = after at tracks
  obtain ⟨rfl, rfl⟩ := Prod.mk.inj tracks.size
  refine ⟨⟨?rows, ?columns⟩, ?named, fun x y => get_of_not_named⟩
  case rows =>
    rw [length_rows]
    omega
  case columns =>
    intro row listed
    rw [length_row listed]
    omega
  case named =>
    intro x y left right top bottom
    have named : Named after.width after.height x y := ⟨⟨left, right⟩, top, bottom⟩
    rw [← tracks.cells]
    refine ⟨get_of_named counted named, rows_of_shows (shows_of_named counted named),
      fun value => ?_⟩
    obtain ⟨next, went, -⟩ := set_of_named counted named value
    exact ⟨next, went⟩

def fewCalls : List Call :=
  [.set 0 0 1, .clear, .set (-1) 1 3, .set 2 (-1) (-1), .set 1 0 2, .set 3 0 1, .set 2 1 1]

theorem cells_are_parities_small :
    ∃ screen, blank? 3 2 = some screen ∧
      (screen.afterCalls fewCalls).get (-1) (-1) = .ok true ∧
      (screen.afterCalls fewCalls).get 0 0 = .ok false ∧
      (∃ next, set (-1) (-1) 5 (screen.afterCalls fewCalls) = .ok true next) ∧
      ∃ refusal, (screen.afterCalls fewCalls).get 3 0 = .error (.offScreen refusal) := by
  obtain ⟨-, afterAll⟩ := cells_are_parities 3 2
  have made : blank? 3 2 = some (blank 3 2) := if_neg (by decide)
  obtain ⟨-, named, beyond⟩ := afterAll (blank 3 2) made fewCalls
  have corner : (flipCount 3 2 fewCalls (-1 % 3, -1 % 2)).bodd = true := by decide
  have first : (flipCount 3 2 fewCalls (0 % 3, 0 % 2)).bodd = false := by decide
  obtain ⟨lit, -, sets⟩ := named (-1) (-1) (by decide) (by decide) (by decide) (by decide)
  obtain ⟨dark, -⟩ := named 0 0 (by decide) (by decide) (by decide) (by decide)
  obtain ⟨next, went⟩ := sets 5
  obtain ⟨refusal, refused, -⟩ := beyond 3 0 (by decide)
  rw [corner] at lit went
  rw [first] at dark
  exact ⟨blank 3 2, made, lit, dark, ⟨next, went⟩, refusal, refused⟩

end Display

end Chip8
