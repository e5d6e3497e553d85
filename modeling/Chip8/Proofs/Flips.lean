import Chip8.Proofs.Drawing
import Chip8.Proofs.Range
import Mathlib.Data.List.Nodup
import Mathlib.Data.Nat.Bits
/-!
What drawing does to the cells of a screen with cells in both directions: it flips those on a list,
one after the other, so that a cell on the list twice is as it was. The list holds a cell for each
lit pixel, wrapped around both edges.
-/

namespace Chip8

namespace Display

/-- A cell of the screen, which machine words can name. -/
structure Shows (display : Display) (cell : Int × Int) : Prop where
  left : 0 ≤ cell.1
  right : cell.1 < display.width
  narrow : cell.1 < Index.wordLimit
  top : 0 ≤ cell.2
  bottom : cell.2 < display.height
  low : cell.2 < Index.wordLimit

/-- A cell of the screen, whether or not machine words can name it. -/
def Inside (display : Display) (cell : Int × Int) : Prop :=
  (0 ≤ cell.1 ∧ cell.1 < display.width) ∧ 0 ≤ cell.2 ∧ cell.2 < display.height

instance (display : Display) (cell : Int × Int) : Decidable (display.Inside cell) :=
  inferInstanceAs (Decidable ((_ ∧ _) ∧ _ ∧ _))

def lit (display : Display) (cell : Int × Int) : Bool :=
  if inside : display.Inside cell then
    (display.cells.get ⟨cell.2.toNat, by have := inside.2; omega⟩).get
      ⟨cell.1.toNat, by have := inside.1; omega⟩
  else false

variable {before after display : Display} {cell : Int × Int}

theorem shows_of_size (same : after.size = before.size) : after.Shows cell ↔ before.Shows cell := by
  obtain ⟨width, height⟩ := Prod.mk.inj same
  constructor
  · intro shown
    exact { shown with right := width ▸ shown.right, bottom := height ▸ shown.bottom }
  · intro shown
    exact { shown with right := width ▸ shown.right, bottom := height ▸ shown.bottom }

theorem shows_iff_of_standard (screen : display.size = (64, 32)) (cell : Int × Int) :
    display.Shows cell ↔ 0 ≤ cell.1 ∧ cell.1 < 64 ∧ 0 ≤ cell.2 ∧ cell.2 < 32 := by
  obtain ⟨width, height⟩ := Prod.mk.inj screen
  constructor
  · intro shown
    exact ⟨shown.left, width ▸ shown.right, shown.top, height ▸ shown.bottom⟩
  · rintro ⟨left, right, top, bottom⟩
    refine ⟨left, width ▸ right, ?_, top, height ▸ bottom, ?_⟩ <;> rw [Index.wordLimit] <;> omega

theorem locate_of_shows (shown : display.Shows cell) :
    ∃ place, display.locate cell.1 cell.2 = .ok place ∧
      place.1.val = cell.2.toNat ∧ place.2.val = cell.1.toNat := by
  obtain ⟨left, right, narrow, top, bottom, low⟩ := shown
  have row := Index.resolve_eq display.height.toNat top (by omega) low
  have column := Index.resolve_eq display.width.toNat left (by omega) narrow
  have located : display.locate cell.1 cell.2 =
      .ok (⟨cell.2.toNat, by omega⟩, ⟨cell.1.toNat, by omega⟩) := by
    rw [locate, row, column]
  exact ⟨_, located, rfl, rfl⟩

theorem shows_of_locate (cell : Int × Int)
    {place : Fin display.height.toNat × Fin display.width.toNat}
    (located : display.locate cell.1 cell.2 = .ok place) (left : 0 ≤ cell.1) (top : 0 ≤ cell.2) :
    display.Shows cell ∧ place.1.val = cell.2.toNat ∧ place.2.val = cell.1.toNat := by
  rw [locate] at located
  split at located
  next => cases located
  next row atRow =>
      split at located
      next => cases located
      next column atColumn =>
          cases located
          obtain ⟨bottom, low, sameRow⟩ := Index.resolve_eq_ok atRow top
          obtain ⟨right, narrow, sameColumn⟩ := Index.resolve_eq_ok atColumn left
          exact ⟨⟨left, by omega, narrow, top, by omega, low⟩, sameRow, sameColumn⟩

theorem Shows.inside (shown : display.Shows cell) : display.Inside cell :=
  ⟨⟨shown.left, shown.right⟩, shown.top, shown.bottom⟩

theorem lit_of_inside (cells : Vector (Vector Bool display.width.toNat) display.height.toNat)
    {row : Fin display.height.toNat} {column : Fin display.width.toNat}
    (inside : display.Inside cell) (atRow : row.val = cell.2.toNat)
    (atColumn : column.val = cell.1.toNat) :
    lit { display with cells := cells } cell = (cells.get row).get column := by
  have sameRow : ⟨cell.2.toNat, by have := inside.2; omega⟩ = row := Fin.ext atRow.symm
  have sameColumn : ⟨cell.1.toNat, by have := inside.1; omega⟩ = column := Fin.ext atColumn.symm
  rw [← sameRow, ← sameColumn]
  exact dif_pos inside

theorem lit_of_outside (outside : ¬display.Inside cell) : display.lit cell = false :=
  dif_neg outside

theorem get_of_shows (shown : display.Shows cell) :
    display.get cell.1 cell.2 = .ok (display.lit cell) := by
  obtain ⟨place, located, atRow, atColumn⟩ := locate_of_shows shown
  rw [get, located]
  exact congrArg _ (lit_of_inside display.cells shown.inside atRow atColumn).symm

theorem set_flips {x y value : Int} {erased : Bool} (left : 0 ≤ x) (top : 0 ≤ y)
    (went : set x y value before = .ok erased after) :
    before.Shows (x, y) ∧ erased = (before.lit (x, y) && decide (value % 2 = 1)) ∧
      ∀ cell, after.lit cell =
        (before.lit cell ^^ (decide (cell = (x, y)) && decide (value % 2 = 1))) := by
  rw [set] at went
  split at went
  next => cases went
  next row column located =>
      obtain ⟨shown, atRow, atColumn⟩ := shows_of_locate (x, y) located left top
      have here : before.lit (x, y) = (before.cells.get row).get column :=
        lit_of_inside before.cells shown.inside atRow atColumn
      cases went
      refine ⟨shown, ?_, fun cell => ?_⟩
      · rw [here]
        cases (before.cells.get row).get column <;> cases decide (value % 2 = 1) <;> rfl
      · by_cases inside : before.Inside cell
        · obtain ⟨otherRow, sameRow⟩ : ∃ row : Fin before.height.toNat, row.val = cell.2.toNat :=
            ⟨⟨cell.2.toNat, by have := inside.2; omega⟩, rfl⟩
          obtain ⟨otherColumn, sameColumn⟩ : ∃ column : Fin before.width.toNat,
              column.val = cell.1.toNat := ⟨⟨cell.1.toNat, by have := inside.1; omega⟩, rfl⟩
          have old : before.lit cell = (before.cells.get otherRow).get otherColumn :=
            lit_of_inside before.cells inside sameRow sameColumn
          rw [lit_of_inside _ inside sameRow sameColumn, old]
          -- The cell is the one that was set just if it lies in the same row and column.
          have hit : cell = (x, y) ↔ row = otherRow ∧ column = otherColumn := by
            have low := inside.1.1
            have high := inside.2.1
            simp only at atRow atColumn
            simp only [Fin.ext_iff, Prod.ext_iff]
            omega
          by_cases atRowToo : row = otherRow
          · by_cases atColumnToo : column = otherColumn
            · simp [Index.get_update, hit, atRowToo, atColumnToo]
            · simp [Index.get_update, hit, atRowToo, atColumnToo]
          · simp [Index.get_update, hit, atRowToo]
        · have elsewhere : cell ≠ (x, y) := by
            rintro rfl
            exact inside shown.inside
          rw [lit_of_outside inside, decide_eq_false elsewhere]
          exact lit_of_outside inside

/-- The cells on the list are flipped, one after the other. If none is on it twice, the answer says
whether one of them was lit. -/
structure Flips (dots : List (Int × Int)) (before : Display) (erased : Bool) (after : Display) :
    Prop where
  size : after.size = before.size
  shown : ∀ dot ∈ dots, before.Shows dot
  cells : ∀ cell, after.lit cell = (before.lit cell ^^ (dots.count cell).bodd)
  collides : dots.Nodup → erased = dots.any before.lit

theorem flips_nil (display : Display) : Flips [] display false display where
  size := rfl
  shown := by simp
  cells := by simp
  collides := by simp

theorem Flips.append {first second : List (Int × Int)} {middle : Display} {one other : Bool}
    (head : Flips first before one middle) (tail : Flips second middle other after) :
    Flips (first ++ second) before (one || other) after where
  size := tail.size.trans head.size
  shown := by
    intro dot member
    rcases List.mem_append.mp member with early | late
    · exact head.shown dot early
    · exact (shows_of_size head.size).mp (tail.shown dot late)
  cells := by
    intro cell
    rw [tail.cells cell, head.cells cell, List.count_append, Nat.bodd_add, Bool.xor_assoc]
  collides := by
    intro distinct
    obtain ⟨firstDistinct, secondDistinct, apart⟩ := List.nodup_append.mp distinct
    -- What the first list flips is not on the second, which therefore meets the cells as they were.
    have untouched : ∀ dot ∈ second, middle.lit dot = before.lit dot := by
      intro dot member
      have absent : dot ∉ first := by
        intro early
        exact apart dot early dot member rfl
      rw [head.cells dot, List.count_eq_zero_of_not_mem absent, Nat.bodd_zero, Bool.xor_false]
    have same : second.any middle.lit = second.any before.lit := by
      rw [Bool.eq_iff_iff, List.any_eq_true, List.any_eq_true]
      constructor
      · rintro ⟨dot, member, lit⟩
        exact ⟨dot, member, untouched dot member ▸ lit⟩
      · rintro ⟨dot, member, lit⟩
        exact ⟨dot, member, (untouched dot member).symm ▸ lit⟩
    rw [List.any_append, head.collides firstDistinct, tail.collides secondDistinct, same]

theorem Flips.lit_of_nodup {dots : List (Int × Int)} {erased : Bool}
    (flips : Flips dots before erased after) (distinct : dots.Nodup) (cell : Int × Int) :
    after.lit cell = (before.lit cell ^^ decide (cell ∈ dots)) := by
  rw [flips.cells cell]
  by_cases member : cell ∈ dots
  · rw [List.count_eq_one_of_mem distinct member, decide_eq_true member, Nat.bodd_one]
  · rw [List.count_eq_zero_of_not_mem member, decide_eq_false member, Nat.bodd_zero]

/-- A cell is combined with what the list says about it by exclusive or. -/
theorem Flips.get_of_nodup {dots : List (Int × Int)} {erased : Bool}
    (flips : Flips dots before erased after) (distinct : dots.Nodup) (shown : before.Shows cell) :
    ∃ old, before.get cell.1 cell.2 = .ok old ∧
      after.get cell.1 cell.2 = .ok (old ^^ decide (cell ∈ dots)) := by
  refine ⟨before.lit cell, get_of_shows shown, ?_⟩
  rw [← flips.lit_of_nodup distinct cell]
  exact get_of_shows ((shows_of_size flips.size).mpr shown)

theorem Flips.erased_iff {dots : List (Int × Int)} {erased : Bool}
    (flips : Flips dots before erased after) (distinct : dots.Nodup) :
    erased = true ↔ ∃ cell ∈ dots, before.get cell.1 cell.2 = .ok true := by
  rw [flips.collides distinct, List.any_eq_true]
  constructor
  · rintro ⟨cell, member, lit⟩
    refine ⟨cell, member, ?_⟩
    rw [before.get_of_shows (flips.shown cell member), lit]
  · rintro ⟨cell, member, found⟩
    refine ⟨cell, member, ?_⟩
    rw [before.get_of_shows (flips.shown cell member)] at found
    exact Except.ok.inj found

end Display

namespace Drawing

open Display (Flips)

theorem pixel_flips {before after : Display} {x y : Int} {erased lit : Bool}
    (cells : HasCells before)
    (went : pixel x y lit before = .ok erased after) :
    Flips (if lit then [(x % before.width, y % before.height)] else []) before erased after := by
  have size := pixel_preserves_size x y lit before
  rw [Action.after_of_ok went] at size
  rw [pixel_apply cells.1 cells.2] at went
  have left : 0 ≤ x % before.width := Int.emod_nonneg x (by have := cells.1; omega)
  have top : 0 ≤ y % before.height := Int.emod_nonneg y (by have := cells.2; omega)
  obtain ⟨shown, answer, flipped⟩ := Display.set_flips left top went
  cases lit with
  | false =>
      refine ⟨size, by simp, ?_, ?_⟩
      · intro cell
        rw [flipped cell]
        simp
      · intro _
        rw [answer]
        simp
  | true =>
      refine ⟨size, ?_, ?_, ?_⟩
      · intro dot member
        rw [List.mem_singleton.mp member]
        exact shown
      · intro cell
        rw [flipped cell]
        by_cases here : cell = (x % before.width, y % before.height)
        · simp [here]
        · simp [here, Ne.symm here]
      · intro _
        rw [answer]
        simp

def rowDots (size : Int × Int) (x y : Int) (lights : List Bool) : List (Int × Int) :=
  ((List.range lights.length).filter fun place => lights.getD place false).map
    fun place : Nat => ((x + place) % size.1, y % size.2)

theorem rowDots_cons (size : Int × Int) (x y : Int) (lit : Bool) (rest : List Bool) :
    rowDots size x y (lit :: rest) =
      (if lit then [(x % size.1, y % size.2)] else []) ++ rowDots size (x + 1) y rest := by
  have shift : (fun place : Nat => ((x + (place + 1 : Nat)) % size.1, y % size.2)) =
      fun place : Nat => ((x + 1 + place) % size.1, y % size.2) := by
    funext place
    have same : x + (place + 1 : Nat) = x + 1 + place := by omega
    rw [same]
  have others : ((List.range rest.length).map Nat.succ).filter
      (fun place => (lit :: rest).getD place false) =
      ((List.range rest.length).filter fun place => rest.getD place false).map Nat.succ := by
    rw [List.filter_map]
    rfl
  have shifted : (((List.range rest.length).filter fun place => rest.getD place false).map
      Nat.succ).map (fun place : Nat => ((x + place) % size.1, y % size.2)) =
      rowDots size (x + 1) y rest := by
    rw [List.map_map, rowDots, ← shift]
    rfl
  rw [rowDots, List.length_cons, List.range_succ_eq_map, List.filter_cons, others]
  cases lit with
  | false => exact shifted
  | true =>
      have here : x + (0 : Nat) = x := by omega
      rw [List.getD_cons_zero, if_pos rfl, if_pos rfl, List.map_cons, shifted, here]
      rfl

theorem row_flips {before after : Display} {x y : Int} {erased : Bool} (cells : HasCells before)
    {lights : List Bool} (went : row x y lights before = .ok erased after) :
    Flips (rowDots before.size x y lights) before erased after := by
  induction lights generalizing x before erased with
  | nil =>
      cases went
      exact Display.flips_nil _
  | cons lit rest ih =>
      obtain ⟨one, middle, first, others⟩ := Action.bind_eq_ok.mp went
      obtain ⟨other, done, later, answer⟩ := Action.bind_eq_ok.mp others
      cases answer
      have head := pixel_flips cells first
      have tail := ih (hasCells_of_size head.size cells) later
      rw [head.size] at tail
      rw [rowDots_cons]
      exact head.append tail

/-- The byte behind the sprite's row `line`, which is dark where there is no such byte. -/
def rowByte (memory : Memory) (address : Int) (line : Nat) : UInt8 :=
  match memory.read (address + line) with
  | .ok byte => byte
  | .error _ => 0

theorem rowByte_of_read {memory : Memory} {address : Int} {line : Nat} {byte : UInt8}
    (present : memory.read (address + line) = .ok byte) : rowByte memory address line = byte := by
  rw [rowByte, present]

def spriteDots (size : Int × Int) (memory : Memory) (x y address : Int) (height : Nat) :
    List (Int × Int) :=
  (List.range height).flatMap fun line : Nat =>
    rowDots size x ((y + line) % 256) (bits (rowByte memory address line))

theorem spriteDots_succ (size : Int × Int) (memory : Memory) (x : Int) {y : Int} (byte : IsByte y)
    (address : Int) (height : Nat) :
    spriteDots size memory x y address (height + 1) =
      rowDots size x y (bits (rowByte memory address 0)) ++
        spriteDots size memory x ((y + 1) % 256) (address + 1) height := by
  have first : (y + (0 : Nat)) % 256 = y := by
    rw [Int.natCast_zero, Int.add_zero]
    exact Int.emod_eq_of_lt byte.1 byte.2
  have lines : ∀ line : Nat, (y + (line + 1 : Nat)) % 256 = ((y + 1) % 256 + line) % 256 := by
    intro line
    omega
  have bytes : ∀ line : Nat, rowByte memory address (line + 1) =
      rowByte memory (address + 1) line := by
    intro line
    have same : address + (line + 1 : Nat) = address + 1 + line := by omega
    rw [rowByte, same, rowByte]
  rw [spriteDots, List.range_succ_eq_map, List.flatMap_cons, first, List.flatMap_map, spriteDots]
  simp only [Nat.succ_eq_add_one, lines, bytes]

/-- A sprite flips the cells of its lit pixels, wrapped around both edges of the screen. -/
theorem sprite_flips {before after : Display} {memory : Memory} {x y address : Int} {height : Nat}
    {erased : Bool} (cells : HasCells before) (byte : IsByte y)
    (went : sprite memory x height address y before = .ok erased after) :
    Flips (spriteDots before.size memory x y address height) before erased after := by
  induction height generalizing address y before erased with
  | zero =>
      cases went
      exact Display.flips_nil _
  | succ height ih =>
      obtain ⟨light, start, found, rows⟩ := Action.bind_eq_ok.mp went
      obtain ⟨one, middle, first, others⟩ := Action.bind_eq_ok.mp rows
      obtain ⟨other, done, later, answer⟩ := Action.bind_eq_ok.mp others
      obtain ⟨present, rfl⟩ := Action.attempt_eq_ok.mp found
      cases answer
      have head := row_flips cells first
      have tail := ih (hasCells_of_size head.size cells) (isByte_emod (y + 1)) later
      have here : address + (0 : Nat) = address := by omega
      rw [← here] at present
      rw [head.size] at tail
      rw [spriteDots_succ _ _ _ byte, rowByte_of_read present]
      exact head.append tail

end Drawing

end Chip8
