import Chip8.Drawing
import Chip8.Proofs.Memory
/-!
Drawing on a screen that has cells. Only the bytes of the sprite can be missing: a sprite that
reaches beyond the memory is drawn as far as there are bytes, as if it were cut off there.
-/

namespace Chip8

def Index.wordLimit : Int := 0x8000000000000000

theorem Index.resolve_of_inside (length : Nat) {position : Int} (low : 0 ≤ position)
    (high : position < length) (narrow : position < wordLimit) :
    ∃ place, resolve length position = .ok place := by
  rw [wordLimit] at narrow
  have fits : ¬(position < -0x8000000000000000 ∨ 0x8000000000000000 ≤ position) := by omega
  have forward : ¬position < 0 := by omega
  rw [resolve, if_neg fits]
  simp only [if_neg forward]
  exact ⟨_, dif_pos ⟨low, high⟩⟩

theorem Index.resolve_eq_ok {length : Nat} {position : Int} {place : Fin length}
    (found : resolve length position = .ok place) (low : 0 ≤ position) :
    position < length ∧ position < wordLimit ∧ place.val = position.toNat := by
  have forward : ¬position < 0 := Int.not_lt.mpr low
  rw [resolve] at found
  split at found
  next => cases found
  next fits =>
      simp only [if_neg forward] at found
      split at found
      next inside =>
          cases found
          rw [wordLimit]
          exact ⟨inside.2, by omega, rfl⟩
      next => cases found

theorem Index.resolve_eq (length : Nat) {position : Int} (low : 0 ≤ position)
    (high : position < length) (narrow : position < wordLimit) :
    resolve length position = .ok ⟨position.toNat, by omega⟩ := by
  obtain ⟨place, found⟩ := resolve_of_inside length low high narrow
  rw [found]
  exact congrArg _ (Fin.ext (resolve_eq_ok found low).2.2)

namespace Display

def size (display : Display) : Int × Int := (display.width, display.height)

theorem set_preserves_size (x y value : Int) : (set x y value).Preserves size := by
  intro display
  simp only [Action.after, set]
  cases display.locate x y <;> rfl

theorem set_of_inside (display : Display) {x y : Int} (value : Int)
    (left : 0 ≤ x) (right : x < display.width) (top : 0 ≤ y) (bottom : y < display.height)
    (narrow : x < Index.wordLimit) (low : y < Index.wordLimit) :
    ∃ erased drawn, set x y value display = .ok erased drawn := by
  obtain ⟨row, atRow⟩ := Index.resolve_of_inside display.height.toNat top (by omega) low
  obtain ⟨column, atColumn⟩ :=
    Index.resolve_of_inside display.width.toNat left (by omega) narrow
  have located : display.locate x y = .ok (row, column) := by
    rw [locate, atRow, atColumn]
  exact ⟨_, _, by rw [set, located]⟩

end Display

namespace Drawing

theorem wrap_of_pos {position extent : Int} (positive : 0 < extent) :
    wrap position extent = .ok (position % extent) := by
  rw [wrap, if_neg (by omega), Int.fmod_eq_emod_of_nonneg position (by omega)]

theorem emod_narrow {position extent : Int} (positive : 0 < extent) (low : 0 ≤ position)
    (narrow : position < Index.wordLimit) : position % extent < Index.wordLimit := by
  by_cases wide : extent ≤ position
  · have below := Int.emod_lt_of_pos position positive
    omega
  · rw [Int.emod_eq_of_lt low (by omega)]
    exact narrow

theorem pixel_apply {display : Display} (width : 0 < display.width) (height : 0 < display.height)
    (x y : Int) (lit : Bool) :
    pixel x y lit display =
      Display.set (x % display.width) (y % display.height) (if lit then 1 else 0) display := by
  rw [pixel, Action.bind_of_ok (Action.get_apply display), wrap_of_pos width, wrap_of_pos height]
  rfl

theorem pixel_preserves_size (x y : Int) (lit : Bool) : (pixel x y lit).Preserves Display.size :=
  Action.preserves_get_bind fun _ =>
    (Action.preserves_attempt _ _).bind fun column =>
      (Action.preserves_attempt _ _).bind fun line => Display.set_preserves_size column line _

theorem row_preserves_size (x y : Int) (lights : List Bool) :
    (row x y lights).Preserves Display.size := by
  induction lights generalizing x with
  | nil => exact Action.preserves_pure _ _
  | cons lit rest ih =>
      exact (pixel_preserves_size x y lit).bind fun _ =>
        (ih (x + 1)).bind fun _ => Action.preserves_pure _ _

theorem sprite_preserves_size (memory : Memory) (x : Int) (height : Nat) (address y : Int) :
    (sprite memory x height address y).Preserves Display.size := by
  induction height generalizing address y with
  | zero => exact Action.preserves_pure _ _
  | succ height ih =>
      exact (Action.preserves_attempt _ _).bind fun byte =>
        (row_preserves_size x y (bits byte)).bind fun _ =>
          (ih (address + 1) ((y + 1) % 256)).bind fun _ => Action.preserves_pure _ _

def HasCells (display : Display) : Prop := 0 < display.width ∧ 0 < display.height

theorem hasCells_of_size {first second : Display} (same : first.size = second.size)
    (cells : HasCells second) : HasCells first := by
  obtain ⟨width, height⟩ := Prod.mk.inj same
  exact ⟨width ▸ cells.1, height ▸ cells.2⟩

theorem pixel_draws {display : Display} (cells : HasCells display) (x y : Int) (lit : Bool)
    (left : 0 ≤ x) (narrow : x < Index.wordLimit) (top : 0 ≤ y) (low : y < Index.wordLimit) :
    ∃ erased drawn, pixel x y lit display = .ok erased drawn := by
  rw [pixel_apply cells.1 cells.2]
  exact display.set_of_inside _
    (Int.emod_nonneg x (by have := cells.1; omega)) (Int.emod_lt_of_pos x cells.1)
    (Int.emod_nonneg y (by have := cells.2; omega)) (Int.emod_lt_of_pos y cells.2)
    (emod_narrow cells.1 left narrow) (emod_narrow cells.2 top low)

theorem row_draws {display : Display} (cells : HasCells display) (x y : Int) (lights : List Bool)
    (left : 0 ≤ x) (narrow : x + lights.length ≤ Index.wordLimit) (top : 0 ≤ y)
    (low : y < Index.wordLimit) : ∃ erased drawn, row x y lights display = .ok erased drawn := by
  induction lights generalizing x display with
  | nil => exact ⟨false, display, rfl⟩
  | cons lit rest ih =>
      rw [List.length_cons] at narrow
      obtain ⟨erased, next, first⟩ := pixel_draws cells x y lit left (by omega) top low
      have same := pixel_preserves_size x y lit display
      rw [Action.after_of_ok first] at same
      obtain ⟨later, drawn, others⟩ :=
        ih (hasCells_of_size same cells) (x + 1) (by omega) (by omega)
      exact ⟨erased || later, drawn, by
        rw [row, Action.bind_of_ok first, Action.bind_of_ok others]; rfl⟩

theorem sprite_succ {memory : Memory} {x address y : Int} (height : Nat) {byte : UInt8}
    {display next : Display} {erased : Bool} (present : memory.read address = .ok byte)
    (drawn : row x y (bits byte) display = .ok erased next) :
    sprite memory x (height + 1) address y display =
      match sprite memory x height (address + 1) ((y + 1) % 256) next with
      | .ok later done => .ok (erased || later) done
      | .error fault done => .error fault done := by
  rw [sprite, present, Action.bind_of_ok (Action.attempt_ok byte display), Action.bind_of_ok drawn,
    Action.bind_apply]
  cases sprite memory x height (address + 1) ((y + 1) % 256) next <;> rfl

theorem after_sprite_succ {memory : Memory} {x address y : Int} (height : Nat) {byte : UInt8}
    {display next : Display} {erased : Bool} (present : memory.read address = .ok byte)
    (drawn : row x y (bits byte) display = .ok erased next) :
    (sprite memory x (height + 1) address y).after display =
      (sprite memory x height (address + 1) ((y + 1) % 256)).after next := by
  rw [Action.after, sprite_succ height present drawn, Action.after]
  cases sprite memory x height (address + 1) ((y + 1) % 256) next <;> rfl

/-- A position for rows of eight pixels that machine words can hold. -/
structure Placed (x y : Int) : Prop where
  left : 0 ≤ x
  narrow : x + 8 ≤ Index.wordLimit
  top : 0 ≤ y
  low : y < Index.wordLimit

theorem Placed.nextLine {x y : Int} (placed : Placed x y) : Placed x ((y + 1) % 256) := by
  refine ⟨placed.left, placed.narrow, ?_, ?_⟩
  · omega
  · rw [Index.wordLimit]
    omega

theorem first_row (memory : Memory) {x address y : Int} {display : Display}
    (cells : HasCells display) (placed : Placed x y) (start : 0 ≤ address)
    (inside : address < memory.size) :
    ∃ byte erased next, memory.read address = .ok byte ∧
      row x y (bits byte) display = .ok erased next ∧ HasCells next := by
  obtain ⟨byte, present⟩ := memory.read_of_inside address start inside
  obtain ⟨erased, next, drawn⟩ :=
    row_draws cells x y (bits byte) placed.left placed.narrow placed.top placed.low
  have same := row_preserves_size x y (bits byte) display
  rw [Action.after_of_ok drawn] at same
  exact ⟨byte, erased, next, present, drawn, hasCells_of_size same cells⟩

theorem sprite_draws (memory : Memory) {x : Int} (height : Nat) (address y : Int)
    {display : Display} (cells : HasCells display) (placed : Placed x y) (start : 0 ≤ address)
    (fits : address + height ≤ memory.size) :
    ∃ erased drawn, sprite memory x height address y display = .ok erased drawn := by
  induction height generalizing address y display with
  | zero => exact ⟨false, display, rfl⟩
  | succ height ih =>
      obtain ⟨byte, erased, next, present, drawn, more⟩ :=
        first_row memory cells placed start (by omega)
      obtain ⟨later, done, below⟩ := ih (address + 1) ((y + 1) % 256) more placed.nextLine
        (by omega) (by omega)
      exact ⟨erased || later, done, by rw [sprite_succ height present drawn, below]⟩

/-- A sprite that reaches beyond the memory is refused at the first byte that is missing, and leaves
what the sprite cut off there would leave. -/
theorem sprite_overruns (memory : Memory) {x : Int} (height : Nat) (address y : Int)
    {display : Display} (cells : HasCells display) (placed : Placed x y) (start : 0 ≤ address)
    (tall : 0 < height)
    (overruns : memory.size < address + height) :
    sprite memory x height address y display =
      .error (.outsideMemory (max address memory.size) memory.size)
        ((sprite memory x (memory.size - address).toNat address y).after display) := by
  induction height generalizing address y display with
  | zero => exact absurd tall (Nat.lt_irrefl 0)
  | succ height ih =>
      by_cases inside : address < memory.size
      · obtain ⟨byte, erased, next, present, drawn, more⟩ :=
          first_row memory cells placed start inside
        have below := ih (address + 1) ((y + 1) % 256) more placed.nextLine (by omega) (by omega)
          (by omega)
        have cut : (memory.size - address).toNat = (memory.size - (address + 1)).toNat + 1 := by
          omega
        have same : max (address + 1) (memory.size : Int) = max address memory.size := by omega
        rw [sprite_succ height present drawn, below, same, cut, after_sprite_succ _ present drawn]
      · have missing := memory.read_of_outside address (by omega)
        have cut : (memory.size - address).toNat = 0 := by omega
        have behind : max address (memory.size : Int) = address := by omega
        rw [sprite, missing, Action.bind_of_error (Action.attempt_error _ display), cut, behind]
        rfl

end Drawing

end Chip8
