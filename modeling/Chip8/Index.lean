/-!
Positions counted from either end. A negative position counts back from the end, and a position
that no signed 64-bit word holds is refused as such, whatever the length.
-/

namespace Chip8

inductive IndexRefusal where
  | outOfRange
  | tooWide
  deriving DecidableEq, Repr

namespace Index

/-- The element counted from the front, or from the back if `position` is negative. -/
def resolve (length : Nat) (position : Int) : Except IndexRefusal (Fin length) :=
  if position < -0x8000000000000000 ∨ 0x8000000000000000 ≤ position then .error .tooWide
  else
    let place := if position < 0 then position + length else position
    if inside : 0 ≤ place ∧ place < length then .ok ⟨place.toNat, by omega⟩
    else .error .outOfRange

variable {α : Type} {n : Nat}

def update (cells : Vector α n) (place : Fin n) (value : α) : Vector α n :=
  cells.set place.val value place.isLt

theorem get_update (cells : Vector α n) (place other : Fin n) (value : α) :
    (update cells place value).get other = if place = other then value else cells.get other := by
  change (cells.set place.val value place.isLt)[other.val] = _
  rw [Vector.getElem_set]
  simp only [Fin.ext_iff]
  rfl

end Index

end Chip8
