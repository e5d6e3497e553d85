/-!
Painting a grid of cells: one square for each cell that is not 0. What the squares are made of is up
to a toolkit.
-/

namespace Chip8

structure Rect where
  left : Int
  top : Int
  width : Int
  height : Int
  deriving DecidableEq, Repr

/-- Makes rectangles of its own, or refuses to, and reads them back. -/
structure Toolkit (ε ρ : Type) where
  make : Rect → Except ε ρ
  rect : ρ → Rect

/-- Rows of cells, from the top; the rows need not be of one length. -/
abbrev Picture := List (List Int)

namespace Picture

def cellCount (picture : Picture) : Nat := picture.flatten.length

def square (scale : Int) (x y : Nat) : Rect := ⟨x * scale, y * scale, scale, scale⟩

def rowRects (scale : Int) (y : Nat) (row : List Int) : List Rect :=
  (row.zipIdx.filter fun cell => cell.1 ≠ 0).map fun cell => square scale cell.2 y

/-- Row by row from the top, from left to right. -/
def litRects (picture : Picture) (scale : Int) : List Rect :=
  picture.zipIdx.flatMap fun row => rowRects scale row.2 row.1

end Picture

structure DisplayView where
  scale : Int
  pixels : Picture

namespace DisplayView

variable {ε ρ : Type}

def ofSize (scale width height : Int) : DisplayView :=
  ⟨scale, List.replicate height.toNat (List.replicate width.toNat 0)⟩

def setPixels (view : DisplayView) (pixels : Picture) : DisplayView := { view with pixels }

/-- One after the other, up to the first that is refused. -/
def litRects (toolkit : Toolkit ε ρ) (view : DisplayView) : Except ε (List ρ) :=
  (view.pixels.litRects view.scale).mapM toolkit.make

end DisplayView

end Chip8
