import Chip8.Action
import Chip8.Fault
/-!
The screen: rows of cells that are lit or dark. Setting a cell combines by exclusive or, and says
whether a lit cell went dark. Coordinates may count back from the right and lower edges; wrapping
them around is left to whoever draws.
-/

namespace Chip8

/-- Without cells in a direction whose extent is zero or negative. -/
structure Display where
  width : Int
  height : Int
  cells : Vector (Vector Bool width.toNat) height.toNat

namespace Display

def defaultWidth : Int := 64

def defaultHeight : Int := 32

def blank (width height : Int) : Display :=
  ⟨width, height, Vector.replicate height.toNat (Vector.replicate width.toNat false)⟩

/-- Signed 64-bit words count the rows, and the cells of a row: no larger screen is made. Where
there are no rows, any number will do for their cells. -/
def blank? (width height : Int) : Option Display :=
  if 0 < height ∧ (0x8000000000000000 ≤ height ∨ width < -0x8000000000000000 ∨
      0x8000000000000000 ≤ width) then none
  else some (blank width height)

def default : Display := blank defaultWidth defaultHeight

instance : Inhabited Display := ⟨default⟩

def clear (display : Display) : Display := blank display.width display.height

/-- The cell that two coordinates name; the row is looked up first. -/
def locate (display : Display) (x y : Int) :
    Except Fault (Fin display.height.toNat × Fin display.width.toNat) :=
  match Index.resolve display.height.toNat y with
  | .error refusal => .error (.offScreen refusal)
  | .ok row =>
    match Index.resolve display.width.toNat x with
    | .error refusal => .error (.offScreen refusal)
    | .ok column => .ok (row, column)

def get (display : Display) (x y : Int) : Except Fault Bool :=
  match display.locate x y with
  | .error fault => .error fault
  | .ok (row, column) => .ok ((display.cells.get row).get column)

/-- Flips the cell if `value` is odd. The answer is whether a lit cell went dark. -/
def set (x y value : Int) : Action Fault Display Bool := fun display =>
  match display.locate x y with
  | .error fault => .error fault display
  | .ok (row, column) =>
    let before := (display.cells.get row).get column
    let after := xor before (value % 2 = 1)
    let cells := Index.update (display.cells.get row) column after
    .ok (before && !after) { display with cells := Index.update display.cells row cells }

def rows (display : Display) : List (List Bool) :=
  display.cells.toList.map Vector.toList

def litRows (display : Display) : List (Nat × List Bool) :=
  (display.rows.zipIdx.filter fun row => row.1.any id).map fun row => (row.2, row.1)

end Display

end Chip8
