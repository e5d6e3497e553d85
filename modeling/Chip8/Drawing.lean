import Chip8.Display
import Chip8.Memory

namespace Chip8.Drawing

def wrap (position extent : Int) : Except Fault Int :=
  if extent = 0 then .error .emptyScreen else .ok (position.fmod extent)

def pixel (x y : Int) (lit : Bool) : Action Fault Display Bool := do
  let display ← get
  let column ← Action.attempt (wrap x display.width)
  let row ← Action.attempt (wrap y display.height)
  Display.set column row (if lit then 1 else 0)

def row (x y : Int) : List Bool → Action Fault Display Bool
  | [] => pure false
  | lit :: rest => do
    let erased ← pixel x y lit
    let later ← row (x + 1) y rest
    return erased || later

def bits (byte : UInt8) : List Bool :=
  [7, 6, 5, 4, 3, 2, 1, 0].map fun place => byte.toNat.testBit place

/-- The rows of the sprite at `address` from top to bottom; the vertical position is a byte. -/
def sprite (memory : Memory) (x : Int) : Nat → Int → Int → Action Fault Display Bool
  | 0, _, _ => pure false
  | height + 1, address, y => do
    let byte ← Action.attempt (memory.read address)
    let erased ← row x y (bits byte)
    let later ← sprite memory x height (address + 1) ((y + 1) % 256)
    return erased || later

end Chip8.Drawing
