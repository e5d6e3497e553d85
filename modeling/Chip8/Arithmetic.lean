import Chip8.Bitwise
import Chip8.Registers

namespace Chip8.Registers

def addByte (registers : Registers) (x : Fin 16) (value : Int) : Registers :=
  registers.set x ((registers.get x + value) % 256)

def or (registers : Registers) (x y : Fin 16) : Registers :=
  registers.set x (Bitwise.or (registers.get x) (registers.get y))

def and (registers : Registers) (x y : Fin 16) : Registers :=
  registers.set x (Bitwise.and (registers.get x) (registers.get y))

def xor (registers : Registers) (x y : Fin 16) : Registers :=
  registers.set x (Bitwise.xor (registers.get x) (registers.get y))

def add (registers : Registers) (x y : Fin 16) : Registers :=
  let sum := registers.get x + registers.get y
  (registers.set x (sum % 256)).setFlag (if 255 < sum then 1 else 0)

/-- `target` becomes the difference; the flag says that nothing was borrowed. -/
def difference (registers : Registers) (target : Fin 16) (left right : Int) : Registers :=
  (registers.set target ((left - right) % 256)).setFlag (if right ≤ left then 1 else 0)

def sub (registers : Registers) (x y : Fin 16) : Registers :=
  registers.difference x (registers.get x) (registers.get y)

def subFrom (registers : Registers) (x y : Fin 16) : Registers :=
  registers.difference x (registers.get y) (registers.get x)

def shiftRight (registers : Registers) (x y : Fin 16) : Registers :=
  let value := registers.get y
  (registers.set x (value / 2)).setFlag (value % 2)

def shiftLeft (registers : Registers) (x y : Fin 16) : Registers :=
  let value := registers.get y
  (registers.set x (value * 2 % 256)).setFlag (value / 128)

def addIndex (registers : Registers) (amount : Int) : Registers :=
  { registers with i := (registers.i + amount) % 0x10000 }

end Chip8.Registers
