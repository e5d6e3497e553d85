import Chip8.Fault
import Chip8.Memory
import Chip8.Opcode

namespace Chip8

/-- `stack` holds return addresses, the oldest first. -/
structure Registers where
  v : Vector Int 16 := Vector.replicate 16 0
  i : Int := 0
  pc : Int := Memory.programStart
  stack : List Int := []
  delayTimer : Int := 0
  soundTimer : Int := 0
  halted : Bool := false
  deriving DecidableEq, Repr

namespace Registers

def count : Nat := 16

def flag : Fin 16 := Fin.last 15

def first : Fin 16 := Opcode.lastDigit 0

def instructionLength : Int := 2

instance : Inhabited Registers := ⟨{}⟩

def get (registers : Registers) (index : Fin 16) : Int := registers.v.get index

def set (registers : Registers) (index : Fin 16) (value : Int) : Registers :=
  { registers with v := Index.update registers.v index value }

theorem get_set (registers : Registers) (index other : Fin 16) (value : Int) :
    (registers.set index value).get other = if index = other then value else registers.get other :=
  Index.get_update registers.v index other value

def setFlag (registers : Registers) (value : Int) : Registers :=
  registers.set flag (value % 256)

def vf (registers : Registers) : Int := registers.get flag

def advance (registers : Registers) : Registers :=
  { registers with pc := (registers.pc + instructionLength) % 0x10000 }

def rewind (registers : Registers) : Registers :=
  { registers with pc := (registers.pc - instructionLength) % 0x10000 }

def skipIf (condition : Bool) (registers : Registers) : Registers :=
  if condition then registers.advance else registers

def sp (registers : Registers) : Int := registers.stack.length

/-- One tick of the delay timer, which stops at 0. The sound timer only keeps its value. -/
def tick (registers : Registers) : Registers :=
  if 0 < registers.delayTimer then { registers with delayTimer := registers.delayTimer - 1 }
  else registers

structure Entry where
  name : String
  width : Nat
  value : Int
  deriving DecidableEq, Repr

def entries (registers : Registers) : List Entry :=
  ((List.finRange 16).map fun index =>
    ⟨"V" ++ Hex.plain 1 index.val, 8, registers.get index⟩) ++
  [⟨"I", 16, registers.i⟩, ⟨"PC", 16, registers.pc⟩, ⟨"SP", 8, registers.sp⟩,
   ⟨"DT", 8, registers.delayTimer⟩, ⟨"ST", 8, registers.soundTimer⟩]

def layout (registers : Registers) : List (String × Nat) :=
  registers.entries.map fun entry => (entry.name, entry.width)

def values (registers : Registers) : List (String × Int) :=
  registers.entries.map fun entry => (entry.name, entry.value)

def Entry.text (entry : Entry) : String :=
  entry.name ++ "=" ++ Hex.plain (entry.width / 4) entry.value

def line (registers : Registers) : String :=
  " ".intercalate (registers.entries.map Entry.text)

end Registers

end Chip8
