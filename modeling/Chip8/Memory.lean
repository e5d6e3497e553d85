import Chip8.Action
import Chip8.Fault
import Chip8.Font
/-!
The byte store. Addresses run from 0 up to the size; the font lies at address 0, and room is kept
for all of it even where the size is smaller.
-/

namespace Chip8

structure Memory where
  size : Nat
  cells : Vector UInt8 (max size Font.size)

namespace Memory

def defaultSize : Nat := 4096

def programStart : Nat := 0x200

def ofSize (size : Nat) : Memory :=
  ⟨size, Vector.ofFn fun cell => Font.byteAt cell⟩

def ofSize? (size : Int) : Option Memory :=
  if 0 < size then some (ofSize size.toNat) else none

def default : Memory := ofSize defaultSize

instance : Inhabited Memory := ⟨default⟩

def lowByte (data : Int) : UInt8 := UInt8.ofNat (data % 256).toNat

def read (memory : Memory) (address : Int) : Except Fault UInt8 :=
  if inside : 0 ≤ address ∧ address < memory.size then
    .ok (memory.cells.get ⟨address.toNat, by omega⟩)
  else .error (.outsideMemory address memory.size)

/-- The high byte first; the byte at `address` is looked at before the next one. -/
def readWord (memory : Memory) (address : Int) : Except Fault Int := do
  let high ← memory.read address
  let low ← memory.read (address + 1)
  return high.toNat * 256 + low.toNat

def write (address data : Int) : Action Fault Memory Unit := fun memory =>
  if inside : 0 ≤ address ∧ address < memory.size then
    .ok () { memory with cells := memory.cells.set address.toNat (lowByte data) (by omega) }
  else .error (.outsideMemory address memory.size) memory

/-- Writes upwards from `start` until a byte has no cell; the bytes before that one stay. -/
def load (start : Int) : List Int → Action Fault Memory Unit
  | [] => pure ()
  | byte :: rest => do
    write start byte
    load (start + 1) rest

def loadProgram (program : List Int) : Action Fault Memory Unit := load programStart program

/-- The cells from `start` to `stop`, where a negative `stop` counts from the end of the store. -/
def slice (memory : Memory) (start : Nat) (stop : Int) : List UInt8 :=
  let stop := if stop < 0 then stop + (max memory.size Font.size : Nat) else stop
  (memory.cells.toList.take stop.toNat).drop start

/-- The part of `length` cells from `start` on that lies in memory. An end before address 0 counts
from the end of the store. -/
def dump (memory : Memory) (start length : Int) : List UInt8 :=
  let start := max 0 start
  memory.slice start.toNat (min (start + length) memory.size)

def toList (memory : Memory) : List UInt8 := memory.cells.toList.take memory.size

def extendRuns (address : Nat) (byte : UInt8) :
    List (Nat × List UInt8) → List (Nat × List UInt8)
  | [] => if byte = 0 then [] else [(address, [byte])]
  | (start, run) :: runs =>
    if byte = 0 then (start, run) :: runs
    else if start = address + 1 then (address, byte :: run) :: runs
    else (address, [byte]) :: (start, run) :: runs

def runs (memory : Memory) : List (Nat × List UInt8) :=
  memory.toList.zipIdx.foldr (fun cell later => extendRuns cell.2 cell.1 later) []

end Memory

end Chip8
