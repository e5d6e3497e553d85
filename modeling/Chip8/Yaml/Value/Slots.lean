import Chip8.Yaml.Scalar
/-!
The order in which a set lists its elements. Numbers have their places in a table by their
remainders modulo a prime; a place that is taken sends them on. Elements of other kinds have no
places that are known beforehand, and a set with one of them lists its elements as they came.
-/

namespace Chip8.Yaml.Slots

def modulus : Nat := Nat.pow 2 61 - 1

/-- Remainders keep the sign of the number; the remainder -1 is not used. -/
def signed (isNegative : Bool) (remainder : Nat) : Int :=
  if isNegative then if remainder = 1 then -2 else -(remainder : Int) else remainder

def infinityMark : Nat := 314159

def ofFloat? (value : Float) : Option Int :=
  if value.isNaN then none
  else if value.isInf then some (signed (value < 0) infinityMark)
  else
    let binary := Decimal.Binary.ofFloat value
    let turns := (binary.exponent % 61).toNat
    some (signed (value < 0) (binary.mantissa * Nat.pow 2 turns % modulus))

def mark? : Scalar → Option Int
  | .bool value => some (if value then 1 else 0)
  | .int value => some (signed (value < 0) (value.natAbs % modulus))
  | .float value => ofFloat? value
  | .text value => if value.points.isEmpty then some 0 else none
  | .bytes value => if value.isEmpty then some 0 else none
  | .null | .date _ | .moment _ => none

/-- A power of two, more than twice as many as the elements if there are more than four. -/
def tableSize (count : Nat) : Nat :=
  if count < 5 then 8 else grow count 8
where
  grow : Nat → Nat → Nat
    | 0, size => size
    | fuel + 1, size => if size ≤ 2 * count then grow fuel (2 * size) else size

def runLength : Nat := 10

abbrev Table := Array (Option Scalar)

def freeIn? (table : Table) (slots : List Nat) : Option Nat :=
  slots.find? fun slot => (table.getD slot none).isNone

/-- The first free slot on the way of a mark; `rest` is what later jumps depend on. -/
def freeSlot? (table : Table) : Nat → Nat → Nat → Option Nat
  | 0, _, _ => none
  | fuel + 1, slot, rest =>
    -- A run does not reach over the end of the table.
    let run := if slot + runLength ≤ table.size then runLength else 1
    match freeIn? table ((List.range run).map (slot + ·)) with
    | some free => some free
    | none =>
      let rest := rest / 32
      freeSlot? table fuel ((slot * 5 + 1 + rest) % table.size) rest

def place (table : Table) (element : Scalar × Int) : Table :=
  let start := (element.2 % (Nat.pow 2 64 : Nat)).toNat
  match freeSlot? table (64 + 2 * table.size) (start % table.size) start with
  | some slot => table.setIfInBounds slot (some element.1)
  | none => table

def order (elements : List Scalar) : List Scalar :=
  match elements.mapM fun element => (mark? element).map (element, ·) with
  | none => elements
  | some marked =>
    (marked.foldl place (Array.replicate (tableSize elements.length) none)).toList.filterMap id

end Chip8.Yaml.Slots
