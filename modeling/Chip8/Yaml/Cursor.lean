import Chip8.Action
import Chip8.Yaml.Source
/-!
A place in a text that is being read. To look at a character means to read up to it, and a step
forward also looks at the character behind; either fails where the reading is stopped.
-/

namespace Chip8.Yaml

def isBreak (c : Char) : Bool := c == '\n' || c == '\x85' || c == '\u2028' || c == '\u2029'

def isBlank (c : Char) : Bool := c == ' ' || c == '\t'

def isGap : Option Char → Bool
  | none => true
  | some c => isBlank c || isBreak c

def isSpaceGap : Option Char → Bool
  | none => true
  | some c => c == ' ' || isBreak c

def isLineEnd : Option Char → Bool
  | none => true
  | some c => isBreak c

def isWordChar (c : Char) : Bool := c.isAlphanum || c == '-' || c == '_'

def hexValue? (c : Char) : Option Nat :=
  if '0' ≤ c ∧ c ≤ '9' then some (c.toNat - '0'.toNat)
  else if 'a' ≤ c ∧ c ≤ 'f' then some (c.toNat - 'a'.toNat + 10)
  else if 'A' ≤ c ∧ c ≤ 'F' then some (c.toNat - 'A'.toNat + 10)
  else none

/-- What is left of a text, what stops the reading behind it, and where it stands. Columns do not
count byte order marks. -/
structure Cursor where
  rest : List Char
  fault : Option Error := none
  index : Nat := 0
  line : Nat := 0
  column : Nat := 0

abbrev Scanning (α : Type) := Action Error Cursor α

namespace Cursor

def ofSource (source : Source) : Cursor := { rest := source.chars, fault := source.fault }

def next (cursor : Cursor) : Cursor :=
  match cursor.rest with
  | [] => cursor
  | c :: rest =>
    let index := cursor.index + 1
    if isBreak c then { cursor with rest, index, line := cursor.line + 1, column := 0 }
    else if c = '\uFEFF' then { cursor with rest, index }
    else { cursor with rest, index, column := cursor.column + 1 }

def skip (cursor : Cursor) : Nat → Cursor
  | 0 => cursor
  | count + 1 => skip cursor.next count

end Cursor

namespace Scanning

def peekAt (distance : Nat) : Scanning (Option Char) := fun cursor =>
  match cursor.rest[distance]?, cursor.fault with
  | none, some fault => .error fault cursor
  | found, _ => .ok found cursor

def peek : Scanning (Option Char) := peekAt 0

def column : Scanning Nat := do return (← get).column

def advance (count : Nat) : Scanning Unit := do
  modify fun cursor => cursor.skip count
  let _ ← peek

def span (test : Char → Bool) : Scanning (List Char) := do
  let taken := (← get).rest.takeWhile test
  advance taken.length
  return taken

def measure (test : Char → Bool) : Scanning Nat := do
  let length := ((← get).rest.takeWhile test).length
  let _ ← peekAt length
  return length

def skipSpaces : Scanning Unit := do
  let _ ← span (· == ' ')

def lineBreak? : Scanning (Option Char) := do
  match ← peek with
  | some c =>
    if isBreak c then
      advance 1
      return some (if c = '\x85' then '\n' else c)
    else return none
  | none => return none

def skipLine : Scanning Unit := do
  let _ ← span fun c => !isBreak c

def hexCode (width : Nat) : Scanning Nat := do
  let digits := ((← get).rest.take width).map hexValue?
  let read := digits.takeWhile Option.isSome
  if read.length = width then
    return (read.map fun digit => digit.getD 0).foldl (fun code digit => code * 16 + digit) 0
  let _ ← peekAt read.length
  throw .malformed

def atMarks (mark : Char) : Scanning Bool := do
  let _ ← peekAt 2
  if (← get).rest.take 3 == [mark, mark, mark] then return isGap (← peekAt 3) else return false

def atDocumentMark : Scanning Bool := do
  if ← atMarks '-' then return true else atMarks '.'

def finishLine : Scanning Unit := do
  skipSpaces
  if (← peek) = some '#' then skipLine
  if !isLineEnd (← peek) then throw .malformed
  let _ ← lineBreak?

end Scanning

end Chip8.Yaml
