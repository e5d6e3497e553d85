import Chip8.Text
import Chip8.Text.Blank
import Chip8.Text.DecimalDigit
/-!
Integer numerals in a given base: blanks around, one sign, single underscores between digits,
decimal digits of any script, and after `0x`, `0o` or `0b` the digits of the base it stands for.
-/

namespace Chip8.Numeral

/-- More digits than this are neither read nor written in a base that is no power of two. -/
def maxDigits : Nat := 4300

/-- The sign does not count. -/
def Endless (number : Int) : Prop := maxDigits < (Nat.toDigits 10 number.natAbs).length

instance : DecidablePred Endless := fun _ => inferInstanceAs (Decidable (_ < _))

def decimal? (number : Int) : Option String :=
  if Endless number then none else some (toString number)

def endlessText : String :=
  "Exceeds the limit (4300 digits) for integer string conversion; " ++
    "use sys.set_int_max_str_digits() to increase the limit"

inductive Refusal where
  | malformed
  | tooLong (digits : Nat)
  deriving DecidableEq, Repr

def digit? (c : Char) : Option Nat :=
  if 'a' ≤ c ∧ c ≤ 'z' then some (c.toNat - 'a'.toNat + 10)
  else if 'A' ≤ c ∧ c ≤ 'Z' then some (c.toNat - 'A'.toNat + 10)
  else Text.decimalDigit? c

def digitIn? (base : Nat) (c : Char) : Option Nat :=
  (digit? c).filter (· < base)

/-- Digits up to the end of the text or to a blank; underscores only between two of them. -/
def digits? (base : Nat) : List Char → Option (List Nat)
  | [] => none
  | c :: rest =>
    match digitIn? base c with
    | none => none
    | some digit =>
      match rest with
      | [] => some [digit]
      | '_' :: more => (digits? base more).map (digit :: ·)
      | next :: more =>
        if Text.isBlank next then if more.all Text.isBlank then some [digit] else none
        else (digits? base (next :: more)).map (digit :: ·)

def value (base : Nat) (digits : List Nat) : Nat :=
  digits.foldl (fun total digit => total * base + digit) 0

def marker? (base : Nat) : Option Char :=
  match base with
  | 2 => some 'b'
  | 8 => some 'o'
  | 16 => some 'x'
  | _ => none

def dropMarker (base : Nat) (text : List Char) : List Char :=
  match text with
  | '0' :: letter :: rest =>
    if marker? base = some letter.toLower then
      match rest with
      | '_' :: more => more
      | _ => rest
    else text
  | _ => text

def isPowerOfTwo (base : Nat) : Bool := base == 2 || base == 8 || base == 16

def readUnsigned (base : Nat) (text : List Char) : Except Refusal Nat :=
  match digits? base (dropMarker base text) with
  | none => .error .malformed
  | some digits =>
    if ¬ isPowerOfTwo base ∧ maxDigits < digits.length then .error (.tooLong digits.length)
    else .ok (value base digits)

def readSigned (base : Nat) : List Char → Except Refusal Int
  | '-' :: rest => (readUnsigned base rest).map fun magnitude => -magnitude
  | '+' :: rest => (readUnsigned base rest).map Int.ofNat
  | text => (readUnsigned base text).map Int.ofNat

def read (base : Nat) (text : Text) : Except Refusal Int :=
  match text.chars? with
  | some chars => readSigned base (chars.dropWhile Text.isBlank)
  | none => .error .malformed

end Chip8.Numeral
