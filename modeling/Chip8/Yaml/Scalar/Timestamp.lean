import Chip8.Calendar
import Chip8.Decimal.Double
import Chip8.Yaml.Error
import Chip8.Yaml.Scalar

namespace Chip8.Yaml.Timestamp

def digits? (least most : Nat) (text : List Char) : Option (List Char × List Char) :=
  let digits := (text.take most).takeWhile Char.isDigit
  if digits.length < least then none else some (digits, text.drop digits.length)

def mark? (mark : Char) : List Char → Option (List Char)
  | c :: rest => if c = mark then some rest else none
  | [] => none

def date? (least : Nat) (text : List Char) : Option (Calendar.Date × List Char) := do
  let (year, rest) ← digits? 4 4 text
  let (month, rest) ← digits? least 2 (← mark? '-' rest)
  let (day, rest) ← digits? least 2 (← mark? '-' rest)
  return (⟨Decimal.natOf year, Decimal.natOf month, Decimal.natOf day⟩, rest)

def dayTimeGap? : List Char → Option (List Char)
  | 'T' :: rest => some rest
  | 't' :: rest => some rest
  | c :: rest =>
    if c = ' ' ∨ c = '\t' then some (rest.dropWhile fun c => c == ' ' || c == '\t') else none
  | [] => none

/-- Parts of a second as microseconds; what is finer is cut off. -/
def microseconds (digits : List Char) : Nat :=
  let six := digits.take 6
  Decimal.natOf six * Nat.pow 10 (6 - six.length)

/-- `Z`, or hours and minutes ahead of or behind universal time; nothing if there is none. -/
def offset? (text : List Char) : Option (Option Int) :=
  match text.dropWhile fun c => c == ' ' || c == '\t' with
  | [] => if text.isEmpty then some none else none
  | ['Z'] => some (some 0)
  | sign :: rest => do
    if sign ≠ '+' ∧ sign ≠ '-' then none
    let (hours, rest) ← digits? 1 2 rest
    let minutes ← match rest with
      | [] => some []
      | ':' :: rest => do
        let (minutes, rest) ← digits? 2 2 rest
        if rest.isEmpty then some minutes else none
      | _ => none
    let seconds : Int := (Decimal.natOf hours * 60 + Decimal.natOf minutes) * 60
    return some (if sign = '-' then -seconds else seconds)

def moment? (text : List Char) : Option Calendar.Moment := do
  let (date, rest) ← date? 1 text
  let (hour, rest) ← digits? 1 2 (← dayTimeGap? rest)
  let (minute, rest) ← digits? 2 2 (← mark? ':' rest)
  let (second, rest) ← digits? 2 2 (← mark? ':' rest)
  let (fraction, rest) := match rest with
    | '.' :: rest => (rest.takeWhile Char.isDigit, rest.dropWhile Char.isDigit)
    | rest => ([], rest)
  let offset ← offset? rest
  return ⟨date, Decimal.natOf hour, Decimal.natOf minute, Decimal.natOf second,
    microseconds fraction, offset⟩

/-- A plain date has all its digits; one with a time may leave out zeros. -/
def isPlain (text : List Char) : Bool :=
  (date? 2 text).any (fun found => found.2.isEmpty) || (moment? text).isSome

def withoutFinalBreak (text : List Char) : List Char :=
  if text.getLast? = some '\n' then text.dropLast else text

def read (text : List Char) : Except Error Scalar :=
  match date? 1 text, moment? text with
  | some (date, []), _ => (date.check.mapError .noSuchTime).map Scalar.date
  | _, some moment => (moment.check.mapError .noSuchTime).map Scalar.moment
  | _, _ => .error .badTime

end Chip8.Yaml.Timestamp
