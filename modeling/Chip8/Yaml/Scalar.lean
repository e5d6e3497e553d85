import Chip8.Calendar
import Chip8.Decimal.Shortest
import Chip8.Text

namespace Chip8.Yaml

inductive Scalar where
  | null
  | bool (value : Bool)
  | int (value : Int)
  | float (value : Float)
  | text (value : Text)
  | bytes (value : List UInt8)
  | date (value : Calendar.Date)
  | moment (value : Calendar.Moment)
  deriving Inhabited

namespace Scalar

def wholeNumber? (value : Float) : Option Int :=
  if value.isFinite then
    let binary := Decimal.Binary.ofFloat value
    let up := Nat.pow 2 binary.exponent.toNat
    let down := Nat.pow 2 (-binary.exponent).toNat
    let magnitude : Int := (binary.mantissa * up / down : Nat)
    if binary.mantissa * up % down = 0 then some (if value < 0 then -magnitude else magnitude)
    else none
  else none

def integer? : Scalar → Option Int
  | bool value => some (if value then 1 else 0)
  | int value => some value
  | float value => wholeNumber? value
  | _ => none

/-- Equal numbers are the same, of whatever type they are. What is not a number is not even the
same as itself. -/
def same (left right : Scalar) : Bool :=
  match left.integer?, right.integer? with
  | some m, some n => m == n
  | none, none =>
    match left, right with
    | null, null => true
    | float x, float y => x == y
    | text s, text t => s == t
    | bytes b, bytes c => b == c
    | date d, date e => d == e
    | moment d, moment e => d.same e
    | _, _ => false
  | _, _ => false

def isTruthy : Scalar → Bool
  | null => false
  | bool value => value
  | int value => value != 0
  | float value => !(value == 0)
  | text value => !value.points.isEmpty
  | bytes value => !value.isEmpty
  | date _ | moment _ => true

def typeName : Scalar → String
  | null => "NoneType"
  | bool _ => "bool"
  | int _ => "int"
  | float _ => "float"
  | text _ => "str"
  | bytes _ => "bytes"
  | date _ => "datetime.date"
  | moment _ => "datetime.datetime"

end Scalar

end Chip8.Yaml
