import Chip8.Text.Base64
import Chip8.Text.Lower
import Chip8.Text.Numeral
import Chip8.Yaml.Scalar.Timestamp
import Chip8.Yaml.Tag

namespace Chip8.Yaml.Scalar

def numeral (base : Nat) (literal : List CodePoint) : Except Error Int :=
  match Numeral.read base ⟨literal⟩ with
  | .ok value => .ok value
  | .error .malformed => .error (.badInteger base ⟨literal⟩)
  | .error (.tooLong digits) => .error (.longInteger digits)

def withoutUnderscores (text : Text) : Text := ⟨text.points.filter (· != .char '_')⟩

def signed (text : Text) : Except Error (Bool × List CodePoint) :=
  match text.points with
  | [] => .error .emptyNumber
  | .char '-' :: rest => .ok (true, rest)
  | .char '+' :: rest => .ok (false, rest)
  | points => .ok (false, points)

def sixties (parts : List Int) : Int := parts.foldl (fun total part => total * 60 + part) 0

def readInteger (text : Text) : Except Error Int := do
  let (isNegative, magnitude) ← signed (withoutUnderscores text)
  let value ← match magnitude with
    | [] => throw .emptyNumber
    | [.char '0'] => pure 0
    | .char '0' :: .char 'b' :: rest => numeral 2 rest
    | .char '0' :: .char 'x' :: rest => numeral 16 rest
    | .char '0' :: _ => numeral 8 magnitude
    | _ =>
      if magnitude.contains (.char ':') then do
        let parts ← (magnitude.splitOn (.char ':')).mapM (numeral 10)
        pure (sixties parts)
      else numeral 10 magnitude
  return if isNegative then -value else value

/-- How many parts of a number in base sixty weigh no more than a double can. -/
def maxSixties : Nat := 174

def floatSixties (parts : List Float) : Except Error Float :=
  if maxSixties < parts.length then .error .hugeFloat
  else
    .ok (parts.reverse.zipIdx.foldl
      (fun total part => total + part.1 * Decimal.toDouble (Nat.pow 60 part.2) 0) 0.0)

def trim (text : List Char) : List Char :=
  ((text.dropWhile Text.isBlank).reverse.dropWhile Text.isBlank).reverse

def plainDigit (c : Char) : Char :=
  match Text.decimalDigit? c with
  | some digit => Nat.digitChar digit
  | none => c

def numeralDouble (literal : List CodePoint) : Except Error Float :=
  let chars := (Text.mk literal).chars?
  match chars.bind fun chars => Decimal.read? ((trim chars).map plainDigit) with
  | some value => .ok value
  | none => .error (.badFloat ⟨literal⟩)

def infinityWord : Text := ".inf"

def notNumberWord : Text := ".nan"

/-- The underscores are dropped before the letters are made small: sigma looks at its neighbours. -/
def readFloat (text : Text) : Except Error Float := do
  let (isNegative, magnitude) ← signed (withoutUnderscores text).lower
  let value ←
    if Text.mk magnitude = infinityWord then pure Decimal.infinity
    else if Text.mk magnitude = notNumberWord then return Decimal.notANumber
    else if magnitude.contains (.char ':') then do
      let parts ← (magnitude.splitOn (.char ':')).mapM numeralDouble
      floatSixties parts
    else numeralDouble magnitude
  return if isNegative then -value else value

def truthWords : List (Text × Bool) :=
  [("yes", true), ("no", false), ("true", true), ("false", false), ("on", true), ("off", false)]

def readTruth (text : Text) : Except Error Bool :=
  match truthWords.lookup text.lower with
  | some truth => .ok truth
  | none => .error (.badTruth text.lower)

def readTimestamp (text : Text) : Except Error Scalar :=
  match text.chars? with
  | some chars => Timestamp.read (Timestamp.withoutFinalBreak chars)
  | none => .error .badTime

def readBytes (text : Text) : Except Error (List UInt8) :=
  match text.chars? with
  | some chars =>
    if chars.all fun c => c.toNat < 0x80 then
      match Base64.decode? chars with
      | some decoded => .ok decoded
      | none => .error .malformed
    else .error .malformed
  | none => .error .malformed

def read (tag : Tag) (text : Text) : Except Error Scalar :=
  match tag with
  | .null => .ok .null
  | .bool => (readTruth text).map bool
  | .int => (readInteger text).map int
  | .float => (readFloat text).map float
  | .timestamp => readTimestamp text
  | .text => .ok (.text text)
  | .bytes => (readBytes text).map bytes
  | .list | .map | .set | .pairs | .merge | .defaultValue | .unknown => .error .malformed

def isNotNumberWord (text : Text) : Bool :=
  match signed (withoutUnderscores text).lower with
  | .ok (_, magnitude) => Text.mk magnitude = notNumberWord
  | .error _ => false

end Chip8.Yaml.Scalar
