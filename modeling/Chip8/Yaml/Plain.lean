import Chip8.Yaml.Scalar.Timestamp
import Chip8.Yaml.Tag

namespace Chip8.Yaml.Plain

def isDigitIn (digits : String) (c : Char) : Bool := digits.contains c || c == '_'

def isDecimalPart (c : Char) : Bool := c.isDigit || c == '_'

def dropSign : List Char → List Char
  | '-' :: rest => rest
  | '+' :: rest => rest
  | text => text

def isRun (test : Char → Bool) (text : List Char) : Bool := !text.isEmpty && text.all test

def isDecimalRun : List Char → Bool
  | [] => false
  | c :: rest => c.isDigit && rest.all isDecimalPart

def isSixtieth : List Char → Bool
  | [ones] => ones.isDigit
  | [tens, ones] => '0' ≤ tens && tens ≤ '5' && ones.isDigit
  | _ => false

def isSixties (text : List Char) : Bool :=
  match text.splitOn ':' with
  | first :: second :: rest => isDecimalRun first && (second :: rest).all isSixtieth
  | _ => false

def isInteger (text : List Char) : Bool :=
  match dropSign text with
  | ['0'] => true
  | '0' :: 'b' :: rest => isRun (isDigitIn "01") rest
  | '0' :: 'x' :: rest => isRun (isDigitIn "0123456789abcdefABCDEF") rest
  | '0' :: rest => isRun (isDigitIn "01234567") rest
  | magnitude => isDecimalRun magnitude || isSixties magnitude

def isExponent : List Char → Bool
  | [] => true
  | e :: sign :: digits =>
    (e == 'e' || e == 'E') && (sign == '-' || sign == '+') && isRun Char.isDigit digits
  | _ => false

def isFraction (text : List Char) : Bool := isExponent (text.dropWhile isDecimalPart)

def isFloat (text : List Char) : Bool :=
  let magnitude := dropSign text
  let whole := magnitude.takeWhile (· != '.')
  match text, magnitude, magnitude.dropWhile (· != '.') with
  | ['.', 'n', 'a', 'n'], _, _ | ['.', 'N', 'a', 'N'], _, _ | ['.', 'N', 'A', 'N'], _, _ => true
  | _, ['.', 'i', 'n', 'f'], _ | _, ['.', 'I', 'n', 'f'], _ | _, ['.', 'I', 'N', 'F'], _ => true
  | '.' :: digit :: rest, _, _ => digit.isDigit && isFraction rest
  | _, _, '.' :: fraction =>
    (isDecimalRun whole && isFraction fraction) ||
      (isSixties whole && fraction.all isDecimalPart)
  | _, _, _ => false

def isNull (text : String) : Bool := ["~", "null", "Null", "NULL"].contains text

def isTruth (text : String) : Bool :=
  let lower := text.toLower
  ["yes", "no", "true", "false", "on", "off"].contains lower &&
    (text == lower || text == text.toUpper || text == lower.capitalize)

def isMark (text : String) : Bool := ["!", "&", "*"].contains text

def tagOfChars (text : List Char) : Tag :=
  let chars := Timestamp.withoutFinalBreak text
  let word := String.ofList chars
  if text.isEmpty then .null
  else if isTruth word then .bool
  else if isFloat chars then .float
  else if isInteger chars then .int
  else if word = "<<" then .merge
  else if isNull word then .null
  else if Timestamp.isPlain chars then .timestamp
  else if word = "=" then .defaultValue
  else if isMark word then .unknown
  else .text

def tagOf (text : Text) : Tag :=
  match text.chars? with
  | some chars => tagOfChars chars
  | none => .text

end Chip8.Yaml.Plain
