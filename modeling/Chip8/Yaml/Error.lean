import Chip8.Calendar
import Chip8.Text.Quoted

namespace Chip8.Yaml

inductive Error where
  | malformed
  | notUnicode
  | badCharacter (code : Nat)
  | badInteger (base : Nat) (literal : Text)
  | longInteger (digits : Nat)
  | badFloat (literal : Text)
  | hugeFloat
  | emptyNumber
  | badTruth (word : Text)
  | badTime
  | timeOfMapping
  | noSuchTime (refusal : Calendar.Refusal)
  | endlessScalar
  deriving DecidableEq, Repr

namespace Error

/-- A quoted literal is cut after 200 characters. -/
def message : Error → String
  | malformed => "malformed document"
  | notUnicode => "invalid UTF-8"
  | badCharacter code =>
    if code < 0x80000000 then "chr() arg not in range(0x110000)"
    else "Python int too large to convert to C int"
  | badInteger base literal =>
    "invalid literal for int() with base " ++ toString base ++ ": " ++
      String.ofList ((Quoted.quote literal).toList.take 200)
  | longInteger digits =>
    "Exceeds the limit (4300 digits) for integer string conversion: value has " ++
      toString digits ++ " digits; use sys.set_int_max_str_digits() to increase the limit"
  | badFloat literal => "could not convert string to float: " ++ Quoted.quote literal
  | hugeFloat => "int too large to convert to float"
  | emptyNumber => "string index out of range"
  | badTruth word => Quoted.quote word
  | badTime => "'NoneType' object has no attribute 'groupdict'"
  | timeOfMapping => "expected string or bytes-like object, got 'list'"
  | noSuchTime refusal => refusal.message
  | endlessScalar => "maximum recursion depth exceeded"

end Error

end Chip8.Yaml
