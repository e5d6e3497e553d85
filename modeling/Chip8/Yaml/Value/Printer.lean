import Chip8.Text.Numeral
import Chip8.Text.Quoted
import Chip8.Yaml.Value

namespace Chip8.Yaml

namespace Scalar

/-- Plain for numbers from 0.0001 up to sixteen digits before the point, and with an exponent of at
least two digits beyond. -/
def digitsText (number : Decimal.Digits) : String :=
  let digits := Nat.toDigits 10 number.digits
  let count : Int := digits.length
  let places := count + number.exponent
  if -3 ≤ places ∧ places ≤ 16 then
    if places ≤ 0 then String.ofList ('0' :: '.' :: List.replicate (-places).toNat '0' ++ digits)
    else if count ≤ places then
      String.ofList (digits ++ List.replicate (places - count).toNat '0' ++ ['.', '0'])
    else String.ofList (digits.take places.toNat ++ '.' :: digits.drop places.toNat)
  else
    let exponent := places - 1
    let shown := Calendar.padded 2 exponent.natAbs
    String.ofList (digits.take 1 ++ if count = 1 then [] else '.' :: digits.drop 1) ++
      "e" ++ (if exponent < 0 then "-" else "+") ++ shown

def floatText (value : Float) : String :=
  if value.isNaN then "nan"
  else
    let isNegative := value.toBits >>> 63 == 1
    let magnitude :=
      if value.isInf then "inf"
      else if value == 0 then "0.0"
      else digitsText (Decimal.Binary.ofFloat value).shortest
    if isNegative then "-" ++ magnitude else magnitude

def quoted? : Scalar → Option String
  | null => some "None"
  | bool value => some (if value then "True" else "False")
  | int value => Numeral.decimal? value
  | float value => some (floatText value)
  | text value => some (Quoted.quote value)
  | bytes value => some (Quoted.quoteBytes value)
  | date value => some value.call
  | moment value => some value.call

def text? : Scalar → Option Text
  | text value => some value
  | date value => some value.text
  | moment value => some value.text
  | value => value.quoted?.map Text.ofString

end Scalar

namespace Value

def listed (items : List String) : String := "[" ++ ", ".intercalate items ++ "]"

def braced (items : List String) : String := "\x7b" ++ ", ".intercalate items ++ "\x7d"

def entryText (name content : String) : String := name ++ ": " ++ content

def pairText (first second : String) : String := "(" ++ first ++ ", " ++ second ++ ")"

def setText? (items : List Scalar) : Option String :=
  if items.isEmpty then some "set()" else (items.mapM Scalar.quoted?).map braced

/-- The texts of a knot's values; `path` holds the numbers of the collections around, and the last
argument exceeds how many there can still be inside. -/
def knotText? (table : Array Knotted) (path : List Nat) : Nat → Nat → Option String
  | 0, _ => none
  | fuel + 1, number =>
    let inner := knotText? table (number :: path) fuel
    let isInside := path.contains number
    match table[number]? with
    | none => Scalar.null.quoted?
    | some (.scalar value) => value.quoted?
    | some (.set items) => setText? items
    | some (.list items) => if isInside then some "[...]" else (items.mapM inner).map listed
    | some (.map entries) =>
      if isInside then some "\x7b...\x7d"
      else
        (entries.mapM fun (entry : Scalar × Nat) => do
          return entryText (← entry.1.quoted?) (← inner entry.2)).map braced
    | some (.pairs entries) =>
      if isInside then some "[...]"
      else
        (entries.mapM fun (entry : Nat × Nat) => do
          return pairText (← inner entry.1) (← inner entry.2)).map listed

mutual

def quoted? : Value → Option String
  | scalar value => value.quoted?
  | list items => (itemTexts? items).map listed
  | map entries => (entryTexts? entries).map braced
  | set items => setText? items
  | pairs entries => (pairTexts? entries).map listed
  | knot table start => knotText? table [] (table.size + 1) start

def itemTexts? : List Value → Option (List String)
  | [] => some []
  | item :: rest => do
    let first ← quoted? item
    let others ← itemTexts? rest
    return first :: others

def entryTexts? : List (Scalar × Value) → Option (List String)
  | [] => some []
  | (key, value) :: rest => do
    let name ← key.quoted?
    let content ← quoted? value
    let others ← entryTexts? rest
    return entryText name content :: others

def pairTexts? : List (Value × Value) → Option (List String)
  | [] => some []
  | (one, other) :: rest => do
    let first ← quoted? one
    let second ← quoted? other
    let others ← pairTexts? rest
    return pairText first second :: others

end

def text? : Value → Option Text
  | scalar value => value.text?
  | value => value.quoted?.map Text.ofString

end Value

end Chip8.Yaml
