namespace Chip8.Decimal

/-- The double nearest to `digits * 10 ^ exponent`. Beyond a few hundred places nothing but zero or
infinity is left. -/
def toDouble (digits : Nat) (exponent : Int) : Float :=
  let places := (Nat.toDigits 10 digits).length + exponent
  if digits = 0 ∨ places < -400 then 0.0
  else if 400 < places then 1.0 / 0.0
  else if exponent < 0 then Float.ofScientific digits true exponent.natAbs
  else Float.ofScientific digits false exponent.natAbs

def natOf (digits : List Char) : Nat :=
  digits.foldl (fun total c => total * 10 + (c.toNat - '0'.toNat)) 0

def exponent? : List Char → Option Int
  | [] => some 0
  | e :: rest =>
    if e = 'e' ∨ e = 'E' then
      let digits := match rest with
        | '+' :: digits => digits
        | '-' :: digits => digits
        | digits => digits
      if digits.isEmpty ∨ ¬ digits.all Char.isDigit then none
      else some (if rest.head? = some '-' then -(natOf digits : Int) else natOf digits)
    else none

def unsigned? (text : List Char) : Option Float :=
  let whole := text.takeWhile Char.isDigit
  let (fraction, tail) := match text.dropWhile Char.isDigit with
    | '.' :: rest => (rest.takeWhile Char.isDigit, rest.dropWhile Char.isDigit)
    | rest => ([], rest)
  if whole.isEmpty ∧ fraction.isEmpty then none
  else (exponent? tail).map fun exponent =>
    toDouble (natOf (whole ++ fraction)) (exponent - fraction.length)

def infinity : Float := 1.0 / 0.0

def notANumber : Float := 0.0 / 0.0

/-- The words for infinity and for what is no number count as magnitudes. -/
def magnitude? (text : List Char) : Option Float :=
  let word := String.ofList (text.map Char.toLower)
  if word = "inf" ∨ word = "infinity" then some infinity
  else if word = "nan" then some notANumber
  else unsigned? text

def read? : List Char → Option Float
  | '-' :: rest => (magnitude? rest).map fun magnitude => -magnitude
  | '+' :: rest => magnitude? rest
  | text => magnitude? text

end Chip8.Decimal
