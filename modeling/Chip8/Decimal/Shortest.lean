/-!
The fewest decimal digits that read back as the same double. A double is `m * 2 ^ q`; the reals that
round to it form an interval, closed if `m` is even. On the decimal grids with one, two and more
digits the two neighbours of the value are tried, and the first grid with a hit wins.
-/

namespace Chip8.Decimal

/-- The positive number `mantissa * 2 ^ exponent`; `narrow` says that the gap below is half as wide
as the gap above. -/
structure Binary where
  mantissa : Nat
  exponent : Int
  narrow : Bool

def Binary.ofFloat (value : Float) : Binary :=
  let bits : Nat := value.toBits.toNat
  let fraction : Nat := bits % 0x10000000000000
  let scale : Nat := bits / 0x10000000000000 % 0x800
  if scale = 0 then ⟨fraction, -1074, false⟩
  else ⟨0x10000000000000 + fraction, (scale : Int) - 1075, fraction = 0 ∧ 1 < scale⟩

/-- The number `digits * 10 ^ exponent`. -/
structure Digits where
  digits : Nat
  exponent : Int
  deriving DecidableEq, Repr

/-- Quarters of the last binary place against a decimal grid: `x` quarters and `c` grid steps are
compared as `x * quarter` and `c * step`. -/
structure Grid where
  quarter : Nat
  step : Nat

def Grid.between (binary : Binary) (exponent : Int) : Grid :=
  let twos := binary.exponent - 2
  ⟨Nat.pow 2 twos.toNat * Nat.pow 10 (-exponent).toNat,
    Nat.pow 10 exponent.toNat * Nat.pow 2 (-twos).toNat⟩

def Grid.hits (grid : Grid) (binary : Binary) (count : Nat) : Bool :=
  let low := (4 * binary.mantissa - if binary.narrow then 1 else 2) * grid.quarter
  let high := (4 * binary.mantissa + 2) * grid.quarter
  let point := count * grid.step
  if binary.mantissa % 2 = 0 then low ≤ point && point ≤ high else low < point && point < high

/-- The nearer of the two neighbours on the grid that round to the number, the even one on a tie. -/
def Grid.nearest? (grid : Grid) (binary : Binary) : Option Nat :=
  let value := 4 * binary.mantissa * grid.quarter
  let below := value / grid.step
  let remainder := value % grid.step
  match grid.hits binary below, grid.hits binary (below + 1) with
  | false, false => none
  | true, false => some below
  | false, true => some (below + 1)
  | true, true =>
    if 2 * remainder < grid.step then some below
    else if grid.step < 2 * remainder then some (below + 1)
    else some (if below % 2 = 0 then below else below + 1)

def Binary.places (binary : Binary) : Int :=
  let grid := Grid.between binary (-400)
  (Nat.toDigits 10 (4 * binary.mantissa * grid.quarter / grid.step)).length - 400

def dropZeros : Nat → Digits → Digits
  | 0, number => number
  | fuel + 1, number =>
    if number.digits % 10 = 0 then dropZeros fuel ⟨number.digits / 10, number.exponent + 1⟩
    else number

/-- Seventeen digits always suffice. -/
def Binary.shortest (binary : Binary) : Digits :=
  let places := binary.places
  let tries := (List.range 17).findSome? fun (extra : Nat) =>
    let exponent := places - (extra + 1)
    ((Grid.between binary exponent).nearest? binary).map fun digits => Digits.mk digits exponent
  dropZeros 17 (tries.getD ⟨0, 0⟩)

end Chip8.Decimal
