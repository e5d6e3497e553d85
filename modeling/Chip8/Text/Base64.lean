namespace Chip8.Base64

def digit? (c : Char) : Option Nat :=
  if 'A' ≤ c ∧ c ≤ 'Z' then some (c.toNat - 'A'.toNat)
  else if 'a' ≤ c ∧ c ≤ 'z' then some (c.toNat - 'a'.toNat + 26)
  else if '0' ≤ c ∧ c ≤ '9' then some (c.toNat - '0'.toNat + 52)
  else if c = '+' then some 62
  else if c = '/' then some 63
  else none

/-- Whether `pads` signs of padding in a row complete a group that has this many digits. -/
def completes (digits pads : Nat) : Bool := 2 ≤ digits && 4 ≤ digits + pads

/-- The digits up to the padding that completes a group; `none` if the last group stays open.
`inGroup` counts the digits of the group at hand, `pads` the signs of padding right before. -/
def digits? (inGroup pads : Nat) : List Char → Option (List Nat)
  | [] => if inGroup = 0 then some [] else none
  | c :: rest =>
    if c = '=' then
      let counted := if 2 ≤ inGroup then pads + 1 else pads
      if completes inGroup counted then some [] else digits? inGroup counted rest
    else
      match digit? c with
      | none => digits? inGroup pads rest
      | some digit => (digits? ((inGroup + 1) % 4) 0 rest).map (digit :: ·)

def bytes : List Nat → List UInt8
  | a :: b :: c :: d :: rest =>
    UInt8.ofNat (a * 4 + b / 16) :: UInt8.ofNat (b % 16 * 16 + c / 4) ::
      UInt8.ofNat (c % 4 * 64 + d) :: bytes rest
  | [a, b, c] => [UInt8.ofNat (a * 4 + b / 16), UInt8.ofNat (b % 16 * 16 + c / 4)]
  | [a, b] => [UInt8.ofNat (a * 4 + b / 16)]
  | _ => []

def decode? (text : List Char) : Option (List UInt8) := (digits? 0 0 text).map bytes

end Chip8.Base64
