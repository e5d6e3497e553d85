/-!
Hexadecimal writings of integers. A padded writing is filled up with zeros between the lead
(minus sign and `0x`) and the digits, and the width counts the lead.
-/

namespace Chip8.Hex

def lowerDigits (n : Nat) : List Char := Nat.toDigits 16 n

def upperDigits (n : Nat) : List Char := (lowerDigits n).map Char.toUpper

def signOf (value : Int) : List Char := if value < 0 then ['-'] else []

def fill (lead digits : List Char) (width : Nat) : List Char :=
  lead ++ List.replicate (width - (lead.length + digits.length)) '0' ++ digits

/-- Upper case without `0x`: the form of registers and opcodes. -/
def plain (width : Nat) (value : Int) : String :=
  String.ofList (fill (signOf value) (upperDigits value.natAbs) width)

/-- Lower case after `0x`, six characters at least: the form of addresses. -/
def address (value : Int) : String :=
  String.ofList (fill (signOf value ++ ['0', 'x']) (lowerDigits value.natAbs) 6)

def byte (value : UInt8) : String :=
  String.ofList [Nat.digitChar (value.toNat / 16), Nat.digitChar (value.toNat % 16)]

def bytes (values : List UInt8) : String := String.join (values.map byte)

def spacedBytes (values : List UInt8) : String := " ".intercalate (values.map byte)

theorem length_fill (lead digits : List Char) (width : Nat) :
    (fill lead digits width).length = max width (lead.length + digits.length) := by
  simp only [fill, List.length_append, List.length_replicate]
  omega

end Chip8.Hex
