import Chip8.Text
import Chip8.Text.Hex
import Chip8.Text.Printable

namespace Chip8.Quoted

def isIn (c : Char) (text : Text) : Bool := text.points.contains (.char c)

def quoteFor (text : Text) : Char :=
  if isIn '\x27' text && !isIn '\x22' text then '\x22' else '\x27'

def padded (width : Nat) (code : Nat) : List Char := Hex.fill [] (Hex.lowerDigits code) width

def escape (quote c : Char) : List Char :=
  if c = quote ∨ c = '\\' then ['\\', c]
  else if c = '\t' then ['\\', 't']
  else if c = '\n' then ['\\', 'n']
  else if c = '\r' then ['\\', 'r']
  else if Text.isPrintable c then [c]
  else if c.toNat ≤ 0xFF then '\\' :: 'x' :: padded 2 c.toNat
  else if c.toNat ≤ 0xFFFF then '\\' :: 'u' :: padded 4 c.toNat
  else '\\' :: 'U' :: padded 8 c.toNat

def escapePoint (quote : Char) : CodePoint → List Char
  | .char c => escape quote c
  | .half code _ => '\\' :: 'u' :: padded 4 code

def quote (text : Text) : String :=
  let mark := quoteFor text
  String.ofList (mark :: text.points.flatMap (escapePoint mark) ++ [mark])

def escapeByte (quote : Char) (byte : UInt8) : List Char :=
  let c := Char.ofNat byte.toNat
  if c.toNat < 0x7F then escape quote c else '\\' :: 'x' :: padded 2 c.toNat

def quoteBytes (bytes : List UInt8) : String :=
  let mark := quoteFor (.ofChars (bytes.map fun byte => Char.ofNat byte.toNat))
  String.ofList ('b' :: mark :: bytes.flatMap (escapeByte mark) ++ [mark])

end Chip8.Quoted
