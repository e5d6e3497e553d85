import Chip8.Text.Numeral
import Chip8.Yaml.Cursor
import Chip8.Yaml.Token

namespace Chip8.Yaml.Scanning

def endsName (c : Option Char) : Bool :=
  isGap c || c.any (['?', ':', ',', ']', '\x7d', '%', '@', '\x60'].contains ·)

def anchorName : Scanning String := do
  let name ← span isWordChar
  if name.isEmpty || !endsName (← peek) then throw .malformed
  return String.ofList name

def isUriChar (c : Char) : Bool := c.isAlphanum || "-;/?:@&=+$,_.!~*'()[]".contains c

def uriEscapes : Nat → Scanning (List UInt8)
  | 0 => throw .malformed
  | fuel + 1 => do
    if (← peek) = some '%' then
      advance 1
      let code ← hexCode 2
      advance 2
      let bytes ← uriEscapes fuel
      return UInt8.ofNat code :: bytes
    else return []

/-- Escaped bytes have to be UTF-8 as a run. -/
def uriPieces : Nat → Scanning String
  | 0 => throw .malformed
  | fuel + 1 => do
    let chars ← span isUriChar
    if !chars.isEmpty then
      let rest ← uriPieces fuel
      return String.ofList chars ++ rest
    else if (← peek) = some '%' then
      let bytes ← uriEscapes fuel
      match String.fromUTF8? ⟨bytes.toArray⟩ with
      | none => throw .malformed
      | some text =>
        let rest ← uriPieces fuel
        return text ++ rest
    else return ""

def uri (fuel : Nat) : Scanning String := do
  let text ← uriPieces fuel
  if text = "" then throw .malformed
  return text

def tagHandle : Scanning String := do
  if (← peek) ≠ some '!' then throw .malformed
  if (← peekAt 1) = some ' ' then
    advance 1
    return "!"
  advance 1
  let name ← span isWordChar
  if (← peek) ≠ some '!' then throw .malformed
  advance 1
  return String.ofList ('!' :: name ++ ['!'])

def hasHandle : Scanning Bool := do
  let isInside (c : Char) : Bool := !isSpaceGap (some c) && c != '!'
  let length := ((← get).rest.drop 1).takeWhile isInside |>.length
  return (← peekAt (length + 1)) = some '!'

def tag (fuel : Nat) : Scanning Token := do
  let following ← peekAt 1
  let token ←
    if following = some '<' then do
      advance 2
      let suffix ← uri fuel
      if (← peek) ≠ some '>' then throw .malformed
      advance 1
      pure (Token.tag none suffix)
    else if isGap following then do
      advance 1
      pure (Token.tag none "!")
    else if ← hasHandle then do
      let handle ← tagHandle
      let suffix ← uri fuel
      pure (Token.tag (some handle) suffix)
    else do
      advance 1
      let suffix ← uri fuel
      pure (Token.tag (some "!") suffix)
  if !isSpaceGap (← peek) then throw .malformed
  return token

def decimal : Scanning Nat := do
  let length ← measure Char.isDigit
  if length = 0 then throw .malformed
  let digits := (← get).rest.take length
  if Numeral.maxDigits < length then throw (.longInteger length)
  advance length
  return digits.foldl (fun number c => number * 10 + (c.toNat - '0'.toNat)) 0

/-- Major and minor number; only the major one matters. -/
def versionNumber : Scanning Token := do
  skipSpaces
  let major ← decimal
  if (← peek) ≠ some '.' then throw .malformed
  advance 1
  let _ ← decimal
  if !isSpaceGap (← peek) then throw .malformed
  return .version major

def tagDeclaration (fuel : Nat) : Scanning Token := do
  skipSpaces
  let handle ← tagHandle
  if (← peek) ≠ some ' ' then throw .malformed
  skipSpaces
  let start ← uri fuel
  if !isSpaceGap (← peek) then throw .malformed
  return .tagHandle handle start

def directive (fuel : Nat) : Scanning Token := do
  advance 1
  let name ← span isWordChar
  if name.isEmpty || !isSpaceGap (← peek) then throw .malformed
  let token ←
    match String.ofList name with
    | "YAML" => versionNumber
    | "TAG" => tagDeclaration fuel
    | _ => do
      skipLine
      pure Token.otherDirective
  finishLine
  return token

end Chip8.Yaml.Scanning
