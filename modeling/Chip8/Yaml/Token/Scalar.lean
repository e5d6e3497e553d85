import Chip8.Text
import Chip8.Yaml.Cursor

namespace Chip8.Yaml.Scanning

/-- What a line break and the empty lines behind it stand for. -/
def fold (lineBreak : Char) (breaks : List Char) : List Char :=
  if lineBreak ≠ '\n' then lineBreak :: breaks
  else if breaks.isEmpty then [' '] else breaks

def isFlowMark (c : Char) : Bool := [',', '[', ']', '\x7b', '\x7d'].contains c

def plainLength (inFlow : Bool) : List Char → Nat
  | [] => 0
  | c :: rest =>
    let endsKey := c == ':' && (isGap rest.head? || (inFlow && rest.head?.any isFlowMark))
    let endsFlow := inFlow && (isFlowMark c || c == '?')
    if isBlank c || isBreak c || endsKey || endsFlow then 0 else plainLength inFlow rest + 1

/-- A piece of a plain scalar without a gap. What follows a `:` decides whether the piece ends. -/
def plainPiece (inFlow : Bool) : Scanning (List Char) := do
  let rest := (← get).rest
  let length := plainLength inFlow rest
  if (← peekAt length) = some ':' then
    let _ ← peekAt (length + 1)
  advance length
  return rest.take length

def plainBreaks : Nat → Scanning (Option (List Char))
  | 0 => return some []
  | fuel + 1 => do
    skipSpaces
    match ← lineBreak? with
    | none => return some []
    | some lineBreak =>
      if ← atDocumentMark then return none
      let breaks ← plainBreaks fuel
      return breaks.map (lineBreak :: ·)

structure Separation where
  text : List Char
  newLine : Bool

def plainSeparation (fuel : Nat) : Scanning Separation := do
  let spaces ← span (· == ' ')
  match ← lineBreak? with
  | none => return ⟨spaces, false⟩
  | some lineBreak =>
    if ← atDocumentMark then return ⟨[], true⟩
    match ← plainBreaks fuel with
    | none => return ⟨[], true⟩
    | some breaks => return ⟨fold lineBreak breaks, true⟩

/-- A plain scalar goes on over lines that are indented by `indent` at least. `before` separates it
from the piece before, and the answer's `newLine` says whether a line ended behind it. -/
def plain (inFlow : Bool) (indent : Int) : Nat → Separation → Scanning Separation
  | 0, before => return before
  | fuel + 1, before => do
    if (← peek) = some '#' then return ⟨[], before.newLine⟩
    let piece ← plainPiece inFlow
    if piece.isEmpty then return ⟨[], before.newLine⟩
    let behind ← plainSeparation fuel
    let text := before.text ++ piece
    if behind.text.isEmpty || (← peek) = some '#' || (!inFlow && (← column) < indent) then
      return ⟨text, behind.newLine⟩
    let more ← plain inFlow indent fuel behind
    return ⟨text ++ more.text, more.newLine⟩

def escaped? : Char → Option Char
  | '0' => some '\x00'
  | 'a' => some '\x07'
  | 'b' => some '\x08'
  | 't' => some '\t'
  | '\t' => some '\t'
  | 'n' => some '\n'
  | 'v' => some '\x0b'
  | 'f' => some '\x0c'
  | 'r' => some '\r'
  | 'e' => some '\x1b'
  | ' ' => some ' '
  | '\x22' => some '\x22'
  | '\\' => some '\\'
  | '/' => some '/'
  | 'N' => some '\x85'
  | '_' => some '\xa0'
  | 'L' => some '\u2028'
  | 'P' => some '\u2029'
  | _ => none

def escapeWidth? : Char → Option Nat
  | 'x' => some 2
  | 'u' => some 4
  | 'U' => some 8
  | _ => none

def numericEscape (width : Nat) : Scanning CodePoint := do
  let code ← hexCode width
  match CodePoint.ofNat? code with
  | none => throw (.badCharacter code)
  | some point =>
    advance width
    return point

def quotedBreaks : Nat → Scanning (List Char)
  | 0 => throw .malformed
  | fuel + 1 => do
    if ← atDocumentMark then throw .malformed
    let _ ← span isBlank
    match ← lineBreak? with
    | none => return []
    | some lineBreak =>
      let breaks ← quotedBreaks fuel
      return lineBreak :: breaks

def quotedGap (fuel : Nat) : Scanning (List Char) := do
  let blanks ← span isBlank
  if (← peek).isNone then throw .malformed
  match ← lineBreak? with
  | none => return blanks
  | some lineBreak => return fold lineBreak (← quotedBreaks fuel)

def escape (fuel : Nat) : Scanning (List CodePoint) := do
  match ← peek with
  | none => throw .malformed
  | some c =>
    match escaped? c, escapeWidth? c with
    | some meant, _ =>
      advance 1
      return [.char meant]
    | none, some width =>
      advance 1
      return [← numericEscape width]
    | none, none =>
      if !isBreak c then throw .malformed
      let _ ← lineBreak?
      return (← quotedBreaks fuel).map .char

/-- The inside of a quoted scalar up to its closing quote, which is passed. In single quotes a quote
is written twice. -/
def quotedRest (quote : Char) : Nat → Scanning (List CodePoint)
  | 0 => throw .malformed
  | fuel + 1 => do
    match ← peek with
    | none => throw .malformed
    | some c =>
      if c = quote then
        if quote = '\x27' ∧ (← peekAt 1) = some '\x27' then
          advance 2
          return .char '\x27' :: (← quotedRest quote fuel)
        else
          advance 1
          return []
      else if c = '\\' ∧ quote = '\x22' then
        advance 1
        let piece ← escape fuel
        return piece ++ (← quotedRest quote fuel)
      else if isBlank c || isBreak c then
        let piece ← quotedGap fuel
        return piece.map .char ++ (← quotedRest quote fuel)
      else
        advance 1
        return .char c :: (← quotedRest quote fuel)

inductive Chomping where
  | strip
  | clip
  | keep
  deriving DecidableEq

def chomping? : Scanning (Option Chomping) := do
  match ← peek with
  | some '+' =>
    advance 1
    return some .keep
  | some '-' =>
    advance 1
    return some .strip
  | _ => return none

def indentDigit? : Scanning (Option Nat) := do
  match ← peek with
  | some c =>
    if !c.isDigit then return none
    if c = '0' then throw .malformed
    advance 1
    return some (c.toNat - '0'.toNat)
  | none => return none

def blockHeader : Scanning (Chomping × Option Nat) := do
  let indicators ←
    match ← chomping? with
    | some chomping => pure (chomping, ← indentDigit?)
    | none => do
      match ← indentDigit? with
      | none => pure (.clip, none)
      | some digit => pure ((← chomping?).getD .clip, some digit)
  if !isSpaceGap (← peek) then throw .malformed
  finishLine
  return indicators

def blockIndentation : Nat → Nat → Scanning (List Char × Nat)
  | 0, deepest => return ([], deepest)
  | fuel + 1, deepest => do
    skipSpaces
    let deepest := max deepest (← column)
    match ← lineBreak? with
    | none => return ([], deepest)
    | some lineBreak =>
      let (breaks, deepest) ← blockIndentation fuel deepest
      return (lineBreak :: breaks, deepest)

def skipIndent (indent : Nat) : Scanning Unit := do
  let cursor ← get
  advance ((cursor.rest.take (indent - cursor.column)).takeWhile (· == ' ')).length

def blockBreaks (indent : Nat) : Nat → Scanning (List Char)
  | 0 => return []
  | fuel + 1 => do
    skipIndent indent
    match ← lineBreak? with
    | none => return []
    | some lineBreak =>
      let breaks ← blockBreaks indent fuel
      return lineBreak :: breaks

def atBlockLine (indent : Nat) : Scanning Bool := do
  let column ← column
  return column = indent && (← peek).isSome

/-- The text of a block scalar, its last line break, and the empty lines behind it. -/
structure BlockText where
  text : List Char := []
  lastBreak : List Char := []
  trailing : List Char := []

def blockLines (isFolded : Bool) (indent : Nat) : Nat → Scanning BlockText
  | 0 => return {}
  | fuel + 1 => do
    let isFlush := !(← peek).any isBlank
    let line ← span fun c => !isBreak c
    let lineBreak := (← lineBreak?).toList
    let breaks ← blockBreaks indent fuel
    if ← atBlockLine indent then
      let joins := isFolded && lineBreak == ['\n'] && isFlush && !(← peek).any isBlank
      let joint := if !joins then lineBreak else if breaks.isEmpty then [' '] else []
      let later ← blockLines isFolded indent fuel
      return { later with text := line ++ joint ++ breaks ++ later.text }
    else return ⟨line, lineBreak, breaks⟩

/-- A block scalar inside a collection indented by `parent`; its `|` or `>` is passed already. -/
def block (isFolded : Bool) (parent : Int) (fuel : Nat) : Scanning (List Char) := do
  let (chomping, digit) ← blockHeader
  let least := (max (parent + 1) 1).toNat
  let (breaks, indent) ←
    match digit with
    | some digit => do
      let indent := least + digit - 1
      pure (← blockBreaks indent fuel, indent)
    | none => do
      let (breaks, deepest) ← blockIndentation fuel 0
      pure (breaks, max least deepest)
  let found ←
    if ← atBlockLine indent then do
      let found ← blockLines isFolded indent fuel
      pure { found with text := breaks ++ found.text }
    else pure { trailing := breaks }
  return match chomping with
    | .strip => found.text
    | .clip => found.text ++ found.lastBreak
    | .keep => found.text ++ found.lastBreak ++ found.trailing

end Chip8.Yaml.Scanning
