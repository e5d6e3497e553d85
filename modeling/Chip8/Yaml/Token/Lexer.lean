import Chip8.Action
import Chip8.Yaml.Token.Property
import Chip8.Yaml.Token.Scalar
/-!
Splitting a text into tokens. Indentation opens and closes block collections. Whether something is
the key of a mapping shows only at the `:` behind it, so the places where a key may have begun are
remembered, one for each depth of flow collections.
-/

namespace Chip8.Yaml

/-- A key that began at the token with number `token` and still waits for its `:`. One that is
`required` has to get it. -/
structure PendingKey where
  depth : Nat
  token : Nat
  required : Bool
  index : Nat
  line : Nat
  column : Nat

/-- `limit` is more than the number of characters. `allowKey` says that a key may begin here. The
first `settled` of the `count` tokens stay as they are, whatever comes next. -/
structure Lexer where
  cursor : Cursor
  limit : Nat
  indent : Int := -1
  outer : List Int := []
  depth : Nat := 0
  allowKey : Bool := true
  pending : List PendingKey := []
  tokens : List Token := []
  count : Nat := tokens.length
  settled : Nat := 0
  count_eq : count = tokens.length := by rfl

abbrev Lexing (α : Type) := Action Error Lexer α

namespace Lexer

def maxKeyLength : Nat := 1024

def push (lexer : Lexer) (token : Token) : Lexer :=
  { lexer with
    tokens := token :: lexer.tokens
    count := lexer.count + 1
    count_eq := by simp [lexer.count_eq] }

def insert (lexer : Lexer) (number : Nat) (tokens : List Token) : Lexer :=
  let later := lexer.count - number
  { lexer with
    tokens := lexer.tokens.take later ++ tokens.reverse ++ lexer.tokens.drop later
    count := lexer.count + tokens.length
    count_eq := by
      have count_eq := lexer.count_eq
      simp only [List.length_append, List.length_take, List.length_drop, List.length_reverse]
      omega }

def unwind (column : Int) (lexer : Lexer) : Lexer :=
  if lexer.depth ≠ 0 then lexer else go lexer.outer lexer
where
  go : List Int → Lexer → Lexer
    | [], lexer => lexer
    | indent :: outer, lexer =>
      if column < lexer.indent then
        go outer { lexer.push .blockEnd with indent := indent, outer := outer }
      else lexer

def indentTo (column : Nat) (lexer : Lexer) : Option Lexer :=
  if lexer.indent < column then
    some { lexer with indent := column, outer := lexer.indent :: lexer.outer }
  else none

def openBlock (token : Token) (lexer : Lexer) : Lexer :=
  match lexer.indentTo lexer.cursor.column with
  | some lexer => lexer.push token
  | none => lexer

def scan {α : Type} (action : Scanning α) : Lexing α :=
  Action.within Lexer.cursor (fun lexer cursor => { lexer with cursor := cursor }) action

def setAllowKey (allowed : Bool) : Lexing Unit :=
  modify fun lexer => { lexer with allowKey := allowed }

/-- Passes spaces, comments and line ends. Behind a line end outside of flow collections a key may
begin. -/
def skipToToken : Nat → Lexing Unit
  | 0 => pure ()
  | fuel + 1 => do
    scan Scanning.skipSpaces
    if (← scan Scanning.peek) = some '#' then scan Scanning.skipLine
    match ← scan Scanning.lineBreak? with
    | none => pure ()
    | some _ =>
      if (← get).depth = 0 then setAllowKey true
      skipToToken fuel

def skipMark : Lexing Unit := do
  if (← get).cursor.index = 0 ∧ (← scan Scanning.peek) = some '\uFEFF' then
    scan (Scanning.advance 1)

def isStale (cursor : Cursor) (key : PendingKey) : Bool :=
  key.line != cursor.line || maxKeyLength + key.index < cursor.index

def dropStale : Lexing Unit := do
  let lexer ← get
  if lexer.pending.any fun key => key.required && isStale lexer.cursor key then throw .malformed
  set { lexer with pending := lexer.pending.filter fun key => !isStale lexer.cursor key }

def dropPending : Lexing Unit := do
  let lexer ← get
  if lexer.pending.any fun key => key.depth == lexer.depth && key.required then throw .malformed
  set { lexer with pending := lexer.pending.filter fun key => key.depth != lexer.depth }

def savePending : Lexing Unit := do
  let lexer ← get
  if lexer.allowKey then
    dropPending
    let cursor := lexer.cursor
    let key : PendingKey :=
      { depth := lexer.depth, token := lexer.count,
        required := lexer.depth == 0 && lexer.indent == cursor.column,
        index := cursor.index, line := cursor.line, column := cursor.column }
    modify fun lexer => { lexer with pending := key :: lexer.pending }

def emit (length : Nat) (token : Token) : Lexing Unit := do
  scan (Scanning.advance length)
  modify fun lexer => lexer.push token

def emitRead (reader : Nat → Scanning Token) : Lexing Unit := do
  let token ← scan (reader (← get).limit)
  modify fun lexer => lexer.push token

def leaveBlocks : Lexing Unit := do
  modify (unwind (-1))
  dropPending
  setAllowKey false

def flowStart (token : Token) : Lexing Unit := do
  savePending
  modify fun lexer => { lexer with depth := lexer.depth + 1, allowKey := true }
  emit 1 token

def flowEnd (token : Token) : Lexing Unit := do
  dropPending
  let lexer ← get
  set { lexer with depth := lexer.depth - 1, allowKey := false }
  emit 1 token
  -- A stray bracket is passed before it is refused.
  if lexer.depth = 0 then throw .malformed

def flowEntry : Lexing Unit := do
  setAllowKey true
  dropPending
  emit 1 .flowEntry

def blockEntry : Lexing Unit := do
  let lexer ← get
  if lexer.depth = 0 then
    if !lexer.allowKey then throw .malformed
    set (lexer.openBlock .blockSequenceStart)
  setAllowKey true
  dropPending
  emit 1 .blockEntry

def bareIndicator (token : Token) : Lexing Unit := do
  let lexer ← get
  if lexer.depth = 0 then
    if !lexer.allowKey then throw .malformed
    set (lexer.openBlock .blockMappingStart)
  setAllowKey (lexer.depth == 0)
  dropPending
  emit 1 token

/-- A `:` makes the key that waits at this depth one, and may open the mapping it belongs to. -/
def valueIndicator : Lexing Unit := do
  let lexer ← get
  match lexer.pending.find? fun key => key.depth == lexer.depth with
  | none => bareIndicator .value
  | some key =>
    let lexer :=
      { lexer with
        pending := lexer.pending.filter fun other => other.depth != lexer.depth
        allowKey := false }
    match if lexer.depth = 0 then lexer.indentTo key.column else none with
    | some lexer => set (lexer.insert key.token [.blockMappingStart, .key])
    | none => set (lexer.insert key.token [.key])
    emit 1 .value

def property (reader : Nat → Scanning Token) : Lexing Unit := do
  savePending
  setAllowKey false
  emitRead reader

def named (token : String → Token) (_ : Nat) : Scanning Token := do
  Scanning.advance 1
  return token (← Scanning.anchorName)

def quoted (quote : Char) (fuel : Nat) : Scanning Token := do
  Scanning.advance 1
  return .scalar false ⟨← Scanning.quotedRest quote fuel⟩

def blockScalar (isFolded : Bool) : Lexing Unit := do
  setAllowKey true
  dropPending
  let parent := (← get).indent
  emitRead fun fuel => do
    Scanning.advance 1
    return .scalar false (.ofChars (← Scanning.block isFolded parent fuel))

def plainScalar : Lexing Unit := do
  savePending
  let lexer ← get
  let found ← scan
    (Scanning.plain (lexer.depth != 0) (lexer.indent + 1) lexer.limit ⟨[], false⟩)
  modify fun lexer =>
    { lexer.push (.scalar true (.ofChars found.text)) with allowKey := found.newLine }

def startsPlain (c : Char) : Lexing Bool := do
  if !(isBlank c || isBreak c || "-?:,[]#&*!|>'\"%@\x60\x7b\x7d".contains c) then return true
  if isGap (← scan (Scanning.peekAt 1)) then return false
  return c == '-' || ((← get).depth == 0 && (c == '?' || c == ':'))

def atMarks (mark c : Char) : Lexing Bool := do
  if c == mark && (← get).cursor.column == 0 then scan (Scanning.atMarks mark) else return false

def isMark (mark c : Char) (needsGap : Bool) : Lexing Bool := do
  if c != mark then return false
  if needsGap then return isGap (← scan (Scanning.peekAt 1)) else return true

def token (c : Char) : Lexing Unit := do
  let inBlock := (← get).depth == 0
  if c == '%' && (← get).cursor.column == 0 then
    leaveBlocks
    emitRead Scanning.directive
  else if ← atMarks '-' c then
    leaveBlocks
    emit 3 .documentStart
  else if ← atMarks '.' c then
    leaveBlocks
    emit 3 .documentEnd
  else if c == '[' then flowStart .flowSequenceStart
  else if c == '\x7b' then flowStart .flowMappingStart
  else if c == ']' then flowEnd .flowSequenceEnd
  else if c == '\x7d' then flowEnd .flowMappingEnd
  else if c == ',' then flowEntry
  else if ← isMark '-' c true then blockEntry
  else if ← isMark '?' c inBlock then bareIndicator .key
  else if ← isMark ':' c inBlock then valueIndicator
  else if c == '*' then property (named .alias)
  else if c == '&' then property (named .anchor)
  else if c == '!' then property Scanning.tag
  else if c == '|' && inBlock then blockScalar false
  else if c == '>' && inBlock then blockScalar true
  else if c == '\x27' || c == '\x22' then property (quoted c)
  else if ← startsPlain c then plainScalar
  else throw .malformed

/-- A key that waits holds back the tokens from its own on. -/
def settle (lexer : Lexer) : Lexer :=
  let waiting := lexer.pending.filter fun key => !isStale lexer.cursor key
  { lexer with
    settled := waiting.foldl (fun first key => min first key.token) lexer.count }

def next : Lexing Bool := do
  dropStale
  modify settle
  skipMark
  skipToToken (← get).limit
  dropStale
  modify fun lexer => lexer.unwind lexer.cursor.column
  match ← scan Scanning.peek with
  | some c =>
    token c
    return true
  | none =>
    leaveBlocks
    modify fun lexer => lexer.push .streamEnd
    return false

def rounds : Nat → Lexing Unit
  | 0 => pure ()
  | fuel + 1 => do
    if ← next then rounds fuel

end Lexer

/-- The tokens of a text. If it goes wrong, those that were settled before, and the fault. -/
def Token.scan (source : Source) : List Token × Option Error :=
  let limit := source.chars.length + 1
  match Lexer.rounds limit { cursor := Cursor.ofSource source, limit := limit } with
  | .ok () lexer => (lexer.tokens.reverse, none)
  | .error error lexer => (lexer.tokens.reverse.take lexer.settled, some error)

end Chip8.Yaml
