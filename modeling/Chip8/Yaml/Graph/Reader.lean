import Chip8.Action
import Chip8.Yaml.Graph
import Chip8.Yaml.Plain
import Chip8.Yaml.Token.Lexer

namespace Chip8.Yaml

/-- The tokens to come, what goes wrong behind them, the nodes that have begun, the anchors seen and
the tag handles. -/
structure Reader where
  tokens : List Token
  fault : Error
  nodes : Graph := #[]
  anchors : List (String × Nat) := []
  handles : List (String × String) := []

abbrev Reading (α : Type) := Action Error Reader α

namespace Reader

structure Properties where
  anchor : Option String := none
  tag : Option String := none

def Properties.isEmpty (properties : Properties) : Bool :=
  properties.anchor.isNone && properties.tag.isNone

def plainTag : String := "!"

def peek : Reading Token := do
  let reader ← get
  match reader.tokens with
  | token :: _ => return token
  | [] => throw reader.fault

def drop : Reading Unit := modify fun reader => { reader with tokens := reader.tokens.drop 1 }

def accept (token : Token) : Reading Bool := do
  if (← peek) = token then
    drop
    return true
  else return false

def expect (token : Token) : Reading Unit := do
  if !(← accept token) then throw .malformed

def add (tag : Tag) (content : Content) : Reading Nat := do
  let number := (← get).nodes.size
  modify fun reader => { reader with nodes := reader.nodes.push ⟨tag, content⟩ }
  return number

/-- An anchor's name may be given once. It stands for a collection from its beginning on, before
its parts are known. -/
def declare (anchor : Option String) (number : Nat) : Reading Unit := do
  match anchor with
  | none => pure ()
  | some name =>
    if ((← get).anchors.lookup name).isSome then throw .malformed
    modify fun reader => { reader with anchors := (name, number) :: reader.anchors }

structure WrittenTag where
  handle : Option String
  suffix : String

def WrittenTag.uri (written : WrittenTag) : Reading String := do
  match written.handle with
  | none => return written.suffix
  | some handle =>
    match (← get).handles.lookup handle with
    | some start => return start ++ written.suffix
    | none => throw .malformed

def tag? : Reading (Option WrittenTag) := do
  match ← peek with
  | .tag handle suffix =>
    drop
    return some ⟨handle, suffix⟩
  | _ => return none

def anchor? : Reading (Option String) := do
  match ← peek with
  | .anchor name =>
    drop
    return some name
  | _ => return none

def properties : Reading Properties := do
  match ← anchor? with
  | some name => return ⟨some name, ← (← tag?).mapM WrittenTag.uri⟩
  | none =>
    match ← tag? with
    | some tag => return ⟨← anchor?, some (← tag.uri)⟩
    | none => return {}

/-- A plain text shows its kind; a quoted one is text, unless a tag says otherwise. -/
def scalarTag (tag : Option String) (isPlain : Bool) (text : Text) : Tag :=
  match tag with
  | none => if isPlain then Plain.tagOf text else .text
  | some uri => if uri = plainTag then Plain.tagOf text else Tag.ofUri uri

def collectionTag (tag : Option String) (usual : Tag) : Tag :=
  match tag with
  | none => usual
  | some uri => if uri = plainTag then usual else Tag.ofUri uri

def scalar (properties : Properties) (isPlain : Bool) (text : Text) : Reading Nat := do
  let number ← add (scalarTag properties.tag isPlain text) (.scalar text)
  declare properties.anchor number
  return number

def collection (properties : Properties) (usual : Tag) (content : Reading Content) :
    Reading Nat := do
  let number ← add (collectionTag properties.tag usual) (.sequence [])
  declare properties.anchor number
  let content ← content
  modify fun reader => { reader with nodes := reader.nodes.setContent number content }
  return number

def list (properties : Properties) (items : Reading (List Nat)) : Reading Nat :=
  collection properties .list (items.map Content.sequence)

def map (properties : Properties) (entries : Reading (List (Nat × Nat))) : Reading Nat :=
  collection properties .map (entries.map Content.mapping)

def emptyText : Text := ⟨[]⟩

def empty : Reading Nat := scalar {} true emptyText

def emptyWith (properties : Properties) : Reading Nat :=
  if properties.isEmpty then throw .malformed else scalar properties true emptyText

/-- Where a node stands: whether block collections may begin, and whether the entries of a sequence
may stand at the indentation of the mapping around it. -/
structure Position where
  allowsBlock : Bool
  allowsEntries : Bool := false

def inBlock : Position := ⟨true, false⟩

def inMapping : Position := ⟨true, true⟩

def inFlow : Position := ⟨false, false⟩

mutual

def node (position : Position) : Nat → Reading Nat
  | 0 => throw .malformed
  | fuel + 1 => do
    match ← peek with
    | .alias name =>
      drop
      match (← get).anchors.lookup name with
      | some number => return number
      | none => throw .malformed
    | _ =>
      let properties ← properties
      match ← peek with
      | .blockEntry =>
        if position.allowsEntries then list properties (plainEntries fuel)
        else emptyWith properties
      | .scalar isPlain text =>
        drop
        scalar properties isPlain text
      | .flowSequenceStart =>
        drop
        list properties (flowItems true fuel)
      | .flowMappingStart =>
        drop
        map properties (flowEntries true fuel)
      | .blockSequenceStart =>
        if position.allowsBlock then
          drop
          list properties (blockItems fuel)
        else emptyWith properties
      | .blockMappingStart =>
        if position.allowsBlock then
          drop
          map properties (blockEntries fuel)
        else emptyWith properties
      | _ => emptyWith properties

def nodeUnless (ends : List Token) (position : Position) : Nat → Reading Nat
  | 0 => throw .malformed
  | fuel + 1 => do
    if ends.contains (← peek) then empty else node position fuel

def blockItems : Nat → Reading (List Nat)
  | 0 => throw .malformed
  | fuel + 1 => do
    if ← accept .blockEntry then
      let item ← nodeUnless [.blockEntry, .blockEnd] inBlock fuel
      let rest ← blockItems fuel
      return item :: rest
    else
      expect .blockEnd
      return []

def plainEntries : Nat → Reading (List Nat)
  | 0 => throw .malformed
  | fuel + 1 => do
    if ← accept .blockEntry then
      let item ← nodeUnless [.blockEntry, .key, .value, .blockEnd] inBlock fuel
      let rest ← plainEntries fuel
      return item :: rest
    else return []

def blockEntries : Nat → Reading (List (Nat × Nat))
  | 0 => throw .malformed
  | fuel + 1 => do
    if ← accept .key then
      let key ← nodeUnless [.key, .value, .blockEnd] inMapping fuel
      let value ←
        if ← accept .value then nodeUnless [.key, .value, .blockEnd] inMapping fuel
        else empty
      let rest ← blockEntries fuel
      return (key, value) :: rest
    else
      expect .blockEnd
      return []

def flowPair : Nat → Reading (List (Nat × Nat))
  | 0 => throw .malformed
  | fuel + 1 => do
    let key ← nodeUnless [.value, .flowEntry, .flowSequenceEnd] inFlow fuel
    let value ←
      if ← accept .value then nodeUnless [.flowEntry, .flowSequenceEnd] inFlow fuel
      else empty
    return [(key, value)]

/-- A pair without braces is a mapping of one entry. -/
def flowItems (isFirst : Bool) : Nat → Reading (List Nat)
  | 0 => throw .malformed
  | fuel + 1 => do
    if ← accept .flowSequenceEnd then return []
    else
      if !isFirst then expect .flowEntry
      if ← accept .key then
        let item ← map {} (flowPair fuel)
        let rest ← flowItems false fuel
        return item :: rest
      else if ← accept .flowSequenceEnd then return []
      else
        let item ← node inFlow fuel
        let rest ← flowItems false fuel
        return item :: rest

def flowEntries (isFirst : Bool) : Nat → Reading (List (Nat × Nat))
  | 0 => throw .malformed
  | fuel + 1 => do
    if ← accept .flowMappingEnd then return []
    else
      if !isFirst then expect .flowEntry
      if ← accept .key then
        let key ← nodeUnless [.value, .flowEntry, .flowMappingEnd] inFlow fuel
        let value ←
          if ← accept .value then nodeUnless [.flowEntry, .flowMappingEnd] inFlow fuel
          else empty
        let rest ← flowEntries false fuel
        return (key, value) :: rest
      else if ← accept .flowMappingEnd then return []
      else
        let key ← node inFlow fuel
        let value ← empty
        let rest ← flowEntries false fuel
        return (key, value) :: rest

end

/-- Each directive may be given once, and the version has to be 1. -/
def directives : Nat → Bool → Reading Unit
  | 0, _ => throw .malformed
  | fuel + 1, hasVersion => do
    match ← peek with
    | .version major =>
      if hasVersion || major != 1 then throw .malformed
      drop
      directives fuel true
    | .tagHandle handle start =>
      if ((← get).handles.lookup handle).isSome then throw .malformed
      drop
      modify fun reader => { reader with handles := (handle, start) :: reader.handles }
      directives fuel hasVersion
    | .otherDirective =>
      drop
      directives fuel hasVersion
    | _ => pure ()

def usualHandles : List (String × String) := [("!", "!"), ("!!", Tag.standard)]

def content (fuel : Nat) : Reading Nat := do
  match ← peek with
  | .version _ | .tagHandle .. | .otherDirective | .documentStart | .documentEnd | .streamEnd =>
    empty
  | _ => node inBlock fuel

def skipDocumentEnds : Nat → Reading Unit
  | 0 => pure ()
  | fuel + 1 => do
    if ← accept .documentEnd then skipDocumentEnds fuel

/-- Behind the document nothing may follow, but directives are read before that shows. -/
def finish (fuel : Nat) : Reading Unit := do
  skipDocumentEnds fuel
  if (← peek).isDirective then
    modify fun reader => { reader with handles := [] }
    directives fuel false
    throw .malformed
  expect .streamEnd

def document (fuel : Nat) : Reading (Option Nat) := do
  let first ← peek
  if first = .streamEnd then return none
  if first.isDirective ∨ first = .documentStart then
    directives fuel false
    modify fun reader => { reader with handles := reader.handles ++ usualHandles }
    expect .documentStart
    let root ← content fuel
    finish fuel
    return some root
  modify fun reader => { reader with handles := usualHandles }
  let root ← node inBlock fuel
  finish fuel
  return some root

end Reader

structure Document where
  graph : Graph
  root : Nat

def Document.read (source : Source) : Except Error (Option Document) :=
  let (tokens, error) := Token.scan source
  let fuel := 4 * tokens.length + 4
  match Reader.document fuel { tokens := tokens, fault := error.getD .malformed } with
  | .ok root reader => .ok (root.map fun number => ⟨reader.nodes, number⟩)
  | .error error _ => .error error

end Chip8.Yaml
