import Chip8.Yaml.Graph.Merge
import Chip8.Yaml.Graph.Reader
import Chip8.Yaml.Scalar.Reader
import Chip8.Yaml.Value
import Chip8.Yaml.Value.Slots
/-!
From graphs to values. Scalars are read as soon as they are reached, and collections are filled
later, in the order in which they were reached, so that of several faults the one at the least depth
counts. A node that has several places is read once.
-/

namespace Chip8.Yaml

/-- The nodes, the values found for them, and the collections that are not filled yet, the last one
first. -/
structure Builder where
  nodes : Graph
  table : Array (Option Knotted)
  waiting : List Nat := []

abbrev Building (α : Type) := Action Error Builder α

namespace Builder

def onNodes {α : Type} (action : Merging α) : Building α :=
  Action.within Builder.nodes (fun builder nodes => { builder with nodes := nodes }) action

def store (number : Nat) (value : Knotted) : Building Unit :=
  modify fun builder =>
    { builder with table := builder.table.setIfInBounds number (some value) }

def postpone (number : Nat) (value : Knotted) : Building Unit := do
  store number value
  modify fun builder => { builder with waiting := number :: builder.waiting }

def readScalar (number : Nat) (node : Node) : Building Unit := do
  match (← get).nodes.textOf number with
  | .error error => throw error
  | .ok text =>
    match node.tag, node.content with
    | .timestamp, .mapping _ => throw .timeOfMapping
    | tag, _ =>
      match Scalar.read tag text with
      | .ok value => store number (.scalar value)
      | .error error => throw error

def construct (number : Nat) : Building Unit := do
  let builder ← get
  if ((builder.table[number]?).join).isNone then
    let node := builder.nodes.node number
    match node.tag with
    | .list => postpone number (.list [])
    | .map => postpone number (.map [])
    | .set => postpone number (.set [])
    | .pairs => postpone number (.pairs [])
    | .merge | .defaultValue | .unknown => throw .malformed
    | _ => readScalar number node

/-- A key and where it was read. Two keys that are not numbers are the same only if they come from
one place; their common word counts as one place. -/
structure Key where
  value : Scalar
  origin : Option Nat

def isNotNumber : Scalar → Bool
  | .float value => value.isNaN
  | _ => false

def Key.same (left right : Key) : Bool :=
  left.value.same right.value ||
    (isNotNumber left.value && isNotNumber right.value && left.origin == right.origin)

def originOf (nodes : Graph) (number : Nat) : Option Nat :=
  match nodes.textOf number with
  | .ok text => if Scalar.isNotNumberWord text then none else some number
  | .error _ => some number

def key (number : Nat) : Building Key := do
  construct number
  let builder ← get
  match builder.table[number]? with
  | some (some (.scalar value)) =>
    return ⟨value, if isNotNumber value then originOf builder.nodes number else none⟩
  | _ => throw .malformed

/-- A key that is there already keeps its place and its first spelling, and gets the new value. -/
def insert (entries : List (Key × Nat)) (key : Key) (value : Nat) : List (Key × Nat) :=
  match entries with
  | [] => [(key, value)]
  | (first, old) :: rest =>
    if first.same key then (first, value) :: rest else (first, old) :: insert rest key value

def entriesOf (found : List (Key × Nat)) : List (Nat × Nat) → Building (List (Key × Nat))
  | [] => return found
  | (name, value) :: rest => do
    let key ← key name
    construct value
    entriesOf (insert found key value) rest

def mapping (number : Nat) : Building (List (Key × Nat)) := do
  match (← get).nodes.content number with
  | .mapping _ =>
    onNodes (Graph.resolveMerges number)
    entriesOf [] ((← get).nodes.entries number)
  | _ => throw .malformed

def sequence (number : Nat) : Building (List Nat) := do
  match (← get).nodes.content number with
  | .sequence items => return items
  | _ => throw .malformed

def pair (number : Nat) : Building (Nat × Nat) := do
  match (← get).nodes.content number with
  | .mapping [(first, second)] =>
    construct first
    construct second
    return (first, second)
  | _ => throw .malformed

def fill (number : Nat) : Building Unit := do
  match (← get).nodes.tag number with
  | .list =>
    let items ← sequence number
    items.forM construct
    store number (.list items)
  | .pairs => store number (.pairs (← (← sequence number).mapM pair))
  | .set =>
    let found ← mapping number
    store number (.set (Slots.order (found.map fun entry => entry.1.value)))
  | _ =>
    let found ← mapping number
    store number (.map (found.map fun entry => (entry.1.value, entry.2)))

def fillAll : Nat → Building Unit
  | 0 => pure ()
  | fuel + 1 => do
    let round := (← get).waiting.reverse
    if round.isEmpty then return
    -- What this round leaves waiting comes in the next one.
    modify fun builder => { builder with waiting := [] }
    round.forM fill
    fillAll fuel

/-- Every node waits once at most. -/
def build (root : Nat) : Building Unit := do
  construct root
  fillAll ((← get).nodes.size + 1)

end Builder

namespace Value

abbrev Found := Array (Option Value)

/-- The tree of a value that does not contain itself; such a tree is lower than the table is
long. -/
def tree? (table : Array Knotted) : Nat → Nat → StateT Found Option Value
  | 0, _ => failure
  | height + 1, number => do
    match ((← get)[number]?).join with
    | some value => return value
    | none =>
      let value ← match table[number]? with
        | some (.scalar value) => pure (scalar value)
        | some (.list items) => list <$> items.mapM (tree? table height)
        | some (.map entries) =>
          map <$> entries.mapM fun entry => do
            return (entry.1, ← tree? table height entry.2)
        | some (.set items) => pure (set items)
        | some (.pairs entries) =>
          pairs <$> entries.mapM fun entry => do
            let first ← tree? table height entry.1
            let second ← tree? table height entry.2
            return (first, second)
        | none => pure (scalar .null)
      modify fun found => found.setIfInBounds number (some value)
      return value

def ofRoot (table : Array Knotted) (root : Nat) : Value :=
  match tree? table (table.size + 1) root (Array.replicate table.size none) with
  | some (value, _) => value
  | none => ofTable table root

def ofDocument (document : Document) : Except Error Value :=
  let start : Builder :=
    { nodes := document.graph, table := Array.replicate document.graph.size none }
  match Builder.build document.root start with
  | .ok () builder =>
    .ok (ofRoot (builder.table.map fun value => value.getD (.scalar .null)) document.root)
  | .error error _ => .error error

def parse (bytes : List UInt8) : Except Error Value := do
  match ← Document.read (Source.ofBytes bytes) with
  | none => return scalar .null
  | some document => ofDocument document

end Value

end Chip8.Yaml
