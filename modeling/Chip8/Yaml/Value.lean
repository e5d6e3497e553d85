import Chip8.Yaml.Scalar
/-!
The values that a document can hold. Most are trees. A value that contains itself is a knot: a
table of values whose parts are given by their numbers in the table.
-/

namespace Chip8.Yaml

/-- A value of a table. Parts that may be collections are numbers. -/
inductive Knotted where
  | scalar (value : Scalar)
  | list (items : List Nat)
  | map (entries : List (Scalar × Nat))
  | set (items : List Scalar)
  | pairs (entries : List (Nat × Nat))

/-- A mapping keeps the order of its keys, no two of which are the same, and a set has no two
elements that are. -/
inductive Value where
  | scalar (value : Scalar)
  | list (items : List Value)
  | map (entries : List (Scalar × Value))
  | set (items : List Scalar)
  | pairs (entries : List (Value × Value))
  | knot (table : Array Knotted) (start : Nat)
  deriving Inhabited

namespace Value

def ofTable (table : Array Knotted) (number : Nat) : Value :=
  match table[number]? with
  | some (.scalar value) => scalar value
  | _ => knot table number

/-- The outermost layer of a knot as it is in trees; trees stay as they are. -/
def unfold : Value → Value
  | knot table start =>
    match table[start]? with
    | some (.scalar value) => scalar value
    | some (.list items) => list (items.map (ofTable table))
    | some (.map entries) => map (entries.map fun entry => (entry.1, ofTable table entry.2))
    | some (.set items) => set items
    | some (.pairs entries) =>
      pairs (entries.map fun entry => (ofTable table entry.1, ofTable table entry.2))
    | none => scalar .null
  | value => value

def field? (entries : List (Scalar × Value)) (name : Text) : Option Value :=
  (entries.find? fun entry => entry.1.same (.text name)).map Prod.snd

def isTruthy (value : Value) : Bool :=
  match value.unfold with
  | scalar value => value.isTruthy
  | list items => !items.isEmpty
  | map entries => !entries.isEmpty
  | set items => !items.isEmpty
  | pairs entries => !entries.isEmpty
  | knot .. => true

def typeName (value : Value) : String :=
  match value.unfold with
  | scalar value => value.typeName
  | list _ | pairs _ => "list"
  | map _ | knot .. => "dict"
  | set _ => "set"

end Value

end Chip8.Yaml
