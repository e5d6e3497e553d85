import Chip8.Action
import Chip8.Yaml.Error
import Chip8.Yaml.Graph
/-!
Merge keys. A mapping takes in the entries of the mappings that its merge keys name, before its own;
afterwards it has no merge keys. A mapping may name itself, or one that names it in turn.
-/

namespace Chip8.Yaml

abbrev Merging (α : Type) := Action Error Graph α

namespace Graph

def isMapping (graph : Graph) (number : Nat) : Bool :=
  match graph.content number with
  | .mapping _ => true
  | _ => false

def splitAtMerge (graph : Graph) (entries : List (Nat × Nat)) :
    List (Nat × Nat) × List (Nat × Nat) :=
  entries.span fun entry => graph.tag entry.1 != .merge

def nameDefault (graph : Graph) (key : Nat) : Graph :=
  if graph.tag key = .defaultValue then graph.setTag key .text else graph

def entryCount (graph : Graph) : Nat :=
  graph.foldl
    (fun count node =>
      match node.content with
      | .mapping entries => count + entries.length
      | _ => count)
    0

mutual

/-- Takes in what the merge keys of a mapping name. Each of them is gone before its value is looked
at, so that no more than `entryCount` of them lie inside each other. -/
def merge (number : Nat) : Nat → Merging Unit
  | 0 => throw .malformed
  | fuel + 1 => do
    let merged ← mergeFrom number 0 fuel
    if !merged.isEmpty then
      modify fun graph => graph.setContent number (.mapping (merged ++ graph.entries number))

def mergeFrom (number position : Nat) : Nat → Merging (List (Nat × Nat))
  | 0 => throw .malformed
  | fuel + 1 => do
    let entries := (← get).entries number
    let (own, later) := (← get).splitAtMerge (entries.drop position)
    modify fun graph => own.foldl (fun graph entry => graph.nameDefault entry.1) graph
    let next := position + own.length
    match later with
    | [] => return []
    | (_, source) :: rest =>
      -- The key is gone before its value is looked at, which may lead back here.
      modify fun graph => graph.setContent number (.mapping (entries.take next ++ rest))
      let first ← mergeSource source fuel
      let others ← mergeFrom number next fuel
      return first ++ others

/-- What one merge key brings in: the entries of a mapping, or of several, the last ones first. -/
def mergeSource (source : Nat) : Nat → Merging (List (Nat × Nat))
  | 0 => throw .malformed
  | fuel + 1 => do
    match (← get).content source with
    | .mapping _ =>
      merge source fuel
      return (← get).entries source
    | .sequence items =>
      let found ← items.mapM fun item => do
        if !(← get).isMapping item then throw Error.malformed
        merge item fuel
        return (← get).entries item
      return found.reverse.flatten
    | .scalar _ => throw .malformed

end

def resolveMerges (number : Nat) : Merging Unit := do
  merge number (3 * ((← get).entryCount + 1))

def scalarText (graph : Graph) (number : Nat) : Nat → Except Error Text
  | 0 => .error .endlessScalar
  | fuel + 1 =>
    match graph.content number with
    | .scalar text => .ok text
    | .sequence _ => .error .malformed
    | .mapping entries =>
      match entries.find? fun entry => graph.tag entry.1 == .defaultValue with
      | some (_, value) => graph.scalarText value fuel
      | none => .error .malformed

/-- More steps than there are nodes never end. -/
def textOf (graph : Graph) (number : Nat) : Except Error Text :=
  graph.scalarText number (graph.size + 1)

end Graph

end Chip8.Yaml
