namespace Chip8

namespace FileTree

inductive Entry where
  | directory
  | file (bytes : ByteArray)

inductive Refusal where
  | noSuchFile
  | notADirectory
  | isADirectory
  | nameTooLong
  deriving DecidableEq, Repr

def Refusal.code : Refusal → Nat
  | .noSuchFile => 2
  | .notADirectory => 20
  | .isADirectory => 21
  | .nameTooLong => 36

def Refusal.text : Refusal → String
  | .noSuchFile => "No such file or directory"
  | .notADirectory => "Not a directory"
  | .isADirectory => "Is a directory"
  | .nameTooLong => "File name too long"

def maxNameSize : Nat := 255

def maxPathSize : Nat := 4095

/-- The names on the way down from the working directory; `none` is any place outside of it. -/
abbrev Place := Option (List String)

end FileTree

/-- Every entry under its full name. The working directory itself is not listed. -/
structure FileTree where
  entries : List (List String × FileTree.Entry) := []

namespace FileTree

def entry? (tree : FileTree) : Place → Option Entry
  | none => some .directory
  | some [] => some .directory
  | some names => List.lookup names tree.entries

/-- The parts between slashes. A slash at the end asks for a directory, as `.` does. -/
def parts (path : String) : List String :=
  ((path.splitOn "/").zipIdx.map fun part =>
    if part.1 = "" ∧ part.2 ≠ 0 then "." else part.1).filter fun part => part ≠ ""

def below (tree : FileTree) (place : Place) (name : String) : Except Refusal Place :=
  if maxNameSize < name.utf8ByteSize then .error .nameTooLong
  else
    let inner := place.map (· ++ [name])
    match inner, tree.entry? inner with
    | some names, some _ => .ok (some names)
    | _, _ => .error .noSuchFile

def step (tree : FileTree) (place : Place) (part : String) : Except Refusal Place :=
  match tree.entry? place with
  | some .directory =>
    if part = "." then .ok place
    else if part = ".." then
      .ok (match place with
        | some (name :: names) => some (name :: names).dropLast
        | _ => none)
    else tree.below place part
  | some (.file _) => .error .notADirectory
  | none => .error .noSuchFile

def locate (tree : FileTree) (path : String) : Except Refusal Place :=
  if path = "" then .error .noSuchFile
  else if maxPathSize < path.utf8ByteSize then .error .nameTooLong
  else (parts path).foldlM tree.step (if path.startsWith "/" then none else some [])

def read (tree : FileTree) (path : String) : Except Refusal ByteArray := do
  let place ← tree.locate path
  match tree.entry? place with
  | some (.file bytes) => return bytes
  | some .directory => throw .isADirectory
  | none => throw .noSuchFile

def addDirectory (tree : FileTree) (names : List String) : FileTree :=
  let above := (List.range (names.length + 1)).map names.take
  ⟨tree.entries ++ (above.filter fun place => (tree.entry? (some place)).isNone).map
    fun place => (place, .directory)⟩

def addFile (tree : FileTree) (names : List String) (bytes : ByteArray) : FileTree :=
  let tree := tree.addDirectory names.dropLast
  ⟨(names, .file bytes) :: tree.entries⟩

end FileTree

end Chip8
