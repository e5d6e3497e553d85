import Chip8.Text

namespace Chip8

/-- Pairs of a host key's name and a key number; no name occurs twice. -/
abbrev KeyMap := List (Text × Int)

namespace KeyMap

def get? (keyMap : KeyMap) (name : Text) : Option Int := List.lookup name keyMap

/-- A name that is there already keeps its place. -/
def insert (keyMap : KeyMap) (name : Text) (key : Int) : KeyMap :=
  match keyMap with
  | [] => [(name, key)]
  | (first, old) :: rest =>
    if first = name then (name, key) :: rest else (first, old) :: insert rest name key

theorem get?_insert (keyMap : KeyMap) (name other : Text) (key : Int) :
    (keyMap.insert name key).get? other = if other = name then some key else keyMap.get? other := by
  induction keyMap with
  | nil =>
    by_cases same : other = name
    · simp [insert, get?, same]
    · have differs : (other == name) = false := beq_eq_false_iff_ne.mpr same
      simp [insert, get?, List.lookup_cons, same, differs]
  | cons entry rest ih =>
    obtain ⟨first, old⟩ := entry
    simp only [get?] at ih
    by_cases same : other = first
    · subst same
      by_cases here : other = name <;> simp [insert, get?, here]
    · have differs : (other == first) = false := beq_eq_false_iff_ne.mpr same
      by_cases here : first = name
      · simp [insert, get?, List.lookup_cons, here, here ▸ same, here ▸ differs]
      · simp [insert, get?, List.lookup_cons, here, differs, ih]

def sorted (keyMap : KeyMap) : KeyMap := keyMap.mergeSort fun left right => left.1.isAtMost right.1

def default : KeyMap :=
  [("X", 0x0), ("1", 0x1), ("2", 0x2), ("3", 0x3),
   ("Q", 0x4), ("W", 0x5), ("E", 0x6), ("A", 0x7),
   ("S", 0x8), ("D", 0x9), ("Z", 0xA), ("C", 0xB),
   ("4", 0xC), ("R", 0xD), ("F", 0xE), ("V", 0xF)]

def defaultQuitKey : Text := "Escape"

end KeyMap

end Chip8
