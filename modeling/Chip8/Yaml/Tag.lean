namespace Chip8.Yaml

/-- `pairs` are lists of pairs, and `unknown` is every tag that names no kind of value. -/
inductive Tag where
  | null | bool | int | float | timestamp | text | bytes
  | list | map | set | pairs
  | merge | defaultValue
  | unknown
  deriving DecidableEq, Repr

namespace Tag

def standard : String := "tag:yaml.org,2002:"

def named : List (String × Tag) :=
  [("null", null), ("bool", bool), ("int", int), ("float", float), ("timestamp", timestamp),
   ("str", text), ("binary", bytes), ("seq", list), ("map", map), ("set", set), ("omap", pairs),
   ("pairs", pairs), ("merge", merge), ("value", defaultValue)]

def ofUri (uri : String) : Tag :=
  ((named.find? fun entry => standard ++ entry.1 = uri).map Prod.snd).getD unknown

end Tag

end Chip8.Yaml
