import Chip8.Fault
import Chip8.FileTree
import Chip8.Yaml.Error

namespace Chip8.Config

inductive Error where
  | unreadable (path : String) (cause : FileTree.Refusal)
  /-- The parser's own account of what is malformed, which the report appends, is left out. -/
  | invalidDocument (path : String)
  | notMapping
  | keyOutOfRange (name : Text) (key : Int)
  | notInteger (value : Text)
  | notPositive
  | keyMapType (typeName : String)
  | longInteger
  | zeroInPath
  | badDocument (error : Yaml.Error)
  deriving DecidableEq, Repr

namespace Error

def kind? : Error → Option FaultKind
  | unreadable .. | invalidDocument _ | notMapping | keyOutOfRange .. | notInteger _
  | notPositive => some .startup
  | keyMapType _ | longInteger | zeroInPath | badDocument _ => none

def message : Error → Text
  | unreadable path cause =>
    "Could not read config '" ++ path ++ "': [Errno " ++ toString cause.code ++ "] " ++
      cause.text ++ ": " ++ Quoted.quote path
  | invalidDocument path => "Invalid YAML in config '" ++ path ++ "'"
  | notMapping => "Config root must be a mapping."
  | keyOutOfRange name key =>
    "Key '" ++ name ++ "' mapped to " ++ toString key ++ ", expected 0x0-0xF"
  | notInteger value => "Invalid integer format: " ++ value
  | notPositive => "scale and frame_interval_ms must be positive."
  | keyMapType typeName => "'" ++ typeName ++ "' object has no attribute 'items'"
  | longInteger => Numeral.endlessText
  | zeroInPath => "embedded null byte"
  | badDocument error => error.message

end Error

end Chip8.Config
