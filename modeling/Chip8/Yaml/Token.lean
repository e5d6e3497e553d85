import Chip8.Text

namespace Chip8.Yaml

inductive Token where
  | version (major : Nat)
  | tagHandle (handle start : String)
  | otherDirective
  | documentStart
  | documentEnd
  | streamEnd
  | blockSequenceStart
  | blockMappingStart
  | blockEnd
  | flowSequenceStart
  | flowSequenceEnd
  | flowMappingStart
  | flowMappingEnd
  | blockEntry
  | flowEntry
  | key
  | value
  | alias (name : String)
  | anchor (name : String)
  | tag (handle : Option String) (suffix : String)
  | scalar (isPlain : Bool) (text : Text)
  deriving DecidableEq, Repr

namespace Token

def isDirective : Token → Bool
  | version _ | tagHandle .. | otherDirective => true
  | _ => false

end Token

end Chip8.Yaml
