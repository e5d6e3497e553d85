import Chip8.Text

namespace Chip8

namespace Log

inductive Level where
  | info
  | error
  deriving DecidableEq, Repr

def Level.label : Level → String
  | .info => "INFO"
  | .error => "ERROR"

inductive Source where
  | frameLoop
  | romLoader
  | startup
  deriving DecidableEq, Repr

def Source.label : Source → String
  | .frameLoop => "retro_chip8.host.frame_loop"
  | .romLoader => "retro_chip8.loader.loader"
  | .startup => "retro_chip8.ui.app"

structure Record where
  level : Level
  source : Source
  text : Text
  deriving DecidableEq, Repr

end Log

end Chip8
