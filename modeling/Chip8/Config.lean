import Chip8.KeyMap

namespace Chip8

/-- `scale` is the width of a pixel, `frameInterval` the milliseconds from frame to frame. -/
structure Config where
  scale : Int := 10
  frameInterval : Int := 16
  foreground : Text := "#FFFFFF"
  background : Text := "#000000"
  windowTitle : Text := "Retro CHIP-8"
  keyMap : KeyMap := KeyMap.default
  quitKey : Text := KeyMap.defaultQuitKey
  deriving DecidableEq, Repr

end Chip8
