import Chip8.Config
import Chip8.Config.Error
import Chip8.Yaml.Value.Builder
import Chip8.Yaml.Value.Printer
/-!
Settings from a document. What a document does not say stays as it is by default, and its key map
adds to the default one. Keys are looked at first, then the scale, then the frame interval.
-/

namespace Chip8.Config

open Yaml

def shown (value : Value) : Except Error Text :=
  match value.text? with
  | some text => .ok text
  | none => .error .longInteger

def integerText (text : Text) : Except Numeral.Refusal Int :=
  match text.points with
  | .char '0' :: .char x :: _ =>
    if x = 'x' ∨ x = 'X' then Numeral.read 16 text else Numeral.read 10 text
  | _ => Numeral.read 10 text

def notAnInteger (value : Value) : Except Error Int := do
  throw (.notInteger (← shown value))

/-- Integers, and texts that write one. Truth values are none. -/
def integer (value : Value) : Except Error Int :=
  match value with
  | .scalar (.int number) => .ok number
  | .scalar (.text written) =>
    match integerText written with
    | .ok number => .ok number
    | .error _ => notAnInteger value
  | _ => notAnInteger value

def key (name : Scalar) (value : Value) : Except Error (Text × Int) := do
  let number ← integer value
  if 0 ≤ number ∧ number ≤ 0xF then return (← shown (.scalar name), number)
  else
    let name ← shown (.scalar name)
    let _ ← shown (.scalar (.int number))
    throw (.keyOutOfRange name number)

/-- Adds the entries one after the other; the last one for a name counts. -/
def addKeys (keyMap : KeyMap) : List (Scalar × Value) → Except Error KeyMap
  | [] => .ok keyMap
  | (name, value) :: rest => do
    let (name, number) ← key name value
    addKeys (keyMap.insert name number) rest

/-- An empty key map of any type adds nothing. -/
def readKeyMap (value : Option Value) : Except Error KeyMap :=
  match value with
  | none => .ok KeyMap.default
  | some value =>
    if !value.isTruthy then .ok KeyMap.default
    else
      match value.unfold with
      | .map entries => addKeys KeyMap.default entries
      | _ => .error (.keyMapType value.typeName)

def integerField (entries : List (Scalar × Value)) (name : Text) (usual : Int) :
    Except Error Int :=
  match Value.field? entries name with
  | none => .ok usual
  | some value => integer value

def textField (entries : List (Scalar × Value)) (name usual : Text) : Except Error Text :=
  match Value.field? entries name with
  | none => .ok usual
  | some value => shown value

def ofEntries (entries : List (Scalar × Value)) : Except Error Config := do
  let usual : Config := {}
  let keyMap ← readKeyMap (Value.field? entries "key_map")
  let scale ← integerField entries "scale" usual.scale
  let frameInterval ← integerField entries "frame_interval_ms" usual.frameInterval
  if scale ≤ 0 ∨ frameInterval ≤ 0 then throw .notPositive
  return {
    scale := scale
    frameInterval := frameInterval
    foreground := ← textField entries "foreground" usual.foreground
    background := ← textField entries "background" usual.background
    windowTitle := ← textField entries "window_title" usual.windowTitle
    keyMap := keyMap
    quitKey := ← textField entries "quit_key" usual.quitKey }

def ofValue (value : Value) : Except Error Config :=
  match value.unfold with
  | .map entries => ofEntries entries
  | _ => .error .notMapping

/-- A document that is empty in whatever way gives the default settings. -/
def ofDocument (value : Value) : Except Error Config :=
  if value.isTruthy then ofValue value else ofEntries []

def ofBytes (path : String) (bytes : List UInt8) : Except Error Config :=
  match Value.parse bytes with
  | .ok value => ofDocument value
  | .error .malformed => .error (.invalidDocument path)
  | .error error => .error (.badDocument error)

def ofFile (read : String → Except FileTree.Refusal ByteArray) (path : String) :
    Except Error Config :=
  if path.contains '\x00' then .error .zeroInPath
  else
    match read path with
    | .error cause => .error (.unreadable path cause)
    | .ok bytes => ofBytes path bytes.toList

end Chip8.Config
