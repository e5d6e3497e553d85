import Chip8.Fault
import Chip8.FileTree

namespace Chip8

structure Rom where
  bytes : List UInt8
  deriving DecidableEq, Repr

namespace Rom

def size (rom : Rom) : Nat := rom.bytes.length

def byteAt (rom : Rom) (offset : Int) : Except IndexRefusal UInt8 :=
  (Index.resolve rom.bytes.length offset).map fun place => rom.bytes[place]

def toList (rom : Rom) : List Int := rom.bytes.map fun byte => (byte.toNat : Int)

/-- Why a program cannot be read. Only the first is reported as an error of the start-up. -/
inductive Error where
  | unreadable (path : String) (cause : FileTree.Refusal)
  | zeroInPath
  deriving DecidableEq, Repr

def Error.kind? : Error → Option FaultKind
  | .unreadable .. => some .startup
  | .zeroInPath => none

def Error.message : Error → String
  | .unreadable path cause => "Could not read ROM '" ++ path ++ "': " ++ cause.text
  | .zeroInPath => "embedded null byte"

def ofFile (read : String → Except FileTree.Refusal ByteArray) (path : String) :
    Except Error Rom :=
  if path.contains '\x00' then .error .zeroInPath
  else
    match read path with
    | .error cause => .error (.unreadable path cause)
    | .ok bytes => .ok ⟨bytes.toList⟩

end Rom

end Chip8
