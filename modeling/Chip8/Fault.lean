import Chip8.Index
import Chip8.Text.Hex
import Chip8.Text.Numeral
/-!
What can go wrong while a program runs. The four kinds of fatal error stop the host loop in an
orderly way. The others are none of its business: they arise on screens without cells, and with keys
of so many digits that the error in which they are to be named cannot be written.
-/

namespace Chip8

inductive FaultKind where
  | startup
  | decode
  | stackUnderflow
  | memoryBounds
  | keyBounds
  deriving DecidableEq, Repr

def FaultKind.label : FaultKind → String
  | .startup => "STARTUP"
  | .decode => "DECODE"
  | .stackUnderflow => "STACK_UNDERFLOW"
  | .memoryBounds => "MEMORY_BOUNDS"
  | .keyBounds => "KEY_BOUNDS"

inductive Fault where
  | undefinedOpcode (opcode : Int) (address : Option Int)
  | emptyStack (address : Option Int)
  | outsideMemory (address : Int) (size : Nat)
  | unknownKey (key : Int)
  | offScreen (refusal : IndexRefusal)
  | emptyScreen
  deriving DecidableEq, Repr

namespace Fault

/-- The class of a fatal error; `none` for what no host loop catches. -/
def kind? : Fault → Option FaultKind
  | .undefinedOpcode .. => some .decode
  | .emptyStack _ => some .stackUnderflow
  | .outsideMemory .. => some .memoryBounds
  | .unknownKey key => if Numeral.Endless key then none else some .keyBounds
  | .offScreen _ => none
  | .emptyScreen => none

def message : Fault → String
  | .undefinedOpcode opcode address =>
    "Operation not found - 0x" ++ Hex.plain 4 opcode ++
      (address.map fun place => " at " ++ Hex.address place).getD ""
  | .emptyStack address =>
    "Stack was empty!" ++ (address.map fun place => " (RET at " ++ Hex.address place ++ ")").getD ""
  | .outsideMemory address size =>
    "Address " ++ Hex.address address ++ " out of bounds for memory of size " ++
      Hex.address size ++ "."
  | .unknownKey key =>
    if Numeral.Endless key then Numeral.endlessText
    else "Key " ++ toString key ++ " out of range 0x0-0xF."
  | .offScreen .outOfRange => "list index out of range"
  | .offScreen .tooWide => "cannot fit 'int' into an index-sized integer"
  | .emptyScreen => "integer modulo by zero"

end Fault

end Chip8
