import Chip8.Fault
import Chip8.Pattern
/-!
Decoded instructions. An operation keeps its pattern as text, so that other instruction sets can
share the type; `decode` only answers patterns of this machine.
-/

namespace Chip8

structure Operation where
  opcode : Opcode
  pattern : String
  mnemonic : String
  operands : List String := []
  address : Option Int := some 0
  length : Int := 2
  deriving DecidableEq, Repr

namespace Operation

def hex (operation : Operation) : String := Hex.plain 4 operation.opcode

def text (operation : Operation) : String :=
  match operation.operands with
  | [] => operation.mnemonic
  | operands => operation.mnemonic ++ " " ++ ", ".intercalate operands

def ofPattern (pattern : Pattern) (word : Opcode) (address : Option Int) : Operation :=
  { opcode := word, pattern := pattern.text, mnemonic := pattern.mnemonic,
    operands := pattern.operands word, address := address }

def decode (word : Opcode) (address : Option Int) : Except Fault Operation :=
  match Pattern.ofOpcode? word with
  | some pattern => .ok (ofPattern pattern word address)
  | none => .error (.undefinedOpcode word address)

end Operation

end Chip8
