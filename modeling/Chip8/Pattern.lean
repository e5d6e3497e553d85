import Chip8.Opcode
import Chip8.Text.Hex

namespace Chip8

inductive Pattern where
  | clear | ret | jump | call | skipEqByte | skipNeByte | skipEq | loadByte | addByte
  | copy | or | and | xor | add | sub | shiftRight | subFrom | shiftLeft
  | skipNe | loadIndex | jumpOffset | random | draw | skipPressed | skipReleased
  | readDelay | waitKey | setDelay | setSound | addIndex | loadGlyph | storeDecimal
  | save | restore
  deriving DecidableEq, Repr

namespace Pattern

def all : List Pattern :=
  [.clear, .ret, .jump, .call, .skipEqByte, .skipNeByte, .skipEq, .loadByte, .addByte,
   .copy, .or, .and, .xor, .add, .sub, .shiftRight, .subFrom, .shiftLeft,
   .skipNe, .loadIndex, .jumpOffset, .random, .draw, .skipPressed, .skipReleased,
   .readDelay, .waitKey, .setDelay, .setSound, .addIndex, .loadGlyph, .storeDecimal,
   .save, .restore]

theorem mem_all (pattern : Pattern) : pattern ∈ all := by
  cases pattern <;> decide

def text : Pattern → String
  | clear => "00E0" | ret => "00EE" | jump => "1NNN" | call => "2NNN"
  | skipEqByte => "3XNN" | skipNeByte => "4XNN" | skipEq => "5XY0"
  | loadByte => "6XNN" | addByte => "7XNN"
  | copy => "8XY0" | or => "8XY1" | and => "8XY2" | xor => "8XY3" | add => "8XY4"
  | sub => "8XY5" | shiftRight => "8XY6" | subFrom => "8XY7" | shiftLeft => "8XYE"
  | skipNe => "9XY0" | loadIndex => "ANNN" | jumpOffset => "BNNN" | random => "CXNN"
  | draw => "DXYN" | skipPressed => "EX9E" | skipReleased => "EXA1"
  | readDelay => "FX07" | waitKey => "FX0A" | setDelay => "FX15" | setSound => "FX18"
  | addIndex => "FX1E" | loadGlyph => "FX29" | storeDecimal => "FX33"
  | save => "FX55" | restore => "FX65"

def ofText? (text : String) : Option Pattern := all.find? fun pattern => pattern.text = text

theorem ofText?_text (pattern : Pattern) : ofText? pattern.text = some pattern := by
  cases pattern <;> decide

theorem text_inj {first second : Pattern} (same : first.text = second.text) : first = second := by
  have found := ofText?_text first
  rw [same, ofText?_text] at found
  exact (Option.some.inj found).symm

def ofArithmetic? : Fin 16 → Option Pattern
  | 0x0 => some copy | 0x1 => some or | 0x2 => some and | 0x3 => some xor | 0x4 => some add
  | 0x5 => some sub | 0x6 => some shiftRight | 0x7 => some subFrom | 0xE => some shiftLeft
  | _ => none

def ofTransfer? : Nat → Option Pattern
  | 0x07 => some readDelay | 0x0A => some waitKey | 0x15 => some setDelay
  | 0x18 => some setSound | 0x1E => some addIndex | 0x29 => some loadGlyph
  | 0x33 => some storeDecimal | 0x55 => some save | 0x65 => some restore
  | _ => none

/-- The second digit of `00E0` and `00EE` is not looked at, nor is the last one of `5XY0` and
`9XY0`. -/
def ofOpcode? (word : Opcode) : Option Pattern :=
  match word.family with
  | 0x0 => if word.nn = 0xE0 then some clear else if word.nn = 0xEE then some ret else none
  | 0x1 => some jump
  | 0x2 => some call
  | 0x3 => some skipEqByte
  | 0x4 => some skipNeByte
  | 0x5 => some skipEq
  | 0x6 => some loadByte
  | 0x7 => some addByte
  | 0x8 => ofArithmetic? word.n
  | 0x9 => some skipNe
  | 0xA => some loadIndex
  | 0xB => some jumpOffset
  | 0xC => some random
  | 0xD => some draw
  | 0xE =>
    if word.nn = 0x9E then some skipPressed else if word.nn = 0xA1 then some skipReleased else none
  | _ => ofTransfer? word.nn

def mnemonic : Pattern → String
  | clear => "CLS" | ret => "RET" | jump | jumpOffset => "JP" | call => "CALL"
  | skipEqByte | skipEq => "SE" | skipNeByte | skipNe => "SNE"
  | loadByte | copy | loadIndex | readDelay | waitKey | setDelay | setSound | loadGlyph
  | storeDecimal | save | restore => "LD"
  | addByte | add | addIndex => "ADD" | or => "OR" | and => "AND" | xor => "XOR"
  | sub => "SUB" | shiftRight => "SHR" | subFrom => "SUBN" | shiftLeft => "SHL"
  | random => "RND" | draw => "DRW" | skipPressed => "SKP" | skipReleased => "SKNP"

def registerName (index : Fin 16) : String := "V" ++ Hex.plain 1 index.val

def byteText (value : Nat) : String := "#$" ++ Hex.plain 2 value

def addressText (value : Nat) : String := "$" ++ Hex.plain 3 value

def operands (pattern : Pattern) (word : Opcode) : List String :=
  let vx := registerName word.x
  let vy := registerName word.y
  match pattern with
  | clear | ret => []
  | jump | call => [addressText word.nnn]
  | skipEqByte | skipNeByte | loadByte | addByte | random => [vx, byteText word.nn]
  | skipEq | skipNe | copy | or | and | xor | add | sub | shiftRight | subFrom | shiftLeft =>
    [vx, vy]
  | loadIndex => ["I", addressText word.nnn]
  | jumpOffset => ["V0", addressText word.nnn]
  | draw => [vx, vy, toString word.n.val]
  | skipPressed | skipReleased => [vx]
  | readDelay => [vx, "DT"]
  | waitKey => [vx, "K"]
  | setDelay => ["DT", vx]
  | setSound => ["ST", vx]
  | addIndex => ["I", vx]
  | loadGlyph => ["F", vx]
  | storeDecimal => ["B", vx]
  | save => ["[I]", vx]
  | restore => [vx, "[I]"]

end Pattern

end Chip8
