import Mathlib.Data.Nat.Bitwise
import Chip8.Bitwise
import Chip8.Proofs.Cycle
import Chip8.Proofs.Decoding
import Chip8.Proofs.Faults

namespace Chip8

namespace Bitwise

theorem without_mask (width number : Nat) :
    without (2 ^ width - 1) number = 2 ^ width - (number % 2 ^ width + 1) := by
  have small : number % 2 ^ width < 2 ^ width := Nat.mod_lt number (Nat.two_pow_pos width)
  apply Nat.eq_of_testBit_eq
  intro bit
  rw [without, Nat.testBit_xor, Nat.testBit_and, Nat.testBit_two_pow_sub_one,
    Nat.testBit_two_pow_sub_succ small, Nat.testBit_mod_two_pow]
  by_cases inside : bit < width
  · simp [inside]
  · simp [inside]

/-- Masking is reduction, for negative numbers as for others. -/
theorem and_mask (value : Int) (width : Nat) :
    and value (2 ^ width - 1 : Nat) = value % 2 ^ width := by
  cases value with
  | ofNat number =>
      rw [Int.ofNat_eq_natCast, and_natCast, Nat.and_two_pow_sub_one_eq_mod]
      norm_cast
  | negSucc number =>
      have small : number % 2 ^ width < 2 ^ width := Nat.mod_lt number (Nat.two_pow_pos width)
      calc
        and (Int.negSucc number) (2 ^ width - 1 : Nat) = (without (2 ^ width - 1) number : Nat) :=
          rfl
        _ = (2 ^ width - (number % 2 ^ width + 1) : Nat) := by rw [without_mask]
        _ = Int.negSucc number % (2 ^ width : Nat) := by
          rw [Int.emod_negSucc, Int.natAbs_natCast, Int.subNatNat_of_le small]
        _ = Int.negSucc number % 2 ^ width := by norm_cast

end Bitwise

namespace Opcode

theorem low_div_mod {shift width : Nat} (inside : shift + width ≤ 16) (word : Opcode) :
    ((word.low / 2 ^ shift % 2 ^ width : Nat) : Int) = word / 2 ^ shift % 2 ^ width := by
  obtain ⟨rest, whole⟩ := Nat.exists_eq_add_of_le inside
  have low : (word.low : Int) = word % 2 ^ 16 :=
    Int.toNat_of_nonneg (Int.emod_nonneg word (by decide))
  have powers : (2 : Int) ^ 16 = 2 ^ shift * (2 ^ width * 2 ^ rest) := by
    rw [whole, pow_add, pow_add, mul_assoc]
  have nonzero : (2 : Int) ^ shift ≠ 0 := Int.pow_ne_zero (by decide)
  calc
    ((word.low / 2 ^ shift % 2 ^ width : Nat) : Int) =
        (word.low : Int) / 2 ^ shift % 2 ^ width := by norm_cast
    _ = (word.low / 2 ^ shift + 2 ^ width * (2 ^ rest * (word / 2 ^ 16))) % 2 ^ width := by
      rw [Int.add_mul_emod_self_left]
    _ = (word.low + 2 ^ shift * (2 ^ width * (2 ^ rest * (word / 2 ^ 16)))) / 2 ^ shift %
        2 ^ width := by rw [Int.add_mul_ediv_left _ _ nonzero]
    _ = (word % 2 ^ 16 + 2 ^ 16 * (word / 2 ^ 16)) / 2 ^ shift % 2 ^ width := by
      rw [low, powers]
      simp only [mul_assoc]
    _ = word / 2 ^ shift % 2 ^ width := by rw [Int.emod_add_mul_ediv]

theorem bits_eq_masked {shift width : Nat} (inside : shift + width ≤ 16) (word : Opcode) :
    ((word.low / 2 ^ shift % 2 ^ width : Nat) : Int) =
      Bitwise.and (word >>> shift) (2 ^ width - 1 : Nat) := by
  rw [low_div_mod inside, Bitwise.and_mask, Int.shiftRight_eq_div_pow]
  norm_cast

theorem family_eq_masked (word : Opcode) :
    (word.family.val : Int) = Bitwise.and (word >>> (12 : Nat)) 0xF :=
  bits_eq_masked (by decide : 12 + 4 ≤ 16) word

end Opcode

inductive Field where
  | x | y | n | nn | nnn
  deriving DecidableEq, Repr

namespace Field

def value : Field → Opcode → Nat
  | x, word => word.x
  | y, word => word.y
  | n, word => word.n
  | nn, word => word.nn
  | nnn, word => word.nnn

def shift : Field → Nat
  | x => 8 | y => 4 | n | nn | nnn => 0

def width : Field → Nat
  | x | y | n => 4 | nn => 8 | nnn => 12

def mask (field : Field) : Nat := 2 ^ field.width - 1

theorem value_eq (field : Field) (word : Opcode) :
    field.value word = word.low / 2 ^ field.shift % 2 ^ field.width := by
  cases field with
  | x | y => rfl
  | n | nn | nnn =>
      rw [shift, pow_zero, Nat.div_one]
      rfl

theorem value_eq_masked (field : Field) (word : Opcode) :
    (field.value word : Int) = Bitwise.and (word >>> field.shift) field.mask := by
  have inside : field.shift + field.width ≤ 16 := by cases field <;> decide
  rw [value_eq, mask]
  exact Opcode.bits_eq_masked inside word

theorem value_low (field : Field) (word : Opcode) :
    field.value (word % 0x10000) = field.value word := by
  rw [value_eq, value_eq, Opcode.low_mod]

def text : Field → Opcode → String
  | x, word => Pattern.registerName word.x
  | y, word => Pattern.registerName word.y
  | n, word => toString word.n.val
  | nn, word => Pattern.byteText word.nn
  | nnn, word => Pattern.addressText word.nnn

end Field

inductive Slot where
  | name (text : String)
  | field (part : Field)
  deriving DecidableEq, Repr

namespace Slot

def text (word : Opcode) : Slot → String
  | .name text => text
  | .field part => part.text word

def field? : Slot → Option Field
  | .name _ => none
  | .field part => some part

end Slot

namespace Pattern

open Slot

def slots : Pattern → List Slot
  | clear | ret => []
  | jump | call => [field .nnn]
  | skipEqByte | skipNeByte | loadByte | addByte | random => [field .x, field .nn]
  | skipEq | skipNe | copy | or | and | xor | add | sub | shiftRight | subFrom | shiftLeft =>
    [field .x, field .y]
  | loadIndex => [name "I", field .nnn]
  | jumpOffset => [name "V0", field .nnn]
  | draw => [field .x, field .y, field .n]
  | skipPressed | skipReleased => [field .x]
  | readDelay => [field .x, name "DT"]
  | waitKey => [field .x, name "K"]
  | setDelay => [name "DT", field .x]
  | setSound => [name "ST", field .x]
  | addIndex => [name "I", field .x]
  | loadGlyph => [name "F", field .x]
  | storeDecimal => [name "B", field .x]
  | save => [name "[I]", field .x]
  | restore => [field .x, name "[I]"]

theorem operands_eq (pattern : Pattern) (word : Opcode) :
    pattern.operands word = pattern.slots.map (Slot.text word) := by
  cases pattern <;> rfl

def fields (pattern : Pattern) : List Field := pattern.slots.filterMap Slot.field?

theorem mem_fields {pattern : Pattern} {part : Field} :
    part ∈ pattern.fields ↔ field part ∈ pattern.slots := by
  rw [fields, List.mem_filterMap]
  constructor
  · rintro ⟨slot, present, shown⟩
    cases slot with
    | name text => cases shown
    | field other =>
        cases shown
        exact present
  · intro present
    exact ⟨field part, present, rfl⟩

def SameFields (pattern : Pattern) (first second : Opcode) : Prop :=
  ∀ part ∈ pattern.fields, part.value first = part.value second

variable {pattern : Pattern} {first second : Opcode}

theorem operands_congr (same : ∀ part : Field, part.value first = part.value second) :
    pattern.operands first = pattern.operands second := by
  have x : first.x = second.x := Fin.ext (same .x)
  have y : first.y = second.y := Fin.ext (same .y)
  have n : first.n = second.n := Fin.ext (same .n)
  have nn : first.nn = second.nn := same .nn
  have nnn : first.nnn = second.nnn := same .nnn
  simp only [operands, x, y, n, nn, nnn]

/-- An instruction reads no field but those of its operands. -/
theorem effect_congr (same : pattern.SameFields first second) (address : Option Int) :
    pattern.effect first address = pattern.effect second address := by
  have x (shown : .x ∈ pattern.fields) : first.x = second.x := Fin.ext (same .x shown)
  have y (shown : .y ∈ pattern.fields) : first.y = second.y := Fin.ext (same .y shown)
  have n (shown : .n ∈ pattern.fields) : first.n = second.n := Fin.ext (same .n shown)
  have nn (shown : .nn ∈ pattern.fields) : first.nn = second.nn := same .nn shown
  have nnn (shown : .nnn ∈ pattern.fields) : first.nnn = second.nnn := same .nnn shown
  cases pattern with
  | clear | ret => rfl
  | jump | call | loadIndex | jumpOffset => simp only [effect, nnn (by decide)]
  | skipEqByte | skipNeByte | loadByte | addByte | random =>
      simp only [effect, x (by decide), nn (by decide)]
  | skipEq | skipNe | copy | or | and | xor | add | sub | shiftRight | subFrom | shiftLeft =>
      simp only [effect, x (by decide), y (by decide)]
  | draw => simp only [effect, x (by decide), y (by decide), n (by decide)]
  | skipPressed | skipReleased | readDelay | waitKey | setDelay | setSound | addIndex | loadGlyph
  | storeDecimal | save | restore => simp only [effect, x (by decide)]

/-- Two words of the pattern that differ in this field, and in no other that is shown, can do
different things. -/
def Reads (pattern : Pattern) (part : Field) : Prop :=
  ∃ first second, ofOpcode? first = some pattern ∧ ofOpcode? second = some pattern ∧
    (∀ other ∈ pattern.fields, other ≠ part → other.value first = other.value second) ∧
    ∃ address machine, pattern.effect first address machine ≠ pattern.effect second address machine

section Trial

/-- A word of the pattern whose free digits are 1, 2 and 3. -/
def sample (pattern : Pattern) : Opcode :=
  pattern.family * 0x1000 +
    match pattern.selector with
    | .none => 0x123
    | .digit last => 0x120 + last
    | .byte low => 0x100 + low

def altered (pattern : Pattern) (part : Field) : Opcode := pattern.sample + 2 ^ part.shift

/-- A small machine on which it shows when an instruction uses another field: the second register
has a value of its own, a key is down, the delay timer runs, and random bytes have all bits. -/
def bench : Machine where
  state := { v := (Vector.replicate 16 0x23).set 2 0x31, delayTimer := 5 }
  bus :=
    { memory := Memory.ofSize 16
      display := Display.blank 8 4
      keyboard := ⟨(Vector.replicate 16 false).set 3 true⟩
      random := RandomSource.cycling [0xFF] }

def view (effect : Effect) : Option Fault × Registers × List (List Bool) × List UInt8 :=
  let machine := effect.after bench
  (effect.refusal? bench, machine.state, machine.bus.display.rows, machine.bus.memory.toList)

theorem view_altered (pattern : Pattern) (part : Field) (shown : part ∈ pattern.fields) :
    ofOpcode? pattern.sample = some pattern ∧ ofOpcode? (pattern.altered part) = some pattern ∧
      (∀ other ∈ pattern.fields, other ≠ part →
        other.value pattern.sample = other.value (pattern.altered part)) ∧
      view (pattern.effect pattern.sample none) ≠
        view (pattern.effect (pattern.altered part) none) := by
  revert shown
  cases pattern <;> cases part <;> decide +kernel

end Trial

theorem reads_iff (part : Field) : pattern.Reads part ↔ part ∈ pattern.fields := by
  constructor
  · intro ⟨first, second, _, _, others, address, machine, differ⟩
    -- Words whose listed fields agree have the same effect, so a field that is read is listed.
    by_contra absent
    have same : pattern.SameFields first second := by
      intro other shown
      refine others other shown ?_
      intro alike
      exact absent (alike ▸ shown)
    rw [effect_congr same] at differ
    exact differ rfl
  · intro shown
    obtain ⟨found, found', others, differ⟩ := pattern.view_altered part shown
    refine ⟨_, _, found, found', others, none, bench, ?_⟩
    intro alike
    apply differ
    simp only [view, Action.after, Action.refusal?, alike]

theorem ofOpcode_low (word : Opcode) : ofOpcode? (word % 0x10000) = ofOpcode? word := by
  have family : Opcode.family (word % 0x10000) = word.family := by
    rw [Opcode.family, Opcode.low_mod, Opcode.family]
  have n : Opcode.n (word % 0x10000) = word.n := Fin.ext (Field.value_low .n word)
  have nn : Opcode.nn (word % 0x10000) = word.nn := Field.value_low .nn word
  rw [ofOpcode?, ofOpcode?, family, n, nn]

theorem decode_not_mem_kinds (pattern : Pattern) : some .decode ∉ pattern.kinds := by
  cases pattern <;> decide

end Pattern

namespace Operation

open Pattern

/-- Only the low sixteen bits of a word count, whether it is decoded or carried out: the leading
digit and the fields are shifted and masked out of the word. What has been decoded has a mnemonic
and an instruction, and is never refused as undefined. -/
theorem decode_low_bits (word : Opcode) (address : Option Int) :
    (word.family.val : Int) = Bitwise.and (word >>> (12 : Nat)) 0xF ∧
    (∀ field : Field, (field.value word : Int) = Bitwise.and (word >>> field.shift) field.mask) ∧
    ((∃ operation, decode word address = .ok operation) ↔
      ∃ reduced, decode (word % 0x10000) address = .ok reduced) ∧
    ∀ operation reduced, decode word address = .ok operation →
      decode (word % 0x10000) address = .ok reduced →
      (∃ pattern, ofText? operation.pattern = some pattern ∧
        operation.mnemonic = pattern.mnemonic) ∧
      reduced.pattern = operation.pattern ∧ reduced.mnemonic = operation.mnemonic ∧
      reduced.operands = operation.operands ∧
      (∀ field : Field, field.value reduced.opcode = field.value operation.opcode) ∧
      operation.execute.RefusesOnly (fun fault => fault.kind? ≠ some .decode) ∧
      ∀ machine, operation.execute machine = reduced.execute machine := by
  have values := fun field : Field => field.value_low word
  refine ⟨word.family_eq_masked, fun field => field.value_eq_masked word, ?coverage, ?same⟩
  case coverage =>
    have found (number : Opcode) :
        (∃ operation, decode number address = .ok operation) ↔
          ∃ pattern, ofOpcode? number = some pattern := by
      constructor
      · rintro ⟨operation, decoded⟩
        obtain ⟨pattern, found, -⟩ := decode_eq_ok.mp decoded
        exact ⟨pattern, found⟩
      · rintro ⟨pattern, found⟩
        exact ⟨_, decode_eq_ok.mpr ⟨pattern, found, rfl⟩⟩
    rw [found, found, ofOpcode_low]
  case same =>
    intro operation reduced decoded decoded'
    obtain ⟨pattern, found, rfl⟩ := decode_eq_ok.mp decoded
    obtain ⟨pattern', found', rfl⟩ := decode_eq_ok.mp decoded'
    rw [ofOpcode_low, found] at found'
    cases found'
    refine ⟨⟨pattern, ofText?_text pattern, rfl⟩, rfl, rfl, operands_congr values, values, ?_, ?_⟩
    · intro machine fault refused
      rw [Cpu.execute_ofPattern] at refused
      intro undefined
      have listed := pattern.effect_kinds word address machine fault refused
      rw [Fault.In, undefined] at listed
      exact pattern.decode_not_mem_kinds listed
    · intro machine
      have same : pattern.SameFields word (word % 0x10000) := fun part _ => (values part).symm
      rw [Cpu.execute_ofPattern, Cpu.execute_ofPattern, effect_congr same]

theorem decode_low_bits_negative :
    decode (-0x7EDC) (some 0x200) = .ok (ofPattern .add (-0x7EDC) (some 0x200)) ∧
    decode (-0x7EDC % 0x10000) (some 0x200) = .ok (ofPattern .add 0x8124 (some 0x200)) ∧
    (ofPattern .add (-0x7EDC) (some 0x200)).text = "ADD V1, V2" ∧
    ∀ machine, (ofPattern .add (-0x7EDC) (some 0x200)).execute machine =
      (ofPattern .add 0x8124 (some 0x200)).execute machine := by
  refine ⟨rfl, rfl, rfl, ?_⟩
  obtain ⟨-, -, -, -, -, -, same⟩ := (decode_low_bits (-0x7EDC) (some 0x200)).2.2.2 _ _ rfl rfl
  exact same

end Operation

end Chip8
