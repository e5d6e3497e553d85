import Chip8.Proofs.Cycle
import Chip8.Proofs.Range

namespace Chip8

namespace Pattern

def arithmetic : List Pattern :=
  [.copy, .or, .and, .xor, .addByte, .add, .sub, .subFrom, .shiftRight, .shiftLeft]

def result? (pattern : Pattern) (word : Opcode) (registers : Registers) : Option Int :=
  let a := registers.get word.x
  let b := registers.get word.y
  match pattern with
  | copy => some b
  | or => some (a.toNat ||| b.toNat : Nat)
  | and => some (a.toNat &&& b.toNat : Nat)
  | xor => some (a.toNat ^^^ b.toNat : Nat)
  | addByte => some ((a + word.nn) % 256)
  | add => some ((a + b) % 256)
  | sub => some ((a - b) % 256)
  | subFrom => some ((b - a) % 256)
  | shiftRight => some (b / 2)
  | shiftLeft => some (2 * b % 256)
  | _ => none

def flag? (pattern : Pattern) (word : Opcode) (registers : Registers) : Option Int :=
  let a := registers.get word.x
  let b := registers.get word.y
  match pattern with
  | add => some (if a + b > 255 then 1 else 0)
  | sub => some (if a ≥ b then 1 else 0)
  | subFrom => some (if b ≥ a then 1 else 0)
  | shiftRight => some (b % 2)
  | shiftLeft => some (b / 128)
  | _ => none

variable {pattern : Pattern} {word : Opcode} {registers : Registers}

theorem result_of_arithmetic (listed : pattern ∈ arithmetic) (word : Opcode)
    (registers : Registers) : ∃ result, pattern.result? word registers = some result := by
  cases pattern <;> first
  | exact ⟨_, rfl⟩
  | exact absurd listed (by decide)

theorem flag_isByte {raised : Int} (second : IsByte (registers.get word.y))
    (sets : pattern.flag? word registers = some raised) : IsByte raised := by
  have bit (condition : Prop) [Decidable condition] : IsByte (if condition then 1 else 0) := by
    split <;> decide
  cases pattern with
  | add | sub | subFrom =>
      cases sets
      exact bit _
  | shiftRight | shiftLeft =>
      cases sets
      rw [IsByte] at second ⊢
      omega
  | _ => cases sets

end Pattern

namespace Registers

variable {registers : Registers} {x index : Fin 16} {result value : Int} {raised : Option Int}

/-- The registers with a result, and after it with a flag if there is one. -/
def computed (registers : Registers) (x : Fin 16) (result : Int) (raised : Option Int) :
    Registers :=
  match raised with
  | none => registers.set x result
  | some value => (registers.set x result).setFlag value

theorem computed_eq (registers : Registers) (x : Fin 16) (result : Int) (raised : Option Int) :
    registers.computed x result raised =
      { registers with v := (registers.computed x result raised).v } := by
  cases raised <;> rfl

/-- The flag comes last. -/
theorem vf_computed (byte : IsByte value) :
    (registers.computed x result (some value)).vf = value := by
  have same : value % 256 = value := Int.emod_eq_of_lt byte.1 byte.2
  rw [computed, setFlag, vf, get_set_same, same]

theorem get_computed (apart : x ≠ flag ∨ raised = none) :
    (registers.computed x result raised).get x = result := by
  cases raised with
  | none => exact get_set_same registers x result
  | some value =>
      have differs : flag ≠ x := (apart.resolve_right nofun).symm
      rw [computed, setFlag, get_set_other _ _ differs, get_set_same]

theorem get_computed_of_other (other : index ≠ x) (apart : index ≠ flag ∨ raised = none) :
    (registers.computed x result raised).get index = registers.get index := by
  cases raised with
  | none => exact get_set_other registers result other.symm
  | some value =>
      have differs : flag ≠ index := (apart.resolve_right nofun).symm
      rw [computed, setFlag, get_set_other _ _ differs, get_set_other _ _ other.symm]

end Registers

section Bits

variable {a b : Int} (first : IsByte a) (second : IsByte b)

include first second

theorem Bitwise.or_of_bytes : Bitwise.or a b = (a.toNat ||| b.toNat : Nat) := by
  rw [← Bitwise.or_natCast, Int.toNat_of_nonneg first.1, Int.toNat_of_nonneg second.1]

theorem Bitwise.and_of_bytes : Bitwise.and a b = (a.toNat &&& b.toNat : Nat) := by
  rw [← Bitwise.and_natCast, Int.toNat_of_nonneg first.1, Int.toNat_of_nonneg second.1]

theorem Bitwise.xor_of_bytes : Bitwise.xor a b = (a.toNat ^^^ b.toNat : Nat) := by
  rw [← Bitwise.xor_natCast, Int.toNat_of_nonneg first.1, Int.toNat_of_nonneg second.1]

end Bits

/-- What an arithmetic instruction does to the machine: it sets the flag if it has one, whichever
register the result is for, and nothing else but the result. -/
structure Machine.Computes (word : Opcode) (pattern : Pattern) (before after : Machine) : Prop where
  flag : ∀ raised, pattern.flag? word before.state = some raised → after.state.vf = raised
  result : word.x ≠ Registers.flag ∨ pattern.flag? word before.state = none →
    pattern.result? word before.state = some (after.state.get word.x)
  others : ∀ index, index ≠ word.x →
    index ≠ Registers.flag ∨ pattern.flag? word before.state = none →
    after.state.get index = before.state.get index
  rest : after = before.withState { before.state with v := after.state.v }

namespace Pattern

variable {pattern : Pattern} {word : Opcode} {machine : Machine}

section Operands

variable (first : IsByte (machine.state.get word.x)) (second : IsByte (machine.state.get word.y))

include first second

theorem effect_of_result {result : Int} (address : Option Int)
    (found : pattern.result? word machine.state = some result) :
    pattern.effect word address machine = .ok () (machine.withState
      (machine.state.computed word.x result (pattern.flag? word machine.state))) := by
  cases pattern with
  | or =>
      cases found
      rw [← Bitwise.or_of_bytes first second]
      rfl
  | and =>
      cases found
      rw [← Bitwise.and_of_bytes first second]
      rfl
  | xor =>
      cases found
      rw [← Bitwise.xor_of_bytes first second]
      rfl
  | shiftLeft =>
      cases found
      rw [Int.mul_comm]
      rfl
  | copy | addByte | add | sub | subFrom | shiftRight =>
      cases found
      rfl
  | _ => cases found

theorem computes_of_arithmetic (listed : pattern ∈ arithmetic) (address : Option Int) :
    ∃ done, pattern.effect word address machine = .ok () done ∧
      machine.Computes word pattern done := by
  obtain ⟨result, found⟩ := result_of_arithmetic listed word machine.state
  refine ⟨_, effect_of_result first second address found, ?flag, ?result, ?others, ?rest⟩
  case flag =>
      intro raised sets
      rw [sets]
      exact Registers.vf_computed (flag_isByte second sets)
  case result =>
      intro apart
      rw [found]
      exact congrArg some (Registers.get_computed apart).symm
  case others => exact fun index other apart => Registers.get_computed_of_other other apart
  case rest => exact congrArg machine.withState (Registers.computed_eq _ _ _ _)

end Operands

/-- Taking away what has just been added gives the old value back, and sets the flag if there was no
carry. -/
theorem sub_after_add {other : Opcode} (x : word.x = other.x) (y : word.y = other.y)
    (differ : word.x ≠ word.y) (result : word.x ≠ Registers.flag)
    (operand : word.y ≠ Registers.flag)
    (first : IsByte (machine.state.get word.x)) (second : IsByte (machine.state.get word.y))
    (address another : Option Int) :
    ∃ between done, add.effect word address machine = .ok () between ∧
      sub.effect other another between = .ok () done ∧
      done.state.get word.x = machine.state.get word.x ∧
      done.state.vf =
        1 - if machine.state.get word.x + machine.state.get word.y > 255 then 1 else 0 := by
  have adds : ∃ between, add.effect word address machine = .ok () between ∧
      machine.Computes word add between := computes_of_arithmetic first second (by decide) address
  obtain ⟨between, added, sum⟩ := adds
  have total : (machine.state.get word.x + machine.state.get word.y) % 256 =
      between.state.get word.x := Option.some.inj (sum.result (.inl result))
  have same : between.state.get word.y = machine.state.get word.y :=
    sum.others word.y differ.symm (.inl operand)
  rw [IsByte] at first second
  have firstToo : IsByte (between.state.get other.x) := by
    rw [← x, ← total]
    exact isByte_emod _
  have secondToo : IsByte (between.state.get other.y) := by
    rw [← y, same]
    exact second
  have subtracts : ∃ done, sub.effect other another between = .ok () done ∧
      between.Computes other sub done :=
    computes_of_arithmetic firstToo secondToo (by decide) another
  obtain ⟨done, taken, difference⟩ := subtracts
  have flag := difference.flag _ rfl
  have value := Option.some.inj (difference.result (.inl (x ▸ result)))
  rw [← x, ← y, ← total, same] at value flag
  refine ⟨between, done, added, taken, ?_, ?_⟩
  · rw [← value]
    omega
  · rw [flag]
    split <;> split <;> omega

end Pattern

namespace Operation

/-- Result and flag of every arithmetic instruction, for all registers that it may name, and nothing
else that changes. In particular an addition is undone by the subtraction of the same register. -/
theorem arithmetic_of_any_registers :
    (∀ (operation : Operation) (pattern : Pattern) (machine : Machine),
      operation.pattern = pattern.text → pattern ∈ Pattern.arithmetic →
      (∀ index, IsByte (machine.state.get index)) →
      ∃ done, operation.execute machine = .ok () done ∧
        machine.Computes operation.opcode pattern done) ∧
    ∀ (addition subtraction : Operation) (machine : Machine) (x y : Fin 16),
      addition.pattern = "8XY4" → subtraction.pattern = "8XY5" →
      addition.opcode.x = x → subtraction.opcode.x = x →
      addition.opcode.y = y → subtraction.opcode.y = y →
      x ≠ y → x ≠ Registers.flag → y ≠ Registers.flag →
      (∀ index, IsByte (machine.state.get index)) →
      ∃ between done, addition.execute machine = .ok () between ∧
        subtraction.execute between = .ok () done ∧
        done.state.get x = machine.state.get x ∧
        done.state.vf = 1 - if machine.state.get x + machine.state.get y > 255 then 1 else 0 := by
  constructor
  · intro operation pattern machine named listed bytes
    rw [Cpu.execute_of_text pattern named]
    exact Pattern.computes_of_arithmetic (bytes _) (bytes _) listed operation.address
  · rintro addition subtraction machine x y adds subtracts rfl x rfl y differ result operand bytes
    rw [Cpu.execute_of_text .add adds, Cpu.execute_of_text .sub subtracts]
    exact Pattern.sub_after_add x.symm y.symm differ result operand (bytes _) (bytes _)
      addition.address subtraction.address

def carrying : Machine where
  state := Registers.set { v := Vector.replicate 16 100 } Registers.first 200
  bus := {}

/-- A sum that is for the flag register gives way to its carry. The sum of two other registers is
undone, and the flag tells that there was a carry. -/
theorem arithmetic_of_any_registers_carry :
    (∃ done, (ofPattern .add 0x8F04 none).execute carrying = .ok () done ∧ done.state.vf = 1) ∧
    ∃ between done, (ofPattern .add 0x8014 none).execute carrying = .ok () between ∧
      (ofPattern .sub 0x8015 none).execute between = .ok () done ∧
      done.state.get 0 = 200 ∧ done.state.vf = 0 := by
  have bytes : ∀ index, IsByte (carrying.state.get index) := by decide
  obtain ⟨done, executed, computes⟩ := arithmetic_of_any_registers.1 (ofPattern .add 0x8F04 none)
    .add carrying rfl (by decide) bytes
  exact ⟨⟨done, executed, computes.flag 1 rfl⟩,
    arithmetic_of_any_registers.2 (ofPattern .add 0x8014 none) (ofPattern .sub 0x8015 none)
      carrying 0 1 rfl rfl rfl rfl rfl rfl (by decide) (by decide) (by decide) bytes⟩

end Operation

end Chip8
