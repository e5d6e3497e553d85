import Chip8.Proofs.Decoding
import Chip8.Proofs.Reachable

namespace Chip8

namespace Pattern

theorem fields_of_waitKey {word : Opcode} (decoded : ofOpcode? word = some waitKey) :
    word.family = 0xF ∧ word.nn = 0x0A :=
  ofOpcode_eq_some.mp decoded

end Pattern

theorem Opcode.low_eq_fields (word : Opcode) :
    word.low = word.family.val * 0x1000 + word.x.val * 0x100 + word.nn := by
  have short : word.low < 0x10000 := by
    rw [low]
    omega
  simp only [family, x, nn, lastDigit]
  omega

theorem Opcode.cast_low {word : Opcode} (nonneg : 0 ≤ word) (small : word < 0x10000) :
    (word.low : Int) = word := by
  rw [low, Int.emod_eq_of_lt nonneg small, Int.toNat_of_nonneg nonneg]

theorem Memory.readWord_range {memory : Memory} {address word : Int}
    (present : memory.readWord address = .ok word) : 0 ≤ word ∧ word < 0x10000 := by
  obtain ⟨low, high⟩ := inside_of_readWord present
  obtain ⟨first, readFirst⟩ := memory.read_of_inside address low (by omega)
  obtain ⟨second, readSecond⟩ := memory.read_of_inside (address + 1) (by omega) high
  have same := Except.ok.inj (present.symm.trans (readWord_of_reads readFirst readSecond))
  have firstByte := first.toNat_lt
  have secondByte := second.toNat_lt
  omega

theorem Display.length_rows (display : Display) : display.rows.length = display.height.toNat := by
  rw [rows, List.length_map, Vector.length_toList]

theorem Display.length_row {display : Display} {row : List Bool} (shown : row ∈ display.rows) :
    row.length = display.width.toNat := by
  obtain ⟨cells, -, rfl⟩ := List.mem_map.mp shown
  exact cells.length_toList

theorem Registers.InRange.values {registers : Registers} (range : registers.InRange) :
    ∀ value ∈ registers.v.toList, 0 ≤ value ∧ value ≤ 255 := by
  intro value member
  obtain ⟨place, inside, rfl⟩ := List.mem_iff_getElem.mp member
  have byte := range.bytes ⟨place, by simpa using inside⟩
  rw [Vector.getElem_toList]
  exact ⟨byte.1, Int.le_of_lt_add_one byte.2⟩

namespace Cpu

variable {cpu : Cpu}

theorem Valid.wait_word (valid : Valid cpu) (halted : cpu.state.halted = true) :
    ∃ x : Fin 16, cpu.bus.memory.readWord (cpu.state.pc - 2) = .ok (0xF00A + 0x100 * x.val) := by
  obtain ⟨word, present, decoded⟩ := (valid.waiting halted).2
  obtain ⟨family, nn⟩ := Pattern.fields_of_waitKey decoded
  obtain ⟨low, high⟩ := Memory.readWord_range present
  have fields := Opcode.low_eq_fields word
  have whole := Opcode.cast_low low high
  rw [family, nn] at fields
  have digits : word = 0xF00A + 0x100 * (Opcode.x word).val :=
    calc
      word = (Opcode.low word : Int) := whole.symm
      _ = 0xF00A + 0x100 * (Opcode.x word).val := by
        rw [fields]
        omega
  exact ⟨Opcode.x word, digits ▸ present⟩

/-- Registers, stack, timers, memory, screen and keyboard keep their shape and their ranges. While a
key is awaited, the instruction behind the program counter is the wait. -/
theorem reachable_invariant (reachable : Reachable cpu) :
    (cpu.state.v.toList.length = 16 ∧ ∀ value ∈ cpu.state.v.toList, 0 ≤ value ∧ value ≤ 255) ∧
    (0 ≤ cpu.state.i ∧ cpu.state.i ≤ 0xFFFF) ∧
    (0 ≤ cpu.state.pc ∧ cpu.state.pc ≤ 0x10FE) ∧
    (∀ entry ∈ cpu.state.stack, 2 ≤ entry ∧ entry ≤ 0x1000) ∧
    (0 ≤ cpu.state.delayTimer ∧ cpu.state.delayTimer ≤ 255) ∧
    (0 ≤ cpu.state.soundTimer ∧ cpu.state.soundTimer ≤ 255) ∧
    (cpu.bus.memory.toList.length = 4096 ∧
      ∀ address : Int, 0 ≤ address → address < 4096 →
        ∃ byte : UInt8, cpu.bus.memory.read address = .ok byte ∧ byte.toNat ≤ 255) ∧
    (cpu.bus.display.rows.length = 32 ∧ ∀ row ∈ cpu.bus.display.rows, row.length = 64) ∧
    cpu.bus.keyboard.held.toList.length = 16 ∧
    (cpu.state.halted = true → 2 ≤ cpu.state.pc ∧
      ∃ x : Fin 16, cpu.bus.memory.readWord (cpu.state.pc - 2) =
        .ok (0xF00A + 0x100 * x.val)) := by
  have valid := reachable.valid
  have range := valid.range
  refine ⟨⟨Vector.length_toList, range.values⟩, ?index, range.counter, range.returns, ?delay,
    ?sound, ?memory, ?display, Vector.length_toList, ?waiting⟩
  case index => exact ⟨range.index.1, Int.le_of_lt_add_one range.index.2⟩
  case delay => exact ⟨range.delay.1, Int.le_of_lt_add_one range.delay.2⟩
  case sound => exact ⟨range.sound.1, Int.le_of_lt_add_one range.sound.2⟩
  case memory =>
      refine ⟨(Memory.length_toList _).trans valid.memory, fun address low high => ?_⟩
      obtain ⟨byte, present⟩ := cpu.bus.memory.read_of_inside address low (by
        rw [valid.memory]
        exact high)
      exact ⟨byte, present, Nat.le_of_lt_succ byte.toNat_lt⟩
  case display =>
      have width : cpu.bus.display.width = 64 := congrArg Prod.fst valid.display
      have height : cpu.bus.display.height = 32 := congrArg Prod.snd valid.display
      refine ⟨?_, fun row shown => ?_⟩
      · rw [Display.length_rows, height]
        rfl
      · rw [Display.length_row shown, width]
        rfl
  case waiting => exact fun halted => ⟨(valid.waiting halted).1, valid.wait_word halted⟩

theorem reachable_invariant_waiting :
    ((loaded [0xF3, 0x0A]).after .step).Reachable ∧
    ((loaded [0xF3, 0x0A]).after .step).state.halted = true ∧
    2 ≤ ((loaded [0xF3, 0x0A]).after .step).state.pc := by
  have fetches : (loaded [0xF3, 0x0A]).Fetches 0xF30A .waitKey :=
    fetches_of_loaded .default [0xF3, 0x0A] rfl (by decide) 0 (by decide) rfl rfl
  have released : (loaded [0xF3, 0x0A]).fetched.bus.keyboard.pressed.head? = none := by decide
  have waits : (loaded [0xF3, 0x0A]).executing 0xF30A .waitKey = _ :=
    Effect.waitKey_of_released 3 released
  have halted : ((loaded [0xF3, 0x0A]).after .step).state.halted = true := by
    rw [after_step, Action.after_of_ok (step_of_executed fetches waits)]
    rfl
  have reachable := (loaded_reachable [0xF3, 0x0A]).step
  have waiting := (reachable_invariant reachable).2.2.2.2.2.2.2.2.2
  exact ⟨reachable, halted, (waiting halted).1⟩

end Cpu

end Chip8
