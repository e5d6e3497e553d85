namespace Chip8

abbrev Opcode := Int

namespace Opcode

def low (word : Opcode) : Nat := (word % 0x10000).toNat

def lastDigit (number : Nat) : Fin 16 := ⟨number % 16, Nat.mod_lt number (by decide)⟩

def family (word : Opcode) : Fin 16 := lastDigit (word.low / 0x1000)

def x (word : Opcode) : Fin 16 := lastDigit (word.low / 0x100)

def y (word : Opcode) : Fin 16 := lastDigit (word.low / 0x10)

def n (word : Opcode) : Fin 16 := lastDigit word.low

def nn (word : Opcode) : Nat := word.low % 0x100

def nnn (word : Opcode) : Nat := word.low % 0x1000

theorem low_mod (word : Opcode) : Opcode.low (word % 0x10000) = word.low := by
  simp [low]

theorem nn_lt (word : Opcode) : word.nn < 256 := Nat.mod_lt _ (by decide)

theorem nnn_lt (word : Opcode) : word.nnn < 4096 := Nat.mod_lt _ (by decide)

end Opcode

end Chip8
