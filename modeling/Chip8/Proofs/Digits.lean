import Mathlib.Algebra.Group.Int.Defs
import Chip8.Fault

namespace Chip8

namespace Numeral

theorem not_endless_iff {number : Int} :
    ¬Endless number ↔ (Nat.toDigits 10 number.natAbs).length ≤ 4300 :=
  Nat.not_lt

theorem not_endless_of_lt {number : Int} (small : number.natAbs < 1000) : ¬Endless number := by
  have short : (Nat.toDigits 10 number.natAbs).length ≤ 3 :=
    (Nat.length_toDigits_le_iff (by decide) (by decide)).mpr small
  exact not_endless_iff.mpr (by omega)

theorem lt_length_toDigits (places : Nat) (positive : 0 < places) :
    places < (Nat.toDigits 10 ((10 : Int) ^ places).natAbs).length := by
  apply Nat.lt_of_not_le
  rw [Nat.length_toDigits_le_iff (by decide) positive, Int.natAbs_pow]
  exact Nat.lt_irrefl _

theorem endless_pow : Endless (10 ^ 4300) := lt_length_toDigits 4300 (by decide)

end Numeral

theorem Fault.kind_unknownKey (number : Int) :
    (Fault.unknownKey number).kind? =
      if (Nat.toDigits 10 number.natAbs).length ≤ 4300 then some .keyBounds else none := by
  rw [kind?]
  by_cases short : (Nat.toDigits 10 number.natAbs).length ≤ 4300
  · rw [if_pos short, if_neg (Numeral.not_endless_iff.mpr short)]
  · have long : Numeral.Endless number := Nat.not_le.mp short
    rw [if_neg short, if_pos long]

end Chip8
