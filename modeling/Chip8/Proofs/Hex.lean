import Mathlib.Algebra.Group.Nat.Defs
import Chip8.Text.Hex

namespace Chip8.Hex

def upperDigit (digit : Nat) : Char := (Nat.digitChar digit).toUpper

theorem upperDigits_of_lt {digit : Nat} (single : digit < 16) :
    upperDigits digit = [upperDigit digit] := by
  simp [upperDigits, lowerDigits, upperDigit, Nat.toDigits_of_lt_base single]

theorem upperDigits_of_le {number : Nat} (several : 16 ≤ number) :
    upperDigits number = upperDigits (number / 16) ++ [upperDigit (number % 16)] := by
  have last : number % 16 < 16 := Nat.mod_lt number (by decide)
  have front : 0 < number / 16 := Nat.div_pos several (by decide)
  have split := Nat.toDigits_append_toDigits (by decide) front last
  rw [Nat.div_add_mod, Nat.toDigits_of_lt_base last] at split
  simp [upperDigits, lowerDigits, upperDigit, ← split]

theorem toList_plain (width number : Nat) :
    (plain width number).toList =
      List.replicate (width - (upperDigits number).length) '0' ++ upperDigits number := by
  have positive : signOf number = [] := if_neg (Int.not_lt.mpr (Int.natCast_nonneg number))
  simp [plain, fill, positive]

theorem toList_plain_one {digit : Nat} (single : digit < 16) :
    (plain 1 digit).toList = [upperDigit digit] := by
  rw [toList_plain, upperDigits_of_lt single]
  rfl

theorem toList_plain_succ {width : Nat} (wide : 0 < width) (number : Nat) :
    (plain (width + 1) number).toList =
      (plain width (number / 16 : Nat)).toList ++ [upperDigit (number % 16)] := by
  rw [toList_plain, toList_plain]
  by_cases single : number < 16
  · -- Nothing is left of the number, which is still written as one zero.
    have empty : number / 16 = 0 := Nat.div_eq_of_lt single
    obtain ⟨width, rfl⟩ := Nat.exists_eq_add_one.mpr wide
    rw [empty, Nat.mod_eq_of_lt single, upperDigits_of_lt single, upperDigits_of_lt (by decide)]
    have zero : upperDigit 0 = '0' := by decide
    simp [List.replicate_succ', zero]
  · rw [upperDigits_of_le (Nat.not_lt.mp single)]
    simp

theorem digit_of_mem_upperDigits {number : Nat} {letter : Char}
    (present : letter ∈ upperDigits number) : ∃ digit : Fin 16, letter = upperDigit digit := by
  induction number using Nat.strongRecOn with
  | _ number ih =>
      by_cases single : number < 16
      · rw [upperDigits_of_lt single, List.mem_singleton] at present
        exact ⟨⟨number, single⟩, present⟩
      · rw [upperDigits_of_le (Nat.not_lt.mp single), List.mem_append, List.mem_singleton]
          at present
        cases present with
        | inl front => exact ih (number / 16) (by omega) front
        | inr last => exact ⟨⟨number % 16, Nat.mod_lt number (by decide)⟩, last⟩

theorem mem_plain {width : Nat} {value : Int} {letter : Char}
    (present : letter ∈ (plain width value).toList) :
    letter = '-' ∨ ∃ digit : Fin 16, letter = upperDigit digit := by
  rw [plain, fill, String.toList_ofList, List.mem_append, List.mem_append] at present
  rcases present with (sign | padding) | digits
  · rw [signOf] at sign
    split at sign
    · exact .inl (List.mem_singleton.mp sign)
    · cases sign
  · have zero : '0' = upperDigit (0 : Fin 16) := by decide
    exact .inr ⟨0, (List.eq_of_mem_replicate padding).trans zero⟩
  · exact .inr (digit_of_mem_upperDigits digits)

theorem notMem_plain (letter : Char) (sign : letter ≠ '-')
    (apart : ∀ digit : Fin 16, letter ≠ upperDigit digit) (width : Nat) (value : Int) :
    letter ∉ (plain width value).toList := by
  intro present
  rcases mem_plain present with minus | ⟨digit, same⟩
  · exact sign minus
  · exact apart digit same

theorem length_plain (width : Nat) (value : Int) :
    (plain width value).length =
      max width ((signOf value).length + (upperDigits value.natAbs).length) := by
  rw [plain, String.length_ofList, length_fill]

theorem length_upperDigits_le_iff {width : Nat} (wide : 0 < width) (number : Nat) :
    (upperDigits number).length ≤ width ↔ number < 16 ^ width := by
  rw [upperDigits, lowerDigits, List.length_map]
  exact Nat.length_toDigits_le_iff (by decide) wide

theorem length_plain_of_fits {width : Nat} (wide : 0 < width) {value : Int} (low : 0 ≤ value)
    (fits : value < (16 ^ width : Nat)) : (plain width value).length = width := by
  have unsigned : signOf value = [] := if_neg (Int.not_lt.mpr low)
  have short := (length_upperDigits_le_iff wide value.natAbs).mpr (by omega)
  rw [length_plain, unsigned, List.length_nil]
  omega

theorem width_lt_length_plain_iff {width : Nat} (wide : 0 < width) (number : Nat) :
    width < (plain width number).length ↔ 16 ^ width ≤ number := by
  have unsigned : signOf (number : Int) = [] := if_neg (by omega)
  have digits := length_upperDigits_le_iff wide number
  rw [length_plain, unsigned, List.length_nil, Int.natAbs_natCast]
  omega

def digit? (letter : Char) : Option Nat :=
  if '0' ≤ letter ∧ letter ≤ '9' then some (letter.toNat - '0'.toNat)
  else if 'A' ≤ letter ∧ letter ≤ 'F' then some (letter.toNat - 'A'.toNat + 10)
  else none

/-- The number that begins with `total` and goes on with the given digits. -/
def readOn? (total : Nat) : List Char → Option Nat
  | [] => some total
  | letter :: rest => (digit? letter).bind fun digit => readOn? (total * 16 + digit) rest

def readDigits? (letters : List Char) : Option Nat :=
  if letters = [] then none else readOn? 0 letters

def read? (letters : List Char) : Option Int :=
  match letters with
  | '-' :: digits => (readDigits? digits).map fun magnitude : Nat => -(magnitude : Int)
  | _ => (readDigits? letters).map Int.ofNat

theorem digit_upperDigit {digit : Nat} (single : digit < 16) :
    digit? (upperDigit digit) = some digit := by
  have digits : ∀ one : Fin 16, digit? (upperDigit one) = some one.val := by decide
  exact digits ⟨digit, single⟩

theorem readOn_append (total : Nat) (letters rest : List Char) :
    readOn? total (letters ++ rest) =
      (readOn? total letters).bind fun middle => readOn? middle rest := by
  induction letters generalizing total with
  | nil => rfl
  | cons letter letters ih =>
      rw [List.cons_append, readOn?, readOn?, Option.bind_assoc]
      exact Option.bind_congr fun digit _ => ih _

theorem readOn_zeros (count : Nat) : readOn? 0 (List.replicate count '0') = some 0 := by
  induction count with
  | zero => rfl
  | succ count ih => exact ih

theorem readOn_upperDigits (number : Nat) : readOn? 0 (upperDigits number) = some number := by
  induction number using Nat.strongRecOn with
  | _ number ih =>
      by_cases single : number < 16
      · rw [upperDigits_of_lt single, readOn?, digit_upperDigit single]
        simp [readOn?]
      · have last : number % 16 < 16 := Nat.mod_lt number (by decide)
        rw [upperDigits_of_le (Nat.not_lt.mp single), readOn_append, ih (number / 16) (by omega)]
        simp only [Option.bind_some, readOn?, digit_upperDigit last, Nat.div_add_mod']

theorem upperDigits_ne_nil (number : Nat) : upperDigits number ≠ [] := by
  by_cases single : number < 16
  · simp [upperDigits_of_lt single]
  · simp [upperDigits_of_le (Nat.not_lt.mp single)]

theorem readDigits_padded (count number : Nat) :
    readDigits? (List.replicate count '0' ++ upperDigits number) = some number := by
  have present : List.replicate count '0' ++ upperDigits number ≠ [] := by
    simp [upperDigits_ne_nil]
  rw [readDigits?, if_neg present, readOn_append, readOn_zeros]
  exact readOn_upperDigits number

theorem read_of_readDigits {letters : List Char} {number : Nat}
    (found : readDigits? letters = some number) : read? letters = some (number : Int) := by
  have minus : digit? '-' = none := by decide
  unfold read?
  split
  next => simp [readDigits?, readOn?, minus] at found
  next =>
      rw [found]
      rfl

/-- A padded writing has one value, whatever the width, and whether or not there is a sign. -/
theorem read_plain (width : Nat) (value : Int) : read? (plain width value).toList = some value := by
  by_cases negative : value < 0
  · have sign : signOf value = ['-'] := if_pos negative
    rw [plain, fill, sign, String.toList_ofList, List.cons_append, List.cons_append,
      List.nil_append, read?, readDigits_padded, Option.map_some]
    congr 1
    omega
  · have sign : signOf value = [] := if_neg negative
    rw [plain, fill, sign, String.toList_ofList, List.nil_append,
      read_of_readDigits (readDigits_padded _ _)]
    congr 1
    omega

theorem plain_inj {width : Nat} {first second : Int}
    (same : plain width first = plain width second) : first = second := by
  apply Option.some.inj
  rw [← read_plain width, same, read_plain]

end Chip8.Hex
