import Mathlib.Data.List.Basic
import Mathlib.Data.List.Nodup
import Chip8.Proofs.Field
import Chip8.Proofs.Hex
/-!
Reading a listing back. A line of it falls apart into the mnemonic and the operands, these tell
which pattern it is, and each operand gives back the field that it shows. So a line says all that an
instruction does, though mnemonics are shared and some digits of a word are not shown.
-/

namespace Chip8

namespace Listing

theorem append_cons_inj {separator : Char} {first second rest rest' : List Char}
    (absent : separator ∉ first) (absent' : separator ∉ second)
    (same : first ++ separator :: rest = second ++ separator :: rest') :
    first = second ∧ rest = rest' := by
  induction first generalizing second with
  | nil =>
      cases second with
      | nil => exact ⟨rfl, List.tail_eq_of_cons_eq same⟩
      | cons letter letters =>
          have head : separator = letter := List.head_eq_of_cons_eq same
          rw [head] at absent'
          exact absurd List.mem_cons_self absent'
  | cons letter letters ih =>
      cases second with
      | nil =>
          have head : letter = separator := List.head_eq_of_cons_eq same
          rw [head] at absent
          exact absurd List.mem_cons_self absent
      | cons letter' letters' =>
          rw [List.mem_cons, not_or] at absent absent'
          rw [List.cons_append, List.cons_append, List.cons.injEq] at same
          obtain ⟨fronts, rests⟩ := ih absent.2 absent'.2 same.2
          rw [same.1, fronts]
          exact ⟨rfl, rests⟩

/-- Parts that do not contain the first letter of the separator are found again in what they were
joined to. -/
theorem intercalate_inj {separator : Char} {more : List Char} {first second : List (List Char)}
    (some : first ≠ []) (some' : second ≠ []) (absent : ∀ part ∈ first, separator ∉ part)
    (absent' : ∀ part ∈ second, separator ∉ part)
    (same : (separator :: more).intercalate first = (separator :: more).intercalate second) :
    first = second := by
  induction first generalizing second with
  | nil => contradiction
  | cons part parts ih =>
      cases second with
      | nil => contradiction
      | cons part' parts' =>
          have apart := absent part List.mem_cons_self
          have apart' := absent' part' List.mem_cons_self
          cases parts with
          | nil =>
              cases parts' with
              | nil =>
                  rw [List.intercalate_singleton, List.intercalate_singleton] at same
                  rw [same]
              | cons next' rest' =>
                  rw [List.intercalate_singleton, List.intercalate_cons_cons] at same
                  simp [same] at apart
          | cons next rest =>
              cases parts' with
              | nil =>
                  rw [List.intercalate_singleton, List.intercalate_cons_cons] at same
                  simp [← same] at apart'
              | cons next' rest' =>
                  simp only [List.intercalate_cons_cons, List.append_assoc,
                    List.cons_append] at same
                  obtain ⟨heads, tails⟩ := append_cons_inj apart apart' same
                  have others := ih (List.cons_ne_nil next rest) (List.cons_ne_nil next' rest')
                    (fun other present => absent other (List.mem_cons_of_mem part present))
                    (fun other present => absent' other (List.mem_cons_of_mem part' present))
                    (List.append_cancel_left tails)
                  rw [heads, others]

end Listing

namespace Operation

structure Separable (operation : Operation) : Prop where
  mnemonic : ' ' ∉ operation.mnemonic.toList
  operands : ∀ operand ∈ operation.operands, ',' ∉ operand.toList

def tail (operation : Operation) : List Char :=
  [',', ' '].intercalate (operation.operands.map String.toList)

theorem toList_text (operation : Operation) (some : operation.operands ≠ []) :
    operation.text.toList = operation.mnemonic.toList ++ ' ' :: operation.tail := by
  rw [text]
  split
  next none => exact absurd none some
  next =>
    simp only [String.toList_append, String.toList_intercalate, List.append_assoc, tail]
    rfl

theorem toList_text_of_nil (operation : Operation) (none : operation.operands = []) :
    operation.text.toList = operation.mnemonic.toList := by
  rw [text, none]

theorem text_inj {one other : Operation} (clean : one.Separable) (clean' : other.Separable)
    (same : one.text = other.text) :
    one.mnemonic = other.mnemonic ∧ one.operands = other.operands := by
  have letters := congrArg String.toList same
  by_cases none : one.operands = []
  · rw [toList_text_of_nil one none] at letters
    by_cases none' : other.operands = []
    · rw [toList_text_of_nil other none'] at letters
      exact ⟨String.toList_inj.mp letters, none.trans none'.symm⟩
    · have apart := clean.mnemonic
      rw [letters, toList_text other none'] at apart
      exact absurd (List.mem_append_right _ List.mem_cons_self) apart
  · rw [toList_text one none] at letters
    by_cases none' : other.operands = []
    · have apart := clean'.mnemonic
      rw [← toList_text_of_nil other none', ← letters] at apart
      exact absurd (List.mem_append_right _ List.mem_cons_self) apart
    · rw [toList_text other none'] at letters
      obtain ⟨mnemonics, tails⟩ :=
        Listing.append_cons_inj clean.mnemonic clean'.mnemonic letters
      have operands : one.operands.map String.toList = other.operands.map String.toList := by
        refine Listing.intercalate_inj (by simpa using none) (by simpa using none') ?_ ?_ tails
        · simpa using clean.operands
        · simpa using clean'.operands
      exact ⟨String.toList_inj.mp mnemonics,
        List.map_injective_iff.mpr (fun _ _ => String.toList_inj.mp) operands⟩

end Operation

namespace Field

theorem text_inj {part : Field} {first second : Opcode}
    (same : part.text first = part.text second) : part.value first = part.value second := by
  have digits {width one other : Nat} {lead : String}
      (same : lead ++ Hex.plain width one = lead ++ Hex.plain width other) : one = other :=
    Int.ofNat_inj.mp (Hex.plain_inj ((String.append_right_inj _).mp same))
  cases part with
  | x | y | nn | nnn => exact digits same
  | n =>
      have digits : ∀ one other : Fin 16, toString one.val = toString other.val → one = other := by
        decide
      exact congrArg Fin.val (digits first.n second.n same)

end Field

namespace Listing

/-- What a text begins with, where all decimal digits count as one. -/
def start (text : String) : Option Char :=
  text.toList.head?.map fun letter => if letter.isDigit then '0' else letter

theorem start_append {lead : String} (some : lead.toList ≠ []) (rest : String) :
    start (lead ++ rest) = start lead := by
  rw [start, String.toList_append, List.head?_append_of_ne_nil _ some, start]

theorem comma_notMem_append {lead : String} (apart : ',' ∉ lead.toList) (width number : Nat) :
    ',' ∉ (lead ++ Hex.plain width number).toList := by
  rw [String.toList_append, List.mem_append, not_or]
  exact ⟨apart, Hex.notMem_plain ',' (by decide) (by decide) width number⟩

end Listing

theorem Field.comma_notMem_text (part : Field) (word : Opcode) :
    ',' ∉ (part.text word).toList := by
  cases part with
  | x => exact Listing.comma_notMem_append (by decide) 1 word.x
  | y => exact Listing.comma_notMem_append (by decide) 1 word.y
  | n =>
      have decimal : ∀ digit : Fin 16, ',' ∉ (toString digit.val).toList := by decide
      exact decimal word.n
  | nn => exact Listing.comma_notMem_append (by decide) 2 word.nn
  | nnn => exact Listing.comma_notMem_append (by decide) 3 word.nnn

namespace Slot

def start : Slot → Option Char
  | .name text => Listing.start text
  | .field .x | .field .y => some 'V'
  | .field .n => some '0'
  | .field .nn => some '#'
  | .field .nnn => some '$'

theorem start_text (slot : Slot) (word : Opcode) : Listing.start (slot.text word) = slot.start := by
  cases slot with
  | name text => rfl
  | field part =>
      cases part with
      | x | y | nn | nnn => exact Listing.start_append (by decide) _
      | n =>
          have digits : ∀ digit : Fin 16, Listing.start (toString digit.val) = some '0' := by decide
          exact digits word.n

end Slot

namespace Pattern

/-- What tells patterns apart in a listing: the mnemonic, and what each operand begins with. -/
def outline (pattern : Pattern) : String × List (Option Char) :=
  (pattern.mnemonic, pattern.slots.map Slot.start)

theorem outline_inj {one other : Pattern} (same : one.outline = other.outline) : one = other := by
  have distinct : (all.map outline).Nodup := by decide +kernel
  exact List.inj_on_of_nodup_map distinct one.mem_all other.mem_all same

theorem outline_eq (pattern : Pattern) (word : Opcode) :
    pattern.outline = (pattern.mnemonic, (pattern.operands word).map Listing.start) := by
  rw [outline, operands_eq, List.map_map]
  congr 2
  funext slot
  exact (slot.start_text word).symm

theorem sameFields_of_operands {pattern : Pattern} {first second : Opcode}
    (same : pattern.operands first = pattern.operands second) :
    pattern.SameFields first second := by
  rw [operands_eq, operands_eq, List.map_inj_left] at same
  intro part shown
  exact Field.text_inj (same _ (mem_fields.mp shown))

end Pattern

namespace Operation

open Pattern

theorem separable_ofPattern (pattern : Pattern) (word : Opcode) (address : Option Int) :
    (ofPattern pattern word address).Separable where
  mnemonic := by
    change ' ' ∉ pattern.mnemonic.toList
    cases pattern <;> decide
  operands := by
    have names : ∀ text, Slot.name text ∈ pattern.slots → ',' ∉ text.toList := by
      cases pattern <;> simp [slots]
    intro operand present
    rw [ofPattern, operands_eq] at present
    obtain ⟨slot, listed, rfl⟩ := List.mem_map.mp present
    cases slot with
    | name text => exact names text listed
    | field part => exact part.comma_notMem_text word

/-- A line of a listing says all that the instruction does. It tells the pattern, and the operands
are the fields of the word that the instruction reads. -/
theorem text_determines_effect (first second : Opcode) (address : Option Int)
    (one other : Operation) (decoded : decode first address = .ok one)
    (decoded' : decode second address = .ok other) (same : one.text = other.text) :
    (∃ pattern : Pattern, one.pattern = pattern.text ∧ other.pattern = pattern.text ∧
      one.operands = pattern.slots.map (Slot.text first) ∧
      other.operands = pattern.slots.map (Slot.text second) ∧
      (∀ part : Field, pattern.Reads part ↔ .field part ∈ pattern.slots) ∧
      ∀ part : Field, pattern.Reads part → part.value first = part.value second) ∧
    ∀ machine, one.execute machine = other.execute machine := by
  obtain ⟨pattern, found, rfl⟩ := decode_eq_ok.mp decoded
  obtain ⟨pattern', found', rfl⟩ := decode_eq_ok.mp decoded'
  obtain ⟨mnemonics, operands⟩ :=
    text_inj (separable_ofPattern _ _ _) (separable_ofPattern _ _ _) same
  have patterns : pattern = pattern' := by
    apply outline_inj
    rw [outline_eq pattern first, outline_eq pattern' second]
    exact Prod.ext mnemonics (congrArg (List.map Listing.start) operands)
  subst patterns
  have fields : pattern.SameFields first second := sameFields_of_operands operands
  refine ⟨⟨pattern, rfl, rfl, pattern.operands_eq first, pattern.operands_eq second, ?_, ?_⟩, ?_⟩
  · intro part
    rw [reads_iff, mem_fields]
  · intro part reads
    exact fields part ((reads_iff part).mp reads)
  · intro machine
    rw [Cpu.execute_ofPattern, Cpu.execute_ofPattern, effect_congr fields]

theorem text_determines_effect_unread_digit :
    decode 0x5120 (some 0x200) = .ok (ofPattern .skipEq 0x5120 (some 0x200)) ∧
    decode (-0xAEDD) (some 0x200) = .ok (ofPattern .skipEq (-0xAEDD) (some 0x200)) ∧
    (ofPattern .skipEq 0x5120 (some 0x200)).text = "SE V1, V2" ∧
    (ofPattern .skipEq (-0xAEDD) (some 0x200)).text = "SE V1, V2" ∧
    ∀ machine, (ofPattern .skipEq 0x5120 (some 0x200)).execute machine =
      (ofPattern .skipEq (-0xAEDD) (some 0x200)).execute machine := by
  refine ⟨rfl, rfl, rfl, rfl, ?_⟩
  exact (text_determines_effect 0x5120 (-0xAEDD) (some 0x200)
    (ofPattern .skipEq 0x5120 (some 0x200)) (ofPattern .skipEq (-0xAEDD) (some 0x200))
    rfl rfl rfl).2

end Operation

end Chip8
