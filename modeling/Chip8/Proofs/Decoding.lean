import Chip8.Operation
import Chip8.Proofs.Hex
/-!
Which words belong to which pattern. The decoder looks at the leading digit of a word, and then at
as many of the last digits as tell the family's patterns apart. So a word decodes to a pattern if it
has the pattern's digits, but for four digits of the table at which nobody looks.
-/

namespace Chip8

namespace Opcode

theorem low_lt (word : Opcode) : word.low < 0x10000 := by
  rw [low]
  omega

def written (word : Opcode) : List Char := (Hex.plain 4 word.low).toList

def digitChar (digit : Fin 16) : Char := Hex.upperDigit digit

theorem digitChar_inj (first second : Fin 16) :
    digitChar first = digitChar second ↔ first = second := by
  revert first second
  decide

theorem written_eq (word : Opcode) :
    word.written = [word.family, word.x, word.y, word.n].map digitChar := by
  have leading : word.low / 16 / 16 / 16 < 16 := by
    have small := word.low_lt
    omega
  rw [written, Hex.toList_plain_succ (by decide), Hex.toList_plain_succ (by decide),
    Hex.toList_plain_succ (by decide), Hex.toList_plain_one leading]
  rw [← Nat.mod_eq_of_lt leading]
  simp [digitChar, family, x, y, n, lastDigit, Nat.div_div_eq_div_mul]

theorem nn_eq_iff (word : Opcode) (low : Fin 256) :
    word.nn = low ↔ word.y = lastDigit (low / 16) ∧ word.n = lastDigit low := by
  simp only [nn, y, n, lastDigit, Fin.ext_iff]
  omega

end Opcode

namespace Pattern

open Opcode

/-- What the decoder looks at behind the leading digit. -/
inductive Selector where
  | none
  | digit (last : Fin 16)
  | byte (low : Fin 256)
  deriving DecidableEq, Repr

namespace Selector

def Selects : Selector → Opcode → Prop
  | none, _ => True
  | digit last, word => word.n = last
  | byte low, word => word.nn = low

def third : Selector → Option (Fin 16)
  | byte low => some (lastDigit (low / 16))
  | _ => Option.none

def fourth : Selector → Option (Fin 16)
  | none => Option.none
  | digit last => some last
  | byte low => some (lastDigit low)

theorem selects_iff (selector : Selector) (word : Opcode) :
    selector.Selects word ↔
      (∀ digit, selector.third = some digit → word.y = digit) ∧
        ∀ digit, selector.fourth = some digit → word.n = digit := by
  cases selector with
  | none => simp [Selects, third, fourth]
  | digit last => simp [Selects, third, fourth]
  | byte low => simp [Selects, third, fourth, nn_eq_iff]

end Selector

def family (pattern : Pattern) : Fin 16 :=
  lastDigit <| match pattern with
  | clear | ret => 0x0 | jump => 0x1 | call => 0x2 | skipEqByte => 0x3 | skipNeByte => 0x4
  | skipEq => 0x5 | loadByte => 0x6 | addByte => 0x7
  | copy | or | and | xor | add | sub | shiftRight | subFrom | shiftLeft => 0x8
  | skipNe => 0x9 | loadIndex => 0xA | jumpOffset => 0xB | random => 0xC | draw => 0xD
  | skipPressed | skipReleased => 0xE
  | readDelay | waitKey | setDelay | setSound | addIndex | loadGlyph | storeDecimal | save
  | restore => 0xF

def selector : Pattern → Selector
  | clear => .byte 0xE0 | ret => .byte 0xEE
  | copy => .digit (lastDigit 0x0) | or => .digit (lastDigit 0x1) | and => .digit (lastDigit 0x2)
  | xor => .digit (lastDigit 0x3) | add => .digit (lastDigit 0x4) | sub => .digit (lastDigit 0x5)
  | shiftRight => .digit (lastDigit 0x6) | subFrom => .digit (lastDigit 0x7)
  | shiftLeft => .digit (lastDigit 0xE)
  | skipPressed => .byte 0x9E | skipReleased => .byte 0xA1
  | readDelay => .byte 0x07 | waitKey => .byte 0x0A | setDelay => .byte 0x15
  | setSound => .byte 0x18 | addIndex => .byte 0x1E | loadGlyph => .byte 0x29
  | storeDecimal => .byte 0x33 | save => .byte 0x55 | restore => .byte 0x65
  | _ => .none

variable {word : Opcode} {pattern : Pattern}

theorem of_ofArithmetic {last : Fin 16} (found : ofArithmetic? last = some pattern) :
    pattern.family = 0x8 ∧ pattern.selector = .digit last := by
  unfold ofArithmetic? at found
  split at found <;> cases found <;> exact ⟨rfl, rfl⟩

theorem of_ofTransfer {low : Nat} (found : ofTransfer? low = some pattern) :
    pattern.family = 0xF ∧ ∃ byte : Fin 256, pattern.selector = .byte byte ∧ low = byte := by
  unfold ofTransfer? at found
  split at found <;> cases found <;> exact ⟨rfl, _, rfl, rfl⟩

/-- The decoder finds a pattern by the leading digit and the selector of the pattern. -/
theorem ofOpcode_eq_some :
    ofOpcode? word = some pattern ↔
      word.family = pattern.family ∧ pattern.selector.Selects word := by
  constructor
  · intro found
    unfold ofOpcode? at found
    split at found
    case h_1 leading | h_15 leading =>
      split at found
      next low =>
        cases found
        exact ⟨leading, low⟩
      next =>
        split at found
        next low =>
          cases found
          exact ⟨leading, low⟩
        next => cases found
    case h_9 leading =>
      have table := of_ofArithmetic found
      rw [table.1, table.2]
      exact ⟨leading, rfl⟩
    case h_16 =>
      have table := of_ofTransfer found
      rw [table.1]
      constructor
      · -- The match leaves this family for last, and so says which ones it is not.
        generalize word.family = leading at *
        revert leading
        decide
      · obtain ⟨byte, selected, low⟩ := table.2
        rw [selected]
        exact low
    all_goals
      next leading =>
        cases found
        exact ⟨leading, trivial⟩
  · intro ⟨leading, selected⟩
    rw [ofOpcode?, leading]
    cases pattern
    case copy | or | and | xor | add | sub | shiftRight | subFrom | shiftLeft =>
      rw [show word.n = _ from selected]
      rfl
    case clear | ret | skipPressed | skipReleased | readDelay | waitKey | setDelay | setSound
        | addIndex | loadGlyph | storeDecimal | save | restore =>
      rw [show word.nn = _ from selected]
      rfl
    all_goals rfl

def freeLetters : List Char := ['X', 'Y', 'N']

/-- The word is written with the digits of the pattern, but for the places excepted. -/
def AgreesBut (excepted : List (Pattern × Nat)) (pattern : Pattern) (word : Opcode) : Prop :=
  ∀ place letter, (pattern, place) ∉ excepted → pattern.text.toList[place]? = some letter →
    letter ∉ freeLetters → word.written[place]? = some letter

/-- The digits at which nobody looks: the last one of `5XY0` and `9XY0`, and the second one of
`00E0` and `00EE`. -/
def unread : List (Pattern × Nat) := [(skipEq, 3), (skipNe, 3), (clear, 1), (ret, 1)]

def compared (pattern : Pattern) : List (Option (Fin 16)) :=
  [some pattern.family, none, pattern.selector.third, pattern.selector.fourth]

theorem compared_text (pattern : Pattern) :
    (pattern.text.toList.zipIdx.map fun entry =>
      if (pattern, entry.2) ∈ unread ∨ entry.1 ∈ freeLetters then none else some entry.1) =
      pattern.compared.map (Option.map digitChar) := by
  cases pattern <;> decide

theorem compared_iff (pattern : Pattern) (place : Nat) (letter : Char) :
    (∃ digit, pattern.compared[place]? = some (some digit) ∧ digitChar digit = letter) ↔
      (pattern, place) ∉ unread ∧ pattern.text.toList[place]? = some letter ∧
        letter ∉ freeLetters := by
  have here := congrArg (fun letters => letters[place]?) pattern.compared_text
  simp only [List.getElem?_map, List.getElem?_zipIdx, Nat.zero_add] at here
  have shown : (∃ digit, pattern.compared[place]? = some (some digit) ∧ digitChar digit = letter) ↔
      pattern.compared[place]?.map (Option.map digitChar) = some (some letter) := by
    simp only [Option.map_eq_some_iff]
    constructor
    · intro ⟨digit, present, same⟩
      exact ⟨some digit, present, digit, rfl, same⟩
    · intro ⟨_, present, digit, compared, same⟩
      exact ⟨digit, compared ▸ present, same⟩
  rw [shown, ← here]
  cases pattern.text.toList[place]? with
  | none => simp
  | some other =>
      by_cases skipped : (pattern, place) ∈ unread ∨ other ∈ freeLetters
      · simp only [Option.map_some, if_pos skipped, reduceCtorEq, Option.some.injEq, false_iff]
        intro ⟨looked, same, literal⟩
        subst same
        exact skipped.elim looked literal
      · simp only [Option.map_some, if_neg skipped, Option.some.injEq]
        obtain ⟨looked, literal⟩ := not_or.mp skipped
        constructor
        · intro same
          exact ⟨looked, same, same ▸ literal⟩
        · intro ⟨_, same, _⟩
          exact same

theorem agreesBut_unread_iff_compared :
    pattern.AgreesBut unread word ↔
      ∀ (place : Nat) (digit : Fin 16), pattern.compared[place]? = some (some digit) →
        [word.family, word.x, word.y, word.n][place]? = some digit := by
  have written (place : Nat) (digit : Fin 16) :
      word.written[place]? = some (digitChar digit) ↔
        [word.family, word.x, word.y, word.n][place]? = some digit := by
    rw [written_eq, List.getElem?_map]
    simp [Option.map_eq_some_iff, digitChar_inj]
  constructor
  · intro agrees place digit present
    have conditions := (pattern.compared_iff place _).mp ⟨digit, present, rfl⟩
    apply (written place digit).mp
    exact agrees place _ conditions.1 conditions.2.1 conditions.2.2
  · intro agrees place letter looked here literal
    obtain ⟨digit, present, rfl⟩ := (pattern.compared_iff place letter).mpr ⟨looked, here, literal⟩
    apply (written place digit).mpr
    exact agrees place digit present

/-- A word has the digits of a pattern if the decoder finds the pattern. -/
theorem agreesBut_unread_iff : pattern.AgreesBut unread word ↔ ofOpcode? word = some pattern := by
  rw [agreesBut_unread_iff_compared, ofOpcode_eq_some, Selector.selects_iff]
  constructor
  · intro agrees
    refine ⟨by simpa using agrees 0 pattern.family rfl, ?_, ?_⟩
    · intro digit third
      simpa using agrees 2 digit (congrArg some third)
    · intro digit fourth
      simpa using agrees 3 digit (congrArg some fourth)
  · intro ⟨leading, third, fourth⟩ place digit present
    match place with
    | 0 => simpa [compared, leading] using present
    | 1 => simp [compared] at present
    | 2 =>
      have same := third digit (Option.some.inj present)
      simp [same]
    | 3 =>
      have same := fourth digit (Option.some.inj present)
      simp [same]
    | place + 4 => simp [compared] at present

end Pattern

namespace Operation

open Pattern

theorem decode_eq_ok {word : Opcode} {address : Option Int} {operation : Operation} :
    decode word address = .ok operation ↔
      ∃ pattern, ofOpcode? word = some pattern ∧ operation = ofPattern pattern word address := by
  rw [decode]
  constructor
  · intro decoded
    split at decoded
    next pattern found =>
      cases decoded
      exact ⟨pattern, found, rfl⟩
    next => cases decoded
  · rintro ⟨pattern, found, rfl⟩
    rw [found]

/-- Decoding compares the digits of a word with those of the patterns, all but four of which count.
A word that agrees with no pattern is refused with the word and its address. -/
theorem decode_agrees (word : Opcode) (address : Option Int) :
    (∀ operation, decode word address = .ok operation →
      ∃ pattern : Pattern, operation.pattern = pattern.text ∧ pattern.AgreesBut unread word) ∧
    (∀ pattern : Pattern, pattern.AgreesBut unread word →
      ∃ operation, decode word address = .ok operation ∧ operation.pattern = pattern.text) ∧
    ((∀ pattern : Pattern, ¬pattern.AgreesBut unread word) →
      decode word address = .error (.undefinedOpcode word address)) := by
  simp only [agreesBut_unread_iff]
  refine ⟨?sound, ?complete, ?refused⟩
  case sound =>
    intro operation decoded
    rw [decode] at decoded
    split at decoded
    next pattern found =>
      cases decoded
      exact ⟨pattern, rfl, found⟩
    next => cases decoded
  case complete =>
    intro pattern found
    rw [decode, found]
    exact ⟨_, rfl, rfl⟩
  case refused =>
    intro none
    rw [decode, Option.eq_none_iff_forall_ne_some.mpr none]

/-- The second digit of a word that clears the screen is not compared. -/
theorem decode_overlooks_second_digit :
    ∃ operation, decode 0x01E0 (some 0) = .ok operation ∧ operation.pattern = "00E0" ∧
      ¬clear.AgreesBut [(skipEq, 3), (skipNe, 3)] 0x01E0 := by
  refine ⟨_, rfl, rfl, ?_⟩
  intro agrees
  have second := agrees 1 '0' (by decide) rfl (by decide)
  cases second

end Operation

end Chip8
