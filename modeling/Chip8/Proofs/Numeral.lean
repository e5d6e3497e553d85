import Mathlib.Algebra.Group.Int.Defs
import Mathlib.Data.List.Forall2
import Chip8.Config.Reader
import Chip8.Proofs.Digits

namespace Chip8

theorem Text.eq_ofChars {text : Text} {letters : List Char} (read : text.chars? = some letters) :
    text = Text.ofChars letters := by
  obtain ⟨points⟩ := text
  rw [chars?] at read
  induction points generalizing letters with
  | nil =>
      cases read
      rfl
  | cons point rest ih =>
      rw [List.mapM_cons] at read
      cases point with
      | half => cases read
      | char letter =>
          obtain ⟨_, ⟨⟩, tail⟩ := Option.bind_eq_some_iff.mp read
          obtain ⟨others, found, ⟨⟩⟩ := Option.bind_eq_some_iff.mp tail
          exact congrArg (fun text : Text => Text.mk (.char letter :: text.points)) (ih found)

namespace Numeral

def StandFor (base : Nat) : List Char → List Nat → Prop :=
  List.Forall₂ fun letter digit => digitIn? base letter = some digit

/-- The number's digits, in whatever case and with any zeros in front. -/
def Spells (base number : Nat) (letters : List Char) : Prop :=
  ∃ zeros, letters.map Char.toLower = List.replicate zeros '0' ++ Nat.toDigits base number

section Letters

variable {base digit : Nat} {letter : Char}

theorem digitIn_eq_some :
    digitIn? base letter = some digit ↔ digit? letter = some digit ∧ digit < base := by
  rw [digitIn?, Option.filter_eq_some_iff, decide_eq_true_eq]

theorem digit_digitChar (single : digit < 16) : digit? (Nat.digitChar digit) = some digit := by
  have digits : ∀ one : Fin 16, digit? (Nat.digitChar one) = some one.val := by decide
  exact digits ⟨digit, single⟩

theorem toLower_of_not_upper (other : ¬(65 ≤ letter.toNat ∧ letter.toNat ≤ 90)) :
    letter.toLower = letter :=
  dif_neg other

theorem digit_toLower (letter : Char) : digit? letter.toLower = digit? letter := by
  by_cases upper : 65 ≤ letter.toNat ∧ letter.toNat ≤ 90
  · have alphabet : ∀ place : Fin 26, digit? (Char.ofNat (65 + place)).toLower =
        digit? (Char.ofNat (65 + place)) := by decide
    have here := alphabet ⟨letter.toNat - 65, by omega⟩
    rwa [Nat.add_sub_cancel' upper.1, Char.ofNat_toNat] at here
  · rw [toLower_of_not_upper upper]

def blanks : List Nat :=
  [0x09, 0x0A, 0x0B, 0x0C, 0x0D, 0x20, 0x85, 0xA0, 0x1680, 0x2000, 0x2001, 0x2002, 0x2003, 0x2004,
   0x2005, 0x2006, 0x2007, 0x2008, 0x2009, 0x200A, 0x2028, 0x2029, 0x202F, 0x205F, 0x3000]

theorem digit_of_blank (blank : Text.isBlank letter = true) : digit? letter = none := by
  have member : letter.toNat ∈ blanks := by
    simp only [Text.isBlank, Bool.or_eq_true, Bool.and_eq_true, decide_eq_true_eq, beq_iff_eq]
      at blank
    simp only [blanks, List.mem_cons, List.not_mem_nil, or_false]
    omega
  have none : ∀ code ∈ blanks, digit? (Char.ofNat code) = none := by decide
  have here := none letter.toNat member
  rwa [Char.ofNat_toNat] at here

/-- A digit is neither a blank nor a sign, nor does it stand between digits. -/
structure Solid (letter : Char) : Prop where
  blank : Text.isBlank letter = false
  underscore : letter ≠ '_'
  minus : letter ≠ '-'
  plus : letter ≠ '+'

theorem solid_of_digit (found : digitIn? base letter = some digit) : Solid letter := by
  obtain ⟨read, -⟩ := digitIn_eq_some.mp found
  have other : ∀ mark, digit? mark = none → letter ≠ mark := by
    rintro mark unread rfl
    cases unread.symm.trans read
  refine ⟨?_, other '_' (by decide), other '-' (by decide), other '+' (by decide)⟩
  cases blank : Text.isBlank letter with
  | false => rfl
  | true => exact absurd rfl (other letter (digit_of_blank blank))

end Letters

section Digits

variable {base : Nat} {letters : List Char} {digits : List Nat}

theorem digits_cons_cons {letter next : Char} {digit : Nat}
    (here : digitIn? base letter = some digit) {following : Nat}
    (there : digitIn? base next = some following) (more : List Char) :
    digits? base (letter :: next :: more) =
      (digits? base (next :: more)).map (digit :: ·) := by
  have solid := solid_of_digit there
  rw [digits?, here]
  simp only
  split
  next clash => cases clash
  next clash => exact absurd (List.head_eq_of_cons_eq clash) solid.underscore
  next same =>
      cases same
      rw [solid.blank]
      rfl

theorem digits_of_standFor (stand : StandFor base letters digits) (present : letters ≠ []) :
    digits? base letters = some digits := by
  induction stand with
  | nil => exact absurd rfl present
  | cons here tail ih =>
      cases tail with
      | nil => rw [digits?, here]
      | cons there others =>
          rw [digits_cons_cons here there, ih (List.cons_ne_nil _ _), Option.map_some]

def Legible (base : Nat) (letter : Char) : Prop :=
  digitIn? base letter ≠ none ∨ Text.isBlank letter = true ∨ letter = '_'

theorem legible_of_digit {letter : Char} {digit : Nat} (here : digitIn? base letter = some digit) :
    Legible base letter :=
  .inl (by rw [here]; exact Option.some_ne_none digit)

theorem legible_of_digits (read : digits? base letters = some digits) :
    ∀ letter ∈ letters, Legible base letter := by
  fun_induction digits? base letters generalizing digits with
  | case1 => cases read
  | case2 => cases read
  | case3 letter digit here => exact List.forall_mem_singleton.mpr (legible_of_digit here)
  | case4 letter digit here more ih =>
      -- An underscore stands between two digits.
      obtain ⟨others, found, -⟩ := Option.map_eq_some_iff.mp read
      rw [List.forall_mem_cons, List.forall_mem_cons]
      exact ⟨legible_of_digit here, .inr (.inr rfl), ih found⟩
  | case5 letter digit here next more _ blank blanks =>
      -- The rest is blank.
      rw [List.forall_mem_cons, List.forall_mem_cons]
      exact ⟨legible_of_digit here, .inr (.inl blank),
        fun other member => .inr (.inl (List.all_eq_true.mp blanks other member))⟩
  | case6 => cases read
  | case7 letter digit here next more _ _ ih =>
      obtain ⟨others, found, -⟩ := Option.map_eq_some_iff.mp read
      rw [List.forall_mem_cons]
      exact ⟨legible_of_digit here, ih found⟩

theorem digits_of_head (stray : ∀ letter ∈ letters.head?, digitIn? base letter = none) :
    digits? base letters = none := by
  cases letters with
  | nil => rfl
  | cons letter rest => rw [digits?, stray letter rfl]

theorem value_concat (base : Nat) (digits : List Nat) (last : Nat) :
    value base (digits ++ [last]) = value base digits * base + last := by
  rw [value, List.foldl_append]
  rfl

theorem value_zeros (base count : Nat) (digits : List Nat) :
    value base (List.replicate count 0 ++ digits) = value base digits := by
  induction count with
  | zero => rfl
  | succ count ih =>
      rw [List.replicate_succ, List.cons_append, ← ih, value, List.foldl_cons, Nat.zero_mul]
      rfl

theorem standFor_toDigits (several : 1 < base) (known : base ≤ 16) (number : Nat) :
    ∃ digits, StandFor base (Nat.toDigits base number) digits ∧ value base digits = number := by
  induction number using Nat.strongRecOn with
  | _ number ih =>
      by_cases single : number < base
      · refine ⟨[number], ?_, ?_⟩
        · rw [Nat.toDigits_of_lt_base single]
          exact .cons (digitIn_eq_some.mpr ⟨digit_digitChar (by omega), single⟩) .nil
        · rw [value, List.foldl_cons, List.foldl_nil, Nat.zero_mul, Nat.zero_add]
      · have last : number % base < base := Nat.mod_lt number (by omega)
        obtain ⟨front, stand, total⟩ := ih (number / base) (Nat.div_lt_self (by omega) several)
        refine ⟨front ++ [number % base], ?_, ?_⟩
        · rw [Nat.toDigits_of_base_le several (Nat.not_lt.mp single)]
          exact List.rel_append stand
            (.cons (digitIn_eq_some.mpr ⟨digit_digitChar (by omega), last⟩) .nil)
        · rw [value_concat, total, Nat.div_add_mod']

theorem standFor_zeros (positive : 0 < base) (count : Nat) :
    StandFor base (List.replicate count '0') (List.replicate count 0) := by
  have zero : digit? '0' = some 0 := by decide
  induction count with
  | zero => exact .nil
  | succ count ih => exact .cons (digitIn_eq_some.mpr ⟨zero, positive⟩) ih

theorem standFor_of_toLower (stand : StandFor base (letters.map Char.toLower) digits) :
    StandFor base letters digits := by
  rw [StandFor, List.forall₂_map_left_iff] at stand
  refine stand.imp fun letter digit here => ?_
  rwa [digitIn?, digit_toLower] at here

theorem standFor_of_spells (several : 1 < base) (known : base ≤ 16) {number : Nat}
    (spells : Spells base number letters) :
    letters ≠ [] ∧ ∃ digits, StandFor base letters digits ∧ value base digits = number := by
  obtain ⟨zeros, lower⟩ := spells
  obtain ⟨front, stand, total⟩ := standFor_toDigits several known number
  constructor
  · rintro rfl
    simp at lower
  · refine ⟨List.replicate zeros 0 ++ front, ?_, by rw [value_zeros, total]⟩
    apply standFor_of_toLower
    rw [lower]
    exact List.rel_append (standFor_zeros (by omega) zeros) stand

end Digits

section Read

variable {base : Nat} {letters : List Char} {digits : List Nat}

theorem solid_of_standFor (stand : StandFor base letters digits) (present : letters ≠ []) :
    ∃ first rest, letters = first :: rest ∧ Solid first := by
  cases stand with
  | nil => exact absurd rfl present
  | cons here tail => exact ⟨_, _, rfl, solid_of_digit here⟩

theorem dropMarker_ten (letters : List Char) : dropMarker 10 letters = letters := by
  unfold dropMarker
  split
  · exact if_neg nofun
  · rfl

theorem dropMarker_sixteen {mark : Char} (marks : mark = 'x' ∨ mark = 'X') (rest : List Char) :
    dropMarker 16 ('0' :: mark :: rest) =
      match rest with
      | '_' :: more => more
      | _ => rest := by
  rcases marks with rfl | rfl <;> rfl

theorem readUnsigned_ten (stand : StandFor 10 letters digits) (present : letters ≠ []) :
    readUnsigned 10 letters =
      if letters.length ≤ maxDigits then .ok (value 10 digits)
      else .error (.tooLong letters.length) := by
  rw [readUnsigned, dropMarker_ten, digits_of_standFor stand present, stand.length_eq]
  by_cases short : digits.length ≤ maxDigits
  · simp [short]
  · simp [isPowerOfTwo, short]

theorem readUnsigned_sixteen {mark : Char} (marks : mark = 'x' ∨ mark = 'X')
    (stand : StandFor 16 letters digits) (present : letters ≠ []) :
    readUnsigned 16 ('0' :: mark :: letters) = .ok (value 16 digits) := by
  obtain ⟨first, rest, rfl, solid⟩ := solid_of_standFor stand present
  have unmarked : dropMarker 16 ('0' :: mark :: first :: rest) = first :: rest := by
    rw [dropMarker_sixteen marks]
    split
    next clash => exact absurd (List.head_eq_of_cons_eq clash) solid.underscore
    next => rfl
  rw [readUnsigned, unmarked, digits_of_standFor stand present]
  rfl

/-- What may stand behind the mark of base sixteen without being a number. -/
theorem readUnsigned_of_unread {mark : Char} (marks : mark = 'x' ∨ mark = 'X') {rest : List Char}
    (unread : (∀ letter ∈ rest, digitIn? 16 letter = none) ∨
      ∃ letter ∈ rest, ¬Legible 16 letter) :
    readUnsigned 16 ('0' :: mark :: rest) = .error .malformed := by
  have none : digits? 16 (dropMarker 16 ('0' :: mark :: rest)) = none := by
    rw [dropMarker_sixteen marks]
    rcases unread with none | ⟨letter, member, illegible⟩
    · apply digits_of_head
      intro letter head
      split at head
      next more => exact none letter (List.mem_cons_of_mem _ (List.mem_of_mem_head? head))
      next => exact none letter (List.mem_of_mem_head? head)
    · refine Option.eq_none_iff_forall_ne_some.mpr fun digits read => illegible ?_
      refine legible_of_digits read letter ?_
      split
      next more =>
          exact (List.mem_cons.mp member).resolve_left fun same => illegible (.inr (.inr same))
      next => exact member
  rw [readUnsigned, none]

theorem readSigned_of_solid {first : Char} (solid : Solid first) (rest : List Char) :
    readSigned base (first :: rest) = (readUnsigned base (first :: rest)).map Int.ofNat := by
  unfold readSigned
  split
  next clash => exact absurd (List.head_eq_of_cons_eq clash) solid.minus
  next clash => exact absurd (List.head_eq_of_cons_eq clash) solid.plus
  next => rfl

theorem read_ofChars (base : Nat) {first : Char} (solid : Text.isBlank first = false)
    (rest : List Char) :
    read base (Text.ofChars (first :: rest)) = readSigned base (first :: rest) := by
  rw [read, Text.chars?_ofChars]
  simp [solid]

theorem toList_toString (number : Int) :
    (toString number).toList =
      if 0 ≤ number then Nat.toDigits 10 number.natAbs
      else '-' :: Nat.toDigits 10 number.natAbs := by
  rw [Int.toString_eq_repr, Int.repr_eq_if]
  split
  next low =>
      have magnitude : number.toNat = number.natAbs := by omega
      rw [Nat.toList_repr, magnitude]
  next low =>
      have magnitude : (-number).toNat = number.natAbs := by omega
      rw [String.toList_append, Nat.toList_repr, magnitude]
      rfl

theorem read_decimal (number : Int) :
    read 10 (Text.ofString (toString number)) =
      if (Nat.toDigits 10 number.natAbs).length ≤ maxDigits then .ok number
      else .error (.tooLong (Nat.toDigits 10 number.natAbs).length) := by
  obtain ⟨digits, stand, total⟩ :=
    standFor_toDigits (show 1 < 10 by decide) (by decide) number.natAbs
  obtain ⟨first, rest, listed, solid⟩ := solid_of_standFor stand Nat.toDigits_ne_nil
  have magnitude := readUnsigned_ten stand Nat.toDigits_ne_nil
  rw [total] at magnitude
  rw [Text.ofString, toList_toString]
  by_cases low : 0 ≤ number
  · rw [if_pos low, listed, read_ofChars 10 solid.blank, readSigned_of_solid solid, ← listed,
      magnitude]
    split
    · exact congrArg Except.ok (Int.natAbs_of_nonneg low)
    · rfl
  · have negated : readSigned 10 ('-' :: Nat.toDigits 10 number.natAbs) =
        (readUnsigned 10 (Nat.toDigits 10 number.natAbs)).map fun magnitude =>
          -(magnitude : Int) := rfl
    rw [if_neg low, read_ofChars 10 (by decide), negated, magnitude]
    split
    · have restored : -(number.natAbs : Int) = number := by omega
      exact congrArg Except.ok restored
    · rfl

theorem illegible_of_letter {letter : Char} (alpha : letter.isAlpha = true)
    (behind : 'f' < letter.toLower) : ¬Legible 16 letter := by
  have letters : ∀ code : Fin 128, (Char.ofNat code).isAlpha = true →
      'f' < (Char.ofNat code).toLower → digitIn? 16 (Char.ofNat code) = none ∧
        Text.isBlank (Char.ofNat code) = false ∧ Char.ofNat code ≠ '_' := by decide
  have ascii : letter.toNat < 128 := by
    rcases Bool.or_eq_true_iff.mp alpha with upper | lower
    · have inside : letter.toNat ≤ 90 := (of_decide_eq_true upper).2
      omega
    · have inside : letter.toNat ≤ 122 := of_decide_eq_true (Bool.and_eq_true_iff.mp lower).2
      omega
  have here := letters ⟨letter.toNat, ascii⟩
  rw [Char.ofNat_toNat] at here
  obtain ⟨unread, solid, plain⟩ := here alpha behind
  rintro (read | blank | underscore)
  · exact read unread
  · cases solid.symm.trans blank
  · exact plain underscore

theorem read_of_zero (base : Nat) (rest : List Char) :
    read base (Text.ofChars ('0' :: rest)) = (readUnsigned base ('0' :: rest)).map Int.ofNat := by
  rw [read_ofChars base (by decide)]
  rfl

theorem read_of_unread {mark : Char} (marks : mark = 'x' ∨ mark = 'X') {rest : List CodePoint}
    (unread : (∀ letter, .char letter ∈ rest → digitIn? 16 letter = none) ∨
      ∃ letter, .char letter ∈ rest ∧ ¬Legible 16 letter) :
    read 16 ⟨.char '0' :: .char mark :: rest⟩ = .error .malformed := by
  cases found : (⟨rest⟩ : Text).chars? with
  | none =>
      have halves : (⟨.char '0' :: .char mark :: rest⟩ : Text).chars? = none := by
        rw [Text.chars?] at found ⊢
        simp [List.mapM_cons, CodePoint.char?, found]
      rw [read, halves]
  | some letters =>
      cases Text.eq_ofChars found
      have behind : (∀ letter ∈ letters, digitIn? 16 letter = none) ∨
          ∃ letter ∈ letters, ¬Legible 16 letter := by
        simpa using unread
      refine (read_of_zero 16 (mark :: letters)).trans ?_
      rw [readUnsigned_of_unread marks behind]
      rfl

end Read

end Numeral

namespace Config

open Yaml

variable {text : Text}

theorem integer_of_read {number : Int} (read : integerText text = .ok number) :
    integer (.scalar (.text text)) = .ok number := by
  rw [integer, read]

theorem integer_of_refused {refusal : Numeral.Refusal}
    (refused : integerText text = .error refusal) :
    integer (.scalar (.text text)) = .error (.notInteger text) := by
  rw [integer, refused]
  rfl

theorem integerText_marked {mark : Char} (marks : mark = 'x' ∨ mark = 'X')
    (rest : List CodePoint) :
    integerText ⟨.char '0' :: .char mark :: rest⟩ =
      Numeral.read 16 ⟨.char '0' :: .char mark :: rest⟩ :=
  if_pos marks

theorem integerText_decimal (number : Int) :
    integerText (toString number) = Numeral.read 10 (toString number) := by
  have unmarked : ∀ letter ∈ (toString number).toList, ¬(letter = 'x' ∨ letter = 'X') := by
    intro letter member
    rw [Numeral.toList_toString] at member
    have plain : letter = '-' ∨ letter.isDigit = true := by
      split at member
      · exact .inr (Nat.isDigit_of_mem_toDigits (by decide) (by decide) member)
      · exact (List.mem_cons.mp member).imp_right
          (Nat.isDigit_of_mem_toDigits (by decide) (by decide))
    rintro (rfl | rfl) <;> revert plain <;> decide
  unfold integerText
  split
  next x rest same =>
      have member : CodePoint.char x ∈ (Text.ofString (toString number)).points := by
        rw [same]
        simp
      obtain ⟨letter, listed, found⟩ := List.mem_map.mp member
      cases found
      rw [if_neg (unmarked _ listed)]
  next => rfl

/-- What is written out is read back: a natural number in base sixteen behind its mark, at whatever
length, and an integer in base ten, unless it has too many digits. Integers stand for themselves,
truth values never do. Behind a mark, no digit at all and letters that are no digits are refused. -/
theorem integers_read_back :
    (∀ (number : Nat) (mark : Char) (letters : List Char), mark = 'x' ∨ mark = 'X' →
      Numeral.Spells 16 number letters →
        integer (.scalar (.text (Text.ofChars ('0' :: mark :: letters)))) = .ok number) ∧
    (∀ number : Int, integer (.scalar (.text (toString number))) =
      if (Nat.toDigits 10 number.natAbs).length ≤ 4300 then .ok number
      else .error (.notInteger (toString number))) ∧
    (∀ number, integer (.scalar (.int number)) = .ok number) ∧
    (∀ truth, integer (.scalar (.bool truth)) =
      .error (.notInteger (if truth then "True" else "False"))) ∧
    (∀ (mark : Char) (rest : List CodePoint), mark = 'x' ∨ mark = 'X' →
      (∀ letter, .char letter ∈ rest → Numeral.digitIn? 16 letter = none) ∨
        (∃ letter, .char letter ∈ rest ∧ letter.isAlpha = true ∧ 'f' < letter.toLower) →
      integer (.scalar (.text ⟨.char '0' :: .char mark :: rest⟩)) =
        .error (.notInteger ⟨.char '0' :: .char mark :: rest⟩)) := by
  refine ⟨fun number mark letters marks spells => ?hexadecimal, fun number => ?decimal,
    fun _ => rfl, by decide, fun mark rest marks unread => ?refused⟩
  case hexadecimal =>
    obtain ⟨present, digits, stand, total⟩ :=
      Numeral.standFor_of_spells (show 1 < 16 by decide) (by decide) spells
    have read := Numeral.read_of_zero 16 (mark :: letters)
    rw [Numeral.readUnsigned_sixteen marks stand present, total] at read
    exact integer_of_read ((integerText_marked marks _).trans read)
  case decimal =>
    have read := (integerText_decimal number).trans (Numeral.read_decimal number)
    split
    next short =>
        rw [Numeral.maxDigits, if_pos short] at read
        exact integer_of_read read
    next long =>
        rw [Numeral.maxDigits, if_neg long] at read
        exact integer_of_refused read
  case refused =>
    have illegible : (∀ letter, .char letter ∈ rest → Numeral.digitIn? 16 letter = none) ∨
        ∃ letter, .char letter ∈ rest ∧ ¬Numeral.Legible 16 letter := by
      refine unread.imp_right ?_
      rintro ⟨letter, member, alpha, behind⟩
      exact ⟨letter, member, Numeral.illegible_of_letter alpha behind⟩
    exact integer_of_refused
      ((integerText_marked marks rest).trans (Numeral.read_of_unread marks illegible))

/-- A number in both cases with zeros in front, a negative one, the least of too many digits, and
two marks without a number. -/
theorem integers_read_back_samples :
    integer (.scalar (.text (Text.ofChars ['0', 'X', '0', '0', 'f', 'F']))) = .ok 255 ∧
    integer (.scalar (.text (toString (-120 : Int)))) = .ok (-120) ∧
    integer (.scalar (.text (toString ((10 : Int) ^ 4300)))) =
      .error (.notInteger (toString ((10 : Int) ^ 4300))) ∧
    integer (.scalar (.text ⟨[.char '0', .char 'x', .char '1', .char 'g']⟩)) =
      .error (.notInteger ⟨[.char '0', .char 'x', .char '1', .char 'g']⟩) ∧
    integer (.scalar (.text ⟨[.char '0', .char 'X']⟩)) =
      .error (.notInteger ⟨[.char '0', .char 'X']⟩) := by
  obtain ⟨hexadecimal, decimal, -, -, refused⟩ := integers_read_back
  exact ⟨hexadecimal 255 'X' ['0', '0', 'f', 'F'] (.inr rfl) ⟨2, by decide⟩,
    (decimal (-120)).trans (if_pos (by decide)),
    (decimal _).trans (if_neg (Nat.not_le.mpr Numeral.endless_pow)),
    refused 'x' _ (.inl rfl) (.inr ⟨'g', by decide, by decide, by decide⟩),
    refused 'X' [] (.inr rfl) (.inl nofun)⟩

end Config

end Chip8
