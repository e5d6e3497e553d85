import Chip8.Proofs.Settings
import Chip8.Proofs.Shown

namespace Chip8.Config

open Yaml

def Writes (value : Value) (number : Int) : Prop :=
  value = .scalar (.int number) ∨
    ∃ text, value = .scalar (.text text) ∧ integerText text = .ok number

def UsableKeys (entries : List (Scalar × Value)) : Prop :=
  ∀ entry ∈ entries, (∃ number, Writes entry.2 number ∧ 0 ≤ number ∧ number ≤ 15) ∧
    (Value.scalar entry.1).text? ≠ none

def UsableKeyMap (value : Value) : Prop :=
  value.isTruthy = false ∨ ∃ entries, value.unfold = .map entries ∧ UsableKeys entries

def textNames : List Text := ["foreground", "background", "window_title", "quit_key"]

def Positive (entries : List (Scalar × Value)) (name : Text) : Prop :=
  ∀ value, Value.field? entries name = some value → ∃ number, Writes value number ∧ 0 < number

def Shown (entries : List (Scalar × Value)) (name : Text) : Prop :=
  ∀ value, Value.field? entries name = some value → value.text? ≠ none

structure Usable (entries : List (Scalar × Value)) : Prop where
  keyMap : ∀ value, Value.field? entries "key_map" = some value → UsableKeyMap value
  scale : Positive entries "scale"
  frameInterval : Positive entries "frame_interval_ms"
  texts : ∀ name ∈ textNames, Shown entries name

/-- Nothing at all, or a mapping with usable settings. -/
def Acceptable (document : Value) : Prop :=
  document.isTruthy = false ∨ ∃ entries, document.unfold = .map entries ∧ Usable entries

def OtherKeyMap (document value : Value) : Prop :=
  ∃ entries, document.unfold = .map entries ∧ Value.field? entries "key_map" = some value ∧
    value.isTruthy = true ∧ ∀ inner, value.unfold ≠ .map inner

inductive Foreseen (document : Value) : Error → Prop where
  | startup {error : Error} : error.kind? = some .startup → Foreseen document error
  | otherKeyMap {value : Value} :
      OtherKeyMap document value → Foreseen document (.keyMapType value.typeName)
  | endless {part : Scalar} {number : Int} :
      document.Holds part → Writes (.scalar part) number → Numeral.Endless number →
        Foreseen document .longInteger

/-- A part of the settings is read if it meets the condition, and refused in a foreseen way
otherwise. -/
structure Reads {α : Type} (document : Value) (answer : Except Error α) (condition : Prop) :
    Prop where
  accepts : (∃ value, answer = .ok value) ↔ condition
  refuses : ∀ error, answer = .error error → Foreseen document error

namespace Reads

variable {α β : Type} {document : Value} {answer : Except Error α} {condition : Prop}

theorem ok (value : α) : Reads document (.ok value) True where
  accepts := ⟨fun _ => trivial, fun _ => ⟨value, rfl⟩⟩
  refuses := by
    intro error clash
    cases clash

theorem error {error : Error} (foreseen : Foreseen document error) :
    Reads document (.error error : Except Error α) False where
  accepts := by simp
  refuses := by
    rintro _ ⟨⟩
    exact foreseen

theorem congr (reads : Reads document answer condition) {other : Prop}
    (same : condition ↔ other) : Reads document answer other where
  accepts := reads.accepts.trans same
  refuses := reads.refuses

theorem bind {next : α → Except Error β} (first : Reads document answer condition)
    (follow : α → Prop)
    (rest : ∀ value, answer = .ok value → Reads document (next value) (follow value)) :
    Reads document (answer >>= next) (∃ value, answer = .ok value ∧ follow value) where
  accepts := by
    constructor
    · rintro ⟨result, went⟩
      obtain ⟨value, found, later⟩ := bind_eq_ok.mp went
      exact ⟨value, found, (rest value found).accepts.mp ⟨result, later⟩⟩
    · rintro ⟨value, found, followed⟩
      obtain ⟨result, later⟩ := (rest value found).accepts.mpr followed
      exact ⟨result, bind_eq_ok.mpr ⟨value, found, later⟩⟩
  refuses := by
    intro error refused
    cases found : answer with
    | ok value =>
        rw [found] at refused
        exact (rest value found).refuses error refused
    | error cause =>
        rw [found] at refused
        cases refused
        exact first.refuses error found

theorem and {next : α → Except Error β} {follow : Prop}
    (first : Reads document answer condition)
    (rest : ∀ value, answer = .ok value → Reads document (next value) follow) :
    Reads document (answer >>= next) (condition ∧ follow) := by
  refine (first.bind (fun _ => follow) rest).congr ?_
  rw [← first.accepts]
  constructor
  · rintro ⟨value, found, followed⟩
    exact ⟨⟨value, found⟩, followed⟩
  · rintro ⟨⟨value, found⟩, followed⟩
    exact ⟨value, found, followed⟩

end Reads

def Inside (document value : Value) : Prop := ∀ part, value.Holds part → document.Holds part

variable {document value : Value}

theorem inside_scalar {part : Scalar} (holds : document.Holds part) :
    Inside document (.scalar part) := by
  rintro _ ⟨⟩
  exact holds

theorem shown_reads (inside : Inside document value) :
    Reads document (shown value) (value.text? ≠ none) := by
  rw [shown]
  cases found : value.text? with
  | some text => exact (Reads.ok text).congr (by simp)
  | none =>
      obtain ⟨number, holds, long⟩ := Value.endless_of_text_eq_none found
      have foreseen := Foreseen.endless (inside _ holds) (.inl rfl) long
      exact (Reads.error foreseen).congr (by simp)

theorem notAnInteger_reads (inside : Inside document value) :
    Reads document (notAnInteger value) False := by
  have parts := (shown_reads inside).and fun text _ =>
    Reads.error (α := Int) (.startup rfl : Foreseen document (.notInteger text))
  exact parts.congr (by simp)

theorem integer_of_writes {number : Int} (writes : Writes value number) :
    integer value = .ok number := by
  rcases writes with rfl | ⟨text, rfl, read⟩
  · rfl
  · rw [integer, read]

theorem integer_cases (value : Value) :
    (∃ number, Writes value number) ∨
      (integer value = notAnInteger value ∧ ∀ number, ¬Writes value number) := by
  cases value with
  | scalar part =>
      cases part with
      | int number => exact .inl ⟨number, .inl rfl⟩
      | text text =>
          cases read : integerText text with
          | ok number => exact .inl ⟨number, .inr ⟨text, rfl, read⟩⟩
          | error refusal =>
              refine .inr ⟨by rw [integer, read], ?_⟩
              rintro number (clash | ⟨other, same, written⟩)
              · cases clash
              · cases same
                cases read.symm.trans written
      | _ => exact .inr ⟨rfl, by rintro number (clash | ⟨other, clash, -⟩) <;> cases clash⟩
  | _ => exact .inr ⟨rfl, by rintro number (clash | ⟨other, clash, -⟩) <;> cases clash⟩

theorem integer_reads (inside : Inside document value) :
    Reads document (integer value) (∃ number, Writes value number) := by
  rcases integer_cases value with ⟨number, writes⟩ | ⟨refused, never⟩
  · rw [integer_of_writes writes]
    exact (Reads.ok number).congr ⟨fun _ => ⟨number, writes⟩, fun _ => trivial⟩
  · rw [refused]
    exact (notAnInteger_reads inside).congr (by simpa using never)

theorem integer_eq_ok {number : Int} : integer value = .ok number ↔ Writes value number := by
  constructor
  · intro read
    rcases integer_cases value with ⟨other, writes⟩ | ⟨refused, -⟩
    · cases (integer_of_writes writes).symm.trans read
      exact writes
    · rw [refused] at read
      obtain ⟨text, -, clash⟩ := bind_eq_ok.mp read
      cases clash
  · exact integer_of_writes

theorem shown_written_reads (inside : Inside document value) {number : Int}
    (writes : Writes value number) :
    Reads document (shown (.scalar (.int number))) ((Value.scalar (.int number)).text? ≠ none) := by
  rw [shown]
  cases found : (Value.scalar (.int number)).text? with
  | some text => exact (Reads.ok text).congr (by simp)
  | none =>
      obtain ⟨_, ⟨⟩, long⟩ := Value.endless_of_text_eq_none found
      have foreseen : Foreseen document .longInteger := by
        rcases writes with rfl | ⟨text, rfl, read⟩
        · exact .endless (inside _ .scalar) (.inl rfl) long
        · exact .endless (inside _ .scalar) (.inr ⟨text, rfl, read⟩) long
      exact (Reads.error foreseen).congr (by simp)

theorem key_reads {name : Scalar} (named : document.Holds name) (inside : Inside document value) :
    Reads document (key name value)
      ((∃ number, Writes value number ∧ 0 ≤ number ∧ number ≤ 15) ∧
        (Value.scalar name).text? ≠ none) := by
  have shownName := shown_reads (inside_scalar named)
  rw [key]
  refine ((integer_reads inside).bind
    (fun number => (0 ≤ number ∧ number ≤ 15) ∧ (Value.scalar name).text? ≠ none) ?_).congr ?_
  · intro number read
    split
    next inRange =>
        refine (shownName.and fun text _ => Reads.ok (text, number)).congr ?_
        rw [and_true]
        exact (and_iff_right inRange).symm
    next outOfRange =>
        have shownNumber := shown_written_reads inside (integer_eq_ok.mp read)
        have refused := shownName.and fun text _ => shownNumber.and fun _ _ =>
          Reads.error (α := Text × Int)
            (.startup rfl : Foreseen document (.keyOutOfRange text number))
        refine refused.congr ?_
        simp [outOfRange]
  · simp only [integer_eq_ok]
    constructor
    · rintro ⟨number, writes, range, text⟩
      exact ⟨⟨number, writes, range⟩, text⟩
    · rintro ⟨⟨number, writes, range⟩, text⟩
      exact ⟨number, writes, range, text⟩

theorem addKeys_reads {entries : List (Scalar × Value)}
    (held : ∀ entry ∈ entries, document.Holds entry.1 ∧ Inside document entry.2)
    (keyMap : KeyMap) : Reads document (addKeys keyMap entries) (UsableKeys entries) := by
  induction entries generalizing keyMap with
  | nil => exact (Reads.ok keyMap).congr (by simp [UsableKeys])
  | cons entry rest ih =>
      obtain ⟨⟨named, inside⟩, others⟩ := List.forall_mem_cons.mp held
      rw [addKeys]
      refine ((key_reads named inside).and fun found _ => ih others _).congr ?_
      rw [UsableKeys, UsableKeys, List.forall_mem_cons]

theorem integerField_pos {entries : List (Scalar × Value)} {name : Text} {usual number : Int}
    (positive : 0 < usual) (read : integerField entries name usual = .ok number) :
    0 < number ↔ Positive entries name := by
  rw [integerField] at read
  rw [Positive]
  cases found : Value.field? entries name with
  | none =>
      rw [found] at read
      cases read
      simpa using positive
  | some value =>
      rw [found] at read
      have writes := integer_eq_ok.mp read
      constructor
      · rintro above _ ⟨⟩
        exact ⟨number, writes, above⟩
      · intro each
        obtain ⟨other, written, above⟩ := each value rfl
        cases (integer_of_writes writes).symm.trans (integer_of_writes written)
        exact above

section Layer

variable {entries : List (Scalar × Value)} (layer : document.unfold = .map entries)

include layer

theorem field_inside {name : Text} (found : Value.field? entries name = some value) :
    Inside document value := by
  obtain ⟨entry, present, rfl⟩ := Option.map_eq_some_iff.mp found
  exact (Value.holds_of_unfold layer (List.mem_of_find?_eq_some present)).2

theorem readKeyMap_reads :
    Reads document (readKeyMap (Value.field? entries "key_map"))
      (∀ value, Value.field? entries "key_map" = some value → UsableKeyMap value) := by
  cases found : Value.field? entries "key_map" with
  | none => exact (Reads.ok KeyMap.default).congr (by simp)
  | some value =>
      have inside := field_inside layer found
      rw [readKeyMap]
      suffices reads : Reads document _ (UsableKeyMap value) from reads.congr (by simp)
      cases full : value.isTruthy with
      | false => exact (Reads.ok KeyMap.default).congr (by simp [UsableKeyMap, full])
      | true =>
          rw [if_neg (by decide)]
          split
          next keys layer' =>
              have held : ∀ entry ∈ keys, document.Holds entry.1 ∧ Inside document entry.2 := by
                intro entry member
                obtain ⟨named, within⟩ := Value.holds_of_unfold layer' member
                exact ⟨inside _ named, fun part holds => inside part (within part holds)⟩
              refine (addKeys_reads held KeyMap.default).congr ?_
              simp [UsableKeyMap, full, layer']
          next other =>
              have foreseen := Foreseen.otherKeyMap ⟨entries, layer, found, full, other⟩
              refine (Reads.error foreseen).congr ?_
              simp only [UsableKeyMap, full, Bool.true_eq_false, false_or, false_iff]
              rintro ⟨inner, layer', -⟩
              exact other inner layer'

theorem integerField_reads (name : Text) (usual : Int) :
    Reads document (integerField entries name usual)
      (∀ value, Value.field? entries name = some value → ∃ number, Writes value number) := by
  rw [integerField]
  cases found : Value.field? entries name with
  | none => exact (Reads.ok usual).congr (by simp)
  | some value => exact (integer_reads (field_inside layer found)).congr (by simp)

theorem positiveField_reads {β : Type} (name : Text) {usual : Int} (positive : 0 < usual)
    {next : Int → Except Error β} (follow : Prop)
    (rest : ∀ number, Reads document (next number) (0 < number ∧ follow)) :
    Reads document (integerField entries name usual >>= next) (Positive entries name ∧ follow) := by
  have field := integerField_reads layer name usual
  refine (field.bind (fun number => 0 < number ∧ follow) fun number _ => rest number).congr ?_
  constructor
  · rintro ⟨number, read, above, followed⟩
    exact ⟨(integerField_pos positive read).mp above, followed⟩
  · rintro ⟨each, followed⟩
    have written : ∀ value, Value.field? entries name = some value →
        ∃ number, Writes value number := by
      intro value found
      obtain ⟨number, writes, -⟩ := each value found
      exact ⟨number, writes⟩
    obtain ⟨number, read⟩ := field.accepts.mpr written
    exact ⟨number, read, (integerField_pos positive read).mpr each, followed⟩

theorem textField_reads (name usual : Text) :
    Reads document (textField entries name usual) (Shown entries name) := by
  rw [textField, Shown]
  cases found : Value.field? entries name with
  | none => exact (Reads.ok usual).congr (by simp)
  | some value => exact (shown_reads (field_inside layer found)).congr (by simp)

theorem texts_reads (usual : Config) (settings : Text → Text → Text → Text → Config) :
    Reads document (do
      return settings (← textField entries "foreground" usual.foreground)
        (← textField entries "background" usual.background)
        (← textField entries "window_title" usual.windowTitle)
        (← textField entries "quit_key" usual.quitKey))
      (∀ name ∈ textNames, Shown entries name) := by
  refine ((textField_reads layer "foreground" _).and fun foreground _ =>
    (textField_reads layer "background" _).and fun background _ =>
      (textField_reads layer "window_title" _).and fun windowTitle _ =>
        (textField_reads layer "quit_key" _).and fun quitKey _ =>
          Reads.ok (settings foreground background windowTitle quitKey)).congr ?_
  simp [textNames]

theorem ofEntries_reads : Reads document (ofEntries entries) (Usable entries) := by
  let texts : Prop := ∀ name ∈ textNames, Shown entries name
  rw [ofEntries]
  refine ((readKeyMap_reads layer).and fun keyMap _ =>
    positiveField_reads layer "scale" (by decide) (Positive entries "frame_interval_ms" ∧ texts)
      fun scale => (positiveField_reads layer "frame_interval_ms" (by decide) (0 < scale ∧ texts)
        fun frameInterval => ?settings).congr and_left_comm).congr ?usable
  case settings =>
    split
    next notPositive =>
        have refused : Reads document (.error .notPositive : Except Error Config) False :=
          Reads.error (.startup rfl)
        refine refused.congr ⟨False.elim, ?_⟩
        rintro ⟨above, above', -⟩
        exact notPositive.elim (by omega) (by omega)
    next positive =>
        have above : 0 < frameInterval ∧ 0 < scale := by omega
        refine (texts_reads layer {} _).congr ?_
        rw [← and_assoc, and_iff_right above]
  case usable =>
    constructor
    · rintro ⟨keyMap, scale, frameInterval, shown⟩
      exact ⟨keyMap, scale, frameInterval, shown⟩
    · rintro ⟨keyMap, scale, frameInterval, shown⟩
      exact ⟨keyMap, scale, frameInterval, shown⟩

end Layer

theorem isTruthy_of_field {document value : Value} {entries : List (Scalar × Value)} {name : Text}
    (layer : document.unfold = .map entries) (found : Value.field? entries name = some value) :
    document.isTruthy = true := by
  rw [Value.isTruthy, layer]
  cases entries with
  | nil => cases found
  | cons entry rest => rfl

theorem ofDocument_reads (document : Value) :
    Reads document (ofDocument document) (Acceptable document) := by
  rw [ofDocument]
  cases full : document.isTruthy with
  | false => exact (Reads.ok _).congr (by simp [Acceptable, full])
  | true =>
      rw [if_pos rfl, ofValue]
      split
      next entries layer =>
          refine (ofEntries_reads layer).congr ?_
          simp [Acceptable, full, layer]
      next other =>
          refine (Reads.error (.startup rfl)).congr ?_
          simp only [Acceptable, full, Bool.true_eq_false, false_or, false_iff]
          rintro ⟨entries, layer, -⟩
          exact other entries layer

theorem readKeyMap_of_other {value : Value} (full : value.isTruthy = true)
    (other : ∀ inner, value.unfold ≠ .map inner) :
    readKeyMap (some value) = .error (.keyMapType value.typeName) := by
  rw [readKeyMap, full, if_neg (by decide)]
  split
  next entries layer => exact absurd layer (other entries)
  next => rfl

theorem ofDocument_of_otherKeyMap {document value : Value} (other : OtherKeyMap document value) :
    ofDocument document = .error (.keyMapType value.typeName) := by
  obtain ⟨entries, layer, found, full, noMap⟩ := other
  have refused := readKeyMap_of_other full noMap
  rw [ofDocument, if_pos (isTruthy_of_field layer found), ofValue, layer]
  simp only [ofEntries, found, refused]
  rfl

theorem ofFile_of_parsed {files : String → Except FileTree.Refusal ByteArray} {path : String}
    {bytes : ByteArray} {document : Value} (named : ¬path.contains '\x00')
    (readable : files path = .ok bytes) (parsed : Value.parse bytes.toList = .ok document) :
    ofFile files path = ofDocument document := by
  have found : ofBytes path bytes.toList = ofDocument document := by
    unfold ofBytes
    rw [parsed]
  rw [← found]
  unfold ofFile
  rw [if_neg named, readable]

/-- A document is accepted if it is empty in whatever way, or a mapping with usable settings.
Another one is refused with an error of the start-up, unless its key map is of another type than a
mapping or one of its integers has too many digits to be shown. -/
theorem document_accepted_iff (document : Value) :
    (∀ (files : String → Except FileTree.Refusal ByteArray) (path : String) (bytes : ByteArray),
      ¬path.contains '\x00' → files path = .ok bytes →
      Value.parse bytes.toList = .ok document → ofFile files path = ofDocument document) ∧
    ((∃ config, ofDocument document = .ok config) ↔ Acceptable document) ∧
    (∀ error, ofDocument document = .error error →
      error.kind? = some .startup ∨ (∃ typeName, error = .keyMapType typeName) ∨
        error = .longInteger ∧ ∃ part number, document.Holds part ∧
          Writes (.scalar part) number ∧ Numeral.Endless number) ∧
    ∀ typeName, ofDocument document = .error (.keyMapType typeName) ↔
      ∃ value, OtherKeyMap document value ∧ value.typeName = typeName := by
  have reads := ofDocument_reads document
  refine ⟨?file, reads.accepts, ?refused, ?keyMap⟩
  case file =>
    intro files path bytes named readable parsed
    exact ofFile_of_parsed named readable parsed
  case refused =>
    intro error refused
    cases reads.refuses error refused with
    | startup known => exact .inl known
    | otherKeyMap other => exact .inr (.inl ⟨_, rfl⟩)
    | endless holds writes long => exact .inr (.inr ⟨rfl, _, _, holds, writes, long⟩)
  case keyMap =>
    intro typeName
    constructor
    · intro refused
      cases reads.refuses _ refused with
      | startup known => cases known
      | otherKeyMap other => exact ⟨_, other, rfl⟩
    · rintro ⟨value, other, rfl⟩
      exact ofDocument_of_otherKeyMap other

/-- A list in place of the key map is no error of the start-up. -/
theorem document_with_listed_key_map :
    ofDocument (.map [(.text "key_map", .list [.scalar (.int 1)])]) =
      .error (.keyMapType "list") ∧ (Error.keyMapType "list").kind? = none :=
  ⟨rfl, rfl⟩

end Chip8.Config
