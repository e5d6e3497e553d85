import Mathlib.Data.List.Nodup
import Chip8.Proofs.Hex
import Chip8.Proofs.Reachable

namespace Chip8

namespace Registers

def readField? (field : List Char) : Option (String × Int) :=
  match field.splitOn '=' with
  | [name, number] => (Hex.read? number).map fun value => (String.ofList name, value)
  | _ => none

def fields (line : String) : List (List Char) := line.toList.splitOn ' '

def readLine? (line : String) : Option (List (String × Int)) := (fields line).mapM readField?

variable {registers : Registers}

theorem layout_eq (registers : Registers) : registers.layout = layout {} := rfl

theorem mem_layout {entry : Entry} (present : entry ∈ registers.entries) :
    (entry.name, entry.width) ∈ layout {} := by
  have listed : (entry.name, entry.width) ∈ registers.layout := List.mem_map_of_mem present
  rwa [layout_eq] at listed

theorem notMem_name {entry : Entry} (present : entry ∈ registers.entries) :
    ' ' ∉ entry.name.toList ∧ '=' ∉ entry.name.toList := by
  have clean : ∀ field ∈ layout {}, ' ' ∉ field.1.toList ∧ '=' ∉ field.1.toList := by decide
  exact clean _ (mem_layout present)

theorem width_pos {entry : Entry} (present : entry ∈ registers.entries) : 0 < entry.width / 4 := by
  have wide : ∀ field ∈ layout {}, 0 < field.2 / 4 := by decide
  exact wide _ (mem_layout present)

theorem nodup_names (registers : Registers) : (registers.entries.map Entry.name).Nodup := by
  have distinct : ((layout {}).map Prod.fst).Nodup := by decide
  rwa [← layout_eq registers, layout, List.map_map] at distinct

theorem counter_mem_entries (registers : Registers) :
    ⟨"PC", 16, registers.pc⟩ ∈ registers.entries := by
  simp [entries]

theorem depth_mem_entries (registers : Registers) :
    ⟨"SP", 8, registers.sp⟩ ∈ registers.entries := by
  simp [entries]

theorem eq_of_named_sp {entry : Entry} (present : entry ∈ registers.entries)
    (named : entry.name = "SP") : entry = ⟨"SP", 8, registers.sp⟩ :=
  List.inj_on_of_nodup_map registers.nodup_names present registers.depth_mem_entries named

theorem toList_text (entry : Entry) :
    entry.text.toList =
      entry.name.toList ++ '=' :: (Hex.plain (entry.width / 4) entry.value).toList := by
  simp only [Entry.text, String.toList_append, List.append_assoc]
  rfl

theorem blank_notMem_text {entry : Entry} (present : entry ∈ registers.entries) :
    ' ' ∉ entry.text.toList := by
  have number := Hex.notMem_plain ' ' (by decide) (by decide) (entry.width / 4) entry.value
  simp [toList_text, (notMem_name present).1, number]

theorem readField_text {entry : Entry} (present : entry ∈ registers.entries) :
    readField? entry.text.toList = some (entry.name, entry.value) := by
  have number := Hex.notMem_plain '=' (by decide) (by decide) (entry.width / 4) entry.value
  have joined : entry.text.toList = ['='].intercalate
      [entry.name.toList, (Hex.plain (entry.width / 4) entry.value).toList] := by
    rw [toList_text]
    simp
  have parts : entry.text.toList.splitOn '=' =
      [entry.name.toList, (Hex.plain (entry.width / 4) entry.value).toList] := by
    rw [joined]
    exact List.splitOn_intercalate '=' (by simp [notMem_name present, number]) (by simp)
  rw [readField?, parts]
  simp [Hex.read_plain]

theorem fields_line (registers : Registers) :
    fields registers.line = registers.entries.map fun entry => entry.text.toList := by
  rw [fields, line, String.toList_intercalate, List.map_map]
  refine List.splitOn_intercalate ' ' ?_ (by simp [entries])
  intro field present
  obtain ⟨entry, listed, rfl⟩ := List.mem_map.mp present
  exact blank_notMem_text listed

/-- Every register is read back from the line, with its name and its value. -/
theorem readLine_line (registers : Registers) :
    readLine? registers.line = some registers.values := by
  rw [readLine?, fields_line, values]
  have each : ∀ entry ∈ registers.entries,
      readField? entry.text.toList = some (entry.name, entry.value) :=
    fun entry => readField_text
  -- Any list of fields will do from here on, as long as each of them is read back.
  generalize registers.entries = entries at each
  induction entries with
  | nil => rfl
  | cons entry rest ih =>
      obtain ⟨first, others⟩ := List.forall_mem_cons.mp each
      simp [first, ih others]

def Entry.Fits (entry : Entry) : Prop :=
  0 ≤ entry.value ∧ entry.value < (16 ^ (entry.width / 4) : Nat)

theorem Entry.fits_of_byte (name : String) {value : Int} (byte : IsByte value) :
    Fits ⟨name, 8, value⟩ :=
  ⟨byte.1, by simpa using byte.2⟩

theorem Entry.fits_of_sixteenBits (name : String) {value : Int}
    (range : 0 ≤ value ∧ value < 0x10000) : Fits ⟨name, 16, value⟩ :=
  ⟨range.1, by simpa using range.2⟩

theorem entries_eq (registers : Registers) :
    registers.entries = List.zipWith (fun field value => ⟨field.1, field.2, value.2⟩)
      (layout {}) registers.values := by
  rw [← layout_eq registers, layout, values, List.zipWith_map, List.zipWith_self, List.map_id']

theorem line_eq_iff (first second : Registers) :
    first.line = second.line ↔ first.values = second.values := by
  constructor
  · intro same
    apply Option.some.inj
    rw [← readLine_line, same, readLine_line]
  · intro same
    rw [line, entries_eq, same, ← entries_eq, line]

end Registers

namespace Cpu

variable {cpu : Cpu}

/-- Only the stack can be deeper than its field is wide. -/
theorem Confined.fits (confined : Confined cpu) {entry : Registers.Entry}
    (present : entry ∈ cpu.state.entries) (other : entry.name ≠ "SP") : entry.Fits := by
  rw [Registers.entries, List.mem_append] at present
  cases present with
  | inl numbered =>
      obtain ⟨index, -, rfl⟩ := List.mem_map.mp numbered
      exact Registers.Entry.fits_of_byte _ (confined.range.bytes index)
  | inr control =>
      simp only [List.mem_cons, List.not_mem_nil, or_false] at control
      rcases control with rfl | rfl | rfl | rfl | rfl
      · exact Registers.Entry.fits_of_sixteenBits _ confined.range.index
      · exact Registers.Entry.fits_of_sixteenBits _ confined.counter
      · exact absurd rfl other
      · exact Registers.Entry.fits_of_byte _ confined.range.delay
      · exact Registers.Entry.fits_of_byte _ confined.range.sound

end Cpu

namespace Registers

/-- The line of any registers has a field for each of them, from which it is read back, so that it
tells apart what the values tell apart. Whatever a host does on the standard machine, the fields are
as wide as they are laid out, unless the stack is deeper than a byte can count. -/
theorem line_is_lossless :
    (∀ registers : Registers,
      (∃ texts : List String, texts.length = 21 ∧ (∀ text ∈ texts, ' ' ∉ text.toList) ∧
        registers.line = " ".intercalate texts) ∧
      (registers.values.map Prod.fst).Nodup ∧
      readLine? registers.line = some registers.values) ∧
    (∀ first second : Registers, first.line = second.line ↔ first.values = second.values) ∧
    ∀ (random : RandomSource) (events : List Event) (cpu : Cpu),
      cpu = (Cpu.ofBus { random := random }).afterAll events →
      ∀ entry ∈ cpu.state.entries, ∃ digits, entry.text = entry.name ++ "=" ++ digits ∧
        (entry.name ≠ "SP" → digits.length = entry.width / 4) ∧
        (entry.name = "SP" → (2 < digits.length ↔ 255 < cpu.state.stack.length)) := by
  refine ⟨fun registers => ⟨?parts, ?names, readLine_line registers⟩, line_eq_iff, ?widths⟩
  case parts =>
    refine ⟨registers.entries.map Entry.text, by simp [entries], ?_, rfl⟩
    intro text present
    obtain ⟨entry, listed, rfl⟩ := List.mem_map.mp present
    exact blank_notMem_text listed
  case names =>
    rw [values, List.map_map]
    exact registers.nodup_names
  case widths =>
    intro random events cpu reached entry present
    have confined : Cpu.Confined cpu := reached ▸ Cpu.confined_afterAll random events
    refine ⟨Hex.plain (entry.width / 4) entry.value, rfl, ?_, ?_⟩
    · intro other
      obtain ⟨low, high⟩ := confined.fits present other
      exact Hex.length_plain_of_fits (width_pos present) low high
    · intro named
      have deeper := @Hex.width_lt_length_plain_iff 2 (by decide) cpu.state.stack.length
      have two : 8 / 4 = 2 := rfl
      rw [eq_of_named_sp present named]
      simp only [sp, two, deeper]
      omega

/-- Values that no instruction computes: two of them have a minus sign, which counts for the width,
and one has more digits than its field. -/
def unusual : Registers where
  v := (Vector.replicate 16 0).set 1 (-1)
  i := 0x12345
  pc := -0x2A

def descent (count : Nat) : List Event := .load [0x22, 0x00] :: List.replicate count .step

theorem descent_goes_deeper (count : Nat) :
    ((Cpu.ofBus {}).afterAll (descent count)).state =
        { stack := List.replicate count 0x202 } ∧
      ((Cpu.ofBus {}).afterAll (descent count)).bus.memory =
        (Memory.loadProgram [0x22, 0x00]).after .default := by
  induction count with
  | zero =>
      rw [descent, List.replicate_zero, Cpu.afterAll_cons, Cpu.afterAll_nil, Cpu.after_load]
      exact ⟨rfl, rfl⟩
  | succ count ih =>
      obtain ⟨state, memory⟩ := ih
      have last : descent (count + 1) = descent count ++ [.step] := by
        rw [descent, List.replicate_succ', ← List.cons_append, ← descent]
      rw [last, Cpu.afterAll_append, Cpu.afterAll_cons, Cpu.afterAll_nil]
      generalize (Cpu.ofBus {}).afterAll (descent count) = cpu at state memory
      have here : cpu.fetching = cpu.state := by
        rw [Cpu.fetching, state]
        rfl
      have fetches : cpu.Fetches 0x2200 .call :=
        Cpu.fetches_of_loaded .default [0x22, 0x00] memory (by decide) 0 (by decide)
          (by rw [here, state]; rfl) rfl
      have calls : cpu.executing 0x2200 .call =
          .ok () ⟨{ stack := List.replicate (count + 1) 0x202 }, cpu.bus⟩ := by
        rw [Cpu.executing, Cpu.fetched, here, state, List.replicate_succ']
        rfl
      rw [Cpu.after_step_of_executed fetches calls]
      exact ⟨rfl, memory⟩

theorem line_is_lossless_deep :
    unusual.line = "V0=00 V1=-1 V2=00 V3=00 V4=00 V5=00 V6=00 V7=00 V8=00 V9=00 VA=00 VB=00" ++
      " VC=00 VD=00 VE=00 VF=00 I=12345 PC=-02A SP=00 DT=00 ST=00" ∧
    readLine? unusual.line = some unusual.values ∧
    ∃ cpu, cpu = (Cpu.ofBus {}).afterAll (descent 256) ∧
      (∃ digits, Entry.text ⟨"PC", 16, cpu.state.pc⟩ = "PC=" ++ digits ∧ digits.length = 4) ∧
      ∃ digits, Entry.text ⟨"SP", 8, cpu.state.sp⟩ = "SP=" ++ digits ∧ 2 < digits.length := by
  obtain ⟨each, -, widths⟩ := line_is_lossless
  refine ⟨by decide +kernel, (each unusual).2.2, _, rfl, ?_, ?_⟩
  · obtain ⟨digits, shown, wide, -⟩ :=
      widths (.cycling []) (descent 256) _ rfl _ (counter_mem_entries _)
    exact ⟨digits, shown, wide (by decide)⟩
  · obtain ⟨digits, shown, -, deep⟩ :=
      widths (.cycling []) (descent 256) _ rfl _ (depth_mem_entries _)
    refine ⟨digits, shown, (deep rfl).mpr ?_⟩
    rw [(descent_goes_deeper 256).1, List.length_replicate]
    decide

end Registers

end Chip8
