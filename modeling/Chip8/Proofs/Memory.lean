import Chip8.Memory
import Chip8.Proofs.Action

namespace Chip8.Memory

theorem read_of_inside (memory : Memory) (address : Int) (low : 0 ≤ address)
    (high : address < memory.size) : ∃ byte, memory.read address = .ok byte :=
  ⟨_, dif_pos ⟨low, high⟩⟩

theorem read_of_outside (memory : Memory) (address : Int)
    (outside : ¬(0 ≤ address ∧ address < memory.size)) :
    memory.read address = .error (.outsideMemory address memory.size) :=
  dif_neg outside

theorem inside_of_read {memory : Memory} {address : Int} {byte : UInt8}
    (found : memory.read address = .ok byte) : 0 ≤ address ∧ address < memory.size := by
  apply Decidable.byContradiction
  intro outside
  cases found.symm.trans (memory.read_of_outside address outside)

theorem read_ofSize (size : Nat) {address : Int} (low : 0 ≤ address) (high : address < size) :
    (ofSize size).read address = .ok (Font.byteAt address.toNat) := by
  rw [read, dif_pos ⟨low, high⟩]
  simp only [ofSize, Vector.get, Vector.toArray_ofFn, Array.getElem_ofFn]
  rfl

def HoldsFont (memory : Memory) : Prop :=
  ∀ place < Font.size, memory.read place = .ok (Font.byteAt place)

theorem holdsFont_ofSize {size : Nat} (room : Font.size ≤ size) : (ofSize size).HoldsFont := by
  intro place inside
  exact read_ofSize size (Int.natCast_nonneg place) (by omega)

theorem readWord_of_inside (memory : Memory) (address : Int) (low : 0 ≤ address)
    (high : address + 1 < memory.size) : ∃ word, memory.readWord address = .ok word := by
  obtain ⟨first, readFirst⟩ := memory.read_of_inside address low (by omega)
  obtain ⟨second, readSecond⟩ := memory.read_of_inside (address + 1) (by omega) high
  refine ⟨first.toNat * 256 + second.toNat, ?_⟩
  rw [readWord, readFirst, readSecond]
  rfl

theorem readWord_of_outside (memory : Memory) (address : Int) (low : 0 ≤ address)
    (high : memory.size ≤ address + 1) :
    memory.readWord address = .error (.outsideMemory (max address memory.size) memory.size) := by
  by_cases last : address < memory.size
  · obtain ⟨first, readFirst⟩ := memory.read_of_inside address low last
    have readSecond := memory.read_of_outside (address + 1) (by omega)
    have behind : address + 1 = max address memory.size := by omega
    rw [readWord, readFirst, readSecond, behind]
    rfl
  · have readFirst := memory.read_of_outside address (by omega)
    have behind : max address memory.size = address := by omega
    rw [readWord, readFirst, behind]
    rfl

theorem inside_of_readWord {memory : Memory} {address word : Int}
    (present : memory.readWord address = .ok word) : 0 ≤ address ∧ address + 1 < memory.size := by
  by_cases low : 0 ≤ address
  · by_cases high : address + 1 < memory.size
    · exact ⟨low, high⟩
    · rw [memory.readWord_of_outside address low (by omega)] at present
      cases present
  · rw [readWord, memory.read_of_outside address (by omega)] at present
    cases present

theorem length_toList (memory : Memory) : memory.toList.length = memory.size := by
  rw [toList, List.length_take, Vector.length_toList]
  omega

theorem read_toOption (memory : Memory) (address : Nat) :
    (memory.read address).toOption = memory.toList[address]? := by
  rw [toList, List.getElem?_take]
  by_cases inside : address < memory.size
  · have cell : address < memory.cells.toList.length := by
      rw [Vector.length_toList]
      omega
    rw [read, dif_pos ⟨by omega, by omega⟩, if_pos inside, List.getElem?_eq_getElem cell]
    rfl
  · rw [read, dif_neg (by omega), if_neg inside]
    rfl

theorem dump_eq_window (memory : Memory) (start length : Nat) :
    memory.dump start length = (memory.toList.drop start).take length := by
  have low : max 0 (start : Int) = start := by omega
  have stop : min ((start : Int) + length) memory.size =
      (min (start + length) memory.size : Nat) := by omega
  rw [dump, low, stop, slice, if_neg (by omega), toList, List.take_drop, List.take_take]
  rfl

theorem dump_eq_reads (memory : Memory) (start length : Nat) :
    memory.dump start length =
      (List.range length).filterMap fun place => (memory.read (start + place : Nat)).toOption := by
  rw [dump_eq_window]
  simp only [read_toOption]
  -- From the back: a longer window has the cell behind it as well.
  induction length with
  | zero => rfl
  | succ length ih =>
      rw [List.take_add_one, ih, List.range_succ, List.filterMap_append, List.getElem?_drop]
      cases here : memory.toList[start + length]? <;> simp [here]

theorem write_of_outside (memory : Memory) (address : Int) (data : Int)
    (outside : ¬(0 ≤ address ∧ address < memory.size)) :
    write address data memory = .error (.outsideMemory address memory.size) memory :=
  dif_neg outside

theorem write_of_inside (memory : Memory) (address : Int) (data : Int) (low : 0 ≤ address)
    (high : address < memory.size) :
    ∃ done, write address data memory = .ok () done ∧ done.size = memory.size ∧
      ∀ other, done.read other =
        if other = address then .ok (lowByte data) else memory.read other := by
  refine ⟨_, dif_pos ⟨low, high⟩, rfl, ?_⟩
  intro other
  by_cases inside : 0 ≤ other ∧ other < memory.size
  · rw [read, dif_pos inside, read, dif_pos inside]
    change Except.ok (memory.cells.set address.toNat _ (by omega))[other.toNat] = _
    rw [Vector.getElem_set]
    by_cases same : other = address
    · simp only [same, if_true]
    · have apart : address.toNat ≠ other.toNat := by omega
      simp only [same, apart, if_false]
      rfl
  · have differs : other ≠ address := by rintro rfl; exact inside ⟨low, high⟩
    rw [read, dif_neg inside, read, dif_neg inside, if_neg differs]

theorem write_preserves_size (address data : Int) : (write address data).Preserves size := by
  intro memory
  by_cases inside : 0 ≤ address ∧ address < memory.size
  · obtain ⟨done, written, same, -⟩ := memory.write_of_inside address data inside.1 inside.2
    rw [Action.after_of_ok written, same]
  · rw [Action.after_of_error (memory.write_of_outside address data inside)]

theorem load_preserves_size (start : Int) (bytes : List Int) :
    (load start bytes).Preserves size := by
  induction bytes generalizing start with
  | nil => exact Action.preserves_pure _ _
  | cons byte rest ih => exact (write_preserves_size start byte).bind fun _ => ih (start + 1)

theorem load_cons_of_inside (memory : Memory) (start : Int) (byte : Int) (rest : List Int)
    (low : 0 ≤ start) (high : start < memory.size) :
    ∃ next, load start (byte :: rest) memory = load (start + 1) rest next ∧
      next.size = memory.size ∧
      ∀ other, next.read other =
        if other = start then .ok (lowByte byte) else memory.read other := by
  obtain ⟨next, written, size, reads⟩ := memory.write_of_inside start byte low high
  exact ⟨next, Action.bind_of_ok written, size, reads⟩

theorem load_cons_of_outside (memory : Memory) (start : Int) (byte : Int) (rest : List Int)
    (outside : ¬(0 ≤ start ∧ start < memory.size)) :
    load start (byte :: rest) memory = .error (.outsideMemory start memory.size) memory :=
  Action.bind_of_error (memory.write_of_outside start byte outside)

theorem load_of_fits (memory : Memory) (start : Int) {bytes : List Int} (low : 0 ≤ start)
    (fits : start + bytes.length ≤ memory.size) :
    ∃ done, load start bytes memory = .ok () done := by
  induction bytes generalizing start memory with
  | nil => exact ⟨memory, rfl⟩
  | cons byte rest ih =>
      simp only [List.length_cons] at fits
      obtain ⟨next, loaded, size, -⟩ := memory.load_cons_of_inside start byte rest low (by omega)
      rw [loaded]
      exact ih next (start + 1) (by omega) (by omega)

/-- The first address without a cell is refused: `start` itself, or the end of the memory. -/
theorem load_of_overruns (memory : Memory) (start : Int) {bytes : List Int} (low : 0 ≤ start)
    (present : bytes ≠ []) (overruns : memory.size < start + bytes.length) :
    ∃ done, load start bytes memory =
      .error (.outsideMemory (max start memory.size) memory.size) done := by
  induction bytes generalizing start memory with
  | nil => exact absurd rfl present
  | cons byte rest ih =>
      simp only [List.length_cons] at overruns
      by_cases high : start < memory.size
      · obtain ⟨next, loaded, size, -⟩ := memory.load_cons_of_inside start byte rest low high
        have remaining : rest ≠ [] := by
          rintro rfl
          simp only [List.length_nil] at overruns
          omega
        have same : max (start + 1) (next.size : Int) = max start memory.size := by omega
        obtain ⟨done, refused⟩ := ih next (start + 1) (by omega) remaining (by omega)
        rw [same, size] at refused
        exact ⟨done, loaded.trans refused⟩
      · have behind : max start (memory.size : Int) = start := by omega
        rw [behind]
        exact ⟨memory, memory.load_cons_of_outside start byte rest (by omega)⟩

/-- What a load leaves behind, refused or not: its bytes in the cells that there are. -/
theorem read_after_load (memory : Memory) (start : Int) (bytes : List Int) (low : 0 ≤ start) :
    ((load start bytes).after memory).size = memory.size ∧
    ∀ address, ((load start bytes).after memory).read address =
      if start ≤ address ∧ address < start + bytes.length ∧ address < memory.size then
        .ok (lowByte (bytes.getD (address - start).toNat 0))
      else memory.read address := by
  induction bytes generalizing start memory with
  | nil =>
      refine ⟨rfl, fun address => ?_⟩
      rw [if_neg (by simp only [List.length_nil]; omega)]
      rfl
  | cons byte rest ih =>
      by_cases high : start < memory.size
      · obtain ⟨next, loaded, size, reads⟩ := memory.load_cons_of_inside start byte rest low high
        have same :
            (load start (byte :: rest)).after memory = (load (start + 1) rest).after next := by
          simp only [Action.after, loaded]
        obtain ⟨sizeAfter, readsAfter⟩ := ih next (start + 1) (by omega)
        refine ⟨by rw [same, sizeAfter, size], fun address => ?_⟩
        rw [same, readsAfter address, reads address, size, List.length_cons]
        by_cases here : address = start
        · subst here
          rw [if_neg (by omega), if_pos rfl, if_pos (by omega)]
          simp only [Int.sub_self, Int.toNat_zero, List.getD_cons_zero]
        · rw [if_neg here]
          by_cases written : start ≤ address ∧
              address < start + ((rest.length + 1 : Nat) : Int) ∧ address < memory.size
          · have place : (address - start).toNat = (address - (start + 1)).toNat + 1 := by omega
            rw [if_pos (by omega), if_pos written, place, List.getD_cons_succ]
          · rw [if_neg (by omega), if_neg written]
      · have same := Action.after_of_error
          (memory.load_cons_of_outside start byte rest (by omega))
        refine ⟨by rw [same], fun address => ?_⟩
        rw [same, if_neg (by omega)]

theorem read_after_load_of_beside (memory : Memory) (start : Int) (bytes : List Int)
    {address : Int} (beside : address < start ∨ start + bytes.length ≤ address) :
    ((load start bytes).after memory).read address = memory.read address := by
  induction bytes generalizing start memory with
  | nil => rfl
  | cons byte rest ih =>
      rw [List.length_cons] at beside
      by_cases inside : 0 ≤ start ∧ start < memory.size
      · obtain ⟨next, loaded, -, reads⟩ :=
          memory.load_cons_of_inside start byte rest inside.1 inside.2
        have same :
            (load start (byte :: rest)).after memory = (load (start + 1) rest).after next := by
          simp only [Action.after, loaded]
        rw [same, ih next (start + 1) (by omega), reads address, if_neg (by omega)]
      · rw [Action.after_of_error (memory.load_cons_of_outside start byte rest inside)]

theorem HoldsFont.after_load {memory : Memory} (font : memory.HoldsFont) {start : Int}
    (behind : Font.size ≤ start) (bytes : List Int) :
    ((load start bytes).after memory).HoldsFont := by
  intro place inside
  rw [memory.read_after_load_of_beside start bytes (by omega)]
  exact font place inside

theorem read_of_loaded {memory done : Memory} {start address : Int} {bytes : List Int}
    (went : load start bytes memory = .ok () done) (low : 0 ≤ start) (behind : start ≤ address)
    (before : address < start + bytes.length) :
    done.read address = .ok (lowByte (bytes.getD (address - start).toNat 0)) := by
  have fits : start + bytes.length ≤ memory.size := by
    refine Int.not_lt.mp fun overruns => ?_
    have present : bytes ≠ [] := by
      rintro rfl
      rw [List.length_nil] at before
      omega
    obtain ⟨left, refused⟩ := memory.load_of_overruns start low present overruns
    cases went.symm.trans refused
  have reads := (memory.read_after_load start bytes low).2 address
  rw [Action.after_of_ok went, if_pos ⟨behind, before, by omega⟩] at reads
  exact reads

theorem toNat_lowByte (data : Int) : ((lowByte data).toNat : Int) = data % 256 := by
  have low := Int.emod_nonneg data (show (256 : Int) ≠ 0 by decide)
  have high := Int.emod_lt_of_pos data (show (0 : Int) < 256 by decide)
  rw [lowByte, UInt8.toNat_ofNat', Nat.mod_eq_of_lt (by omega), Int.toNat_of_nonneg low]

theorem readWord_of_reads {memory : Memory} {address : Int} {first second : UInt8}
    (high : memory.read address = .ok first) (low : memory.read (address + 1) = .ok second) :
    memory.readWord address = .ok (first.toNat * 256 + second.toNat) := by
  rw [readWord, high, low]
  rfl

theorem read_place_after_load (memory : Memory) (start : Int) (bytes : List Int) (low : 0 ≤ start)
    (fits : start + bytes.length ≤ memory.size) (place : Nat) (inside : place < bytes.length) :
    ((load start bytes).after memory).read (start + place) =
      .ok (lowByte (bytes.getD place 0)) := by
  have reads := (memory.read_after_load start bytes low).2 (start + place)
  have here : (start + (place : Int) - start).toNat = place := by omega
  rw [if_pos (by omega), here] at reads
  exact reads

theorem readWord_after_load (memory : Memory) (start : Int) (bytes : List Int) (low : 0 ≤ start)
    (fits : start + bytes.length ≤ memory.size) (place : Nat) (inside : place + 1 < bytes.length) :
    ((load start bytes).after memory).readWord (start + place) =
      .ok (bytes.getD place 0 % 256 * 256 + bytes.getD (place + 1) 0 % 256) := by
  have first := memory.read_place_after_load start bytes low fits place (by omega)
  have second := memory.read_place_after_load start bytes low fits (place + 1) inside
  rw [Int.natCast_add_one, ← Int.add_assoc] at second
  rw [readWord_of_reads first second, toNat_lowByte, toNat_lowByte]

end Chip8.Memory
