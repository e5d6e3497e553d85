import Chip8.Effect
import Chip8.Proofs.Memory

namespace Chip8.Registers

def control (registers : Registers) : Registers :=
  { registers with v := Vector.replicate 16 0 }

theorem set_control (registers : Registers) (index : Fin 16) (value : Int) :
    (registers.set index value).control = registers.control := rfl

theorem eq_of_control {before after : Registers} (same : after.control = before.control) :
    after = { before with v := after.v } := by
  cases after
  cases before
  cases same
  rfl

theorem get_set_same (registers : Registers) (index : Fin 16) (value : Int) :
    (registers.set index value).get index = value := by
  rw [get_set, if_pos rfl]

theorem get_set_other (registers : Registers) {index other : Fin 16} (value : Int)
    (differs : index ≠ other) : (registers.set index value).get other = registers.get other := by
  rw [get_set, if_neg differs]

theorem vf_setFlag (registers : Registers) (raised : Bool) :
    (registers.setFlag (if raised then 1 else 0)).vf = if raised then 1 else 0 := by
  rw [vf, setFlag, get_set_same]
  cases raised <;> rfl

theorem get_congr {first second : Registers} (same : first.v = second.v) (index : Fin 16) :
    first.get index = second.get index := by
  rw [get, same, get]

theorem fill_cons_of_read {memory : Memory} {address : Int} {byte : UInt8}
    (present : memory.read address = .ok byte) (index : Fin 16) (rest : List (Fin 16))
    (registers : Registers) :
    fill memory address (index :: rest) registers =
      fill memory (address + 1) rest (registers.set index byte.toNat) := by
  rw [fill, present]
  rfl

theorem fill_cons_of_missing {memory : Memory} {address : Int} {fault : Fault}
    (missing : memory.read address = .error fault) (index : Fin 16) (rest : List (Fin 16))
    (registers : Registers) :
    fill memory address (index :: rest) registers = .error fault registers := by
  rw [fill, missing]
  rfl

theorem fill_preserves_control (memory : Memory) (address : Int) (indices : List (Fin 16)) :
    (fill memory address indices).Preserves control := by
  induction indices generalizing address with
  | nil => exact Action.preserves_pure _ _
  | cons index rest ih =>
      exact (Action.preserves_attempt _ _).bind fun byte =>
        Action.Preserves.bind (fun registers => set_control registers index byte.toNat) fun _ =>
          ih (address + 1)

theorem fill_of_fits (memory : Memory) (address : Int) {indices : List (Fin 16)}
    (low : 0 ≤ address) (fits : address + indices.length ≤ memory.size) (registers : Registers) :
    ∃ done, fill memory address indices registers = .ok () done := by
  induction indices generalizing address registers with
  | nil => exact ⟨registers, rfl⟩
  | cons index rest ih =>
      rw [List.length_cons] at fits
      obtain ⟨byte, present⟩ := memory.read_of_inside address low (by omega)
      rw [fill_cons_of_read present]
      exact ih (address + 1) (by omega) (by omega) _

theorem fill_of_overruns (memory : Memory) (address : Int) {indices : List (Fin 16)}
    (low : 0 ≤ address) (present : indices ≠ []) (overruns : memory.size < address + indices.length)
    (registers : Registers) :
    ∃ done, fill memory address indices registers =
      .error (.outsideMemory (max address memory.size) memory.size) done := by
  induction indices generalizing address registers with
  | nil => exact absurd rfl present
  | cons index rest ih =>
      rw [List.length_cons] at overruns
      by_cases inside : address < memory.size
      · obtain ⟨byte, found⟩ := memory.read_of_inside address low inside
        have remaining : rest ≠ [] := by
          rintro rfl
          rw [List.length_nil] at overruns
          omega
        have same : max (address + 1) (memory.size : Int) = max address memory.size := by omega
        rw [fill_cons_of_read found, ← same]
        exact ih (address + 1) (by omega) remaining (by omega) _
      · have behind : max address (memory.size : Int) = address := by omega
        rw [fill_cons_of_missing (memory.read_of_outside address (by omega)), behind]
        exact ⟨registers, rfl⟩

theorem after_fill_cons {memory : Memory} {address : Int} {byte : UInt8}
    (present : memory.read address = .ok byte) (index : Fin 16) (rest : List (Fin 16))
    (registers : Registers) :
    (fill memory address (index :: rest)).after registers =
      (fill memory (address + 1) rest).after (registers.set index byte.toNat) := by
  rw [Action.after, fill_cons_of_read present, Action.after]

theorem get_after_fill_of_notMem (memory : Memory) (address : Int) (indices : List (Fin 16))
    {other : Fin 16} (apart : other ∉ indices) (registers : Registers) :
    ((fill memory address indices).after registers).get other = registers.get other := by
  induction indices generalizing address registers with
  | nil => rfl
  | cons index rest ih =>
      have differs : index ≠ other := fun same => apart (same ▸ List.mem_cons_self)
      have others : other ∉ rest := fun member => apart (List.mem_cons_of_mem index member)
      cases found : memory.read address with
      | error fault => rw [Action.after_of_error (fill_cons_of_missing found index rest registers)]
      | ok byte =>
          rw [after_fill_cons found, ih (address + 1) others, get_set_other _ _ differs]

/-- The register at a place of the list gets the byte at that place, or keeps its value if there is
no such byte. -/
theorem get_after_fill (memory : Memory) (address : Int) {indices : List (Fin 16)}
    (low : 0 ≤ address) (distinct : indices.Nodup) (registers : Registers) {place : Nat}
    (inside : place < indices.length) :
    (address + place < memory.size → ∃ byte, memory.read (address + place) = .ok byte ∧
      ((fill memory address indices).after registers).get indices[place] = byte.toNat) ∧
    (memory.size ≤ address + place →
      ((fill memory address indices).after registers).get indices[place] =
        registers.get indices[place]) := by
  induction indices generalizing address registers place with
  | nil => exact absurd inside (Nat.not_lt_zero place)
  | cons index rest ih =>
      obtain ⟨fresh, others⟩ := List.nodup_cons.mp distinct
      by_cases present : address < memory.size
      · obtain ⟨byte, found⟩ := memory.read_of_inside address low present
        rw [after_fill_cons found]
        cases place with
        | zero =>
            simp only [List.getElem_cons_zero, Int.natCast_zero, Int.add_zero]
            refine ⟨fun _ => ⟨byte, found, ?_⟩, fun behind => by omega⟩
            rw [get_after_fill_of_notMem _ _ _ fresh, get_set_same]
        | succ place =>
            have within : place < rest.length := Nat.lt_of_succ_lt_succ inside
            have differs : index ≠ rest[place] := fun same => fresh (same ▸ List.getElem_mem within)
            have later := ih (address + 1) (by omega) others
              (registers.set index byte.toNat) within
            have same : address + 1 + (place : Int) = address + (place + 1 : Nat) := by omega
            rw [same, get_set_other _ _ differs] at later
            exact later
      · have missing := memory.read_of_outside address (by omega)
        rw [Action.after_of_error (fill_cons_of_missing missing index rest registers)]
        exact ⟨fun behind => by omega, fun _ => rfl⟩

end Chip8.Registers
