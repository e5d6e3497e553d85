import Chip8.Proofs.Host
import Chip8.Startup

namespace Chip8

namespace Memory

variable {memory : Memory} {start : Int} {program : List Int}

/-- The room that is kept for the font behind the last address. -/
def spare (memory : Memory) : List UInt8 := memory.cells.toList.drop memory.size

theorem write_preserves_spare (address data : Int) : (write address data).Preserves spare := by
  intro memory
  by_cases inside : 0 ≤ address ∧ address < memory.size
  · have below : address.toNat < memory.size := by omega
    have written : write address data memory = .ok () _ := dif_pos inside
    rw [Action.after_of_ok written]
    simp [spare, Vector.toList_set, List.drop_set_of_lt below]
  · rw [Action.after_of_error (memory.write_of_outside address data inside)]

theorem load_preserves_spare (start : Int) (program : List Int) :
    (load start program).Preserves spare := by
  induction program generalizing start with
  | nil => exact Action.preserves_pure _ _
  | cons byte rest ih => exact (write_preserves_spare start byte).bind fun _ => ih (start + 1)

/-- The bytes of a program that have a cell are in memory, and nothing else is different. A program
that starts in front of the memory has no such bytes. -/
structure Loads (memory : Memory) (start : Int) (program : List Int) (after : Memory) : Prop where
  size : after.size = memory.size
  stored : ∀ place (inside : place < program.length), 0 ≤ start → start + place < memory.size →
    ∃ byte : UInt8, after.read (start + place) = .ok byte ∧
      (byte.toNat : Int) = program[place] % 256
  others : ∀ address : Int,
    (∀ place < program.length, 0 ≤ start → address ≠ start + place) →
      after.read address = memory.read address
  spare : after.spare = memory.spare

theorem load_of_negative (memory : Memory) (negative : start < 0) (present : program ≠ []) :
    load start program memory = .error (.outsideMemory start memory.size) memory := by
  cases program with
  | nil => exact absurd rfl present
  | cons byte rest => exact memory.load_cons_of_outside start byte rest (by omega)

theorem after_load_of_negative (memory : Memory) (negative : start < 0) :
    (load start program).after memory = memory := by
  by_cases present : program = []
  · subst present
    rfl
  · exact Action.after_of_error (memory.load_of_negative negative present)

theorem load_loads (memory : Memory) (start : Int) (program : List Int) :
    memory.Loads start program ((load start program).after memory) where
  size := load_preserves_size start program memory
  stored := by
    intro place inside low room
    have reads := (memory.read_after_load start program low).2 (start + place)
    have here : (start + (place : Int) - start).toNat = place := by omega
    rw [if_pos (by omega), here, List.getD_eq_getElem?_getD, List.getElem?_eq_getElem inside]
      at reads
    exact ⟨_, reads, toNat_lowByte _⟩
  others := by
    intro address apart
    by_cases low : 0 ≤ start
    · apply memory.read_after_load_of_beside
      apply Decidable.byContradiction
      intro covered
      exact apart (address - start).toNat (by omega) low (by omega)
    · rw [memory.after_load_of_negative (by omega)]
  spare := load_preserves_spare start program memory

theorem refusal_load (memory : Memory) (start : Int) (program : List Int) :
    (load start program).refusal? memory =
      if program ≠ [] ∧ (start < 0 ∨ memory.size < start + program.length) then
        some (.outsideMemory (if start < 0 ∨ memory.size ≤ start then start else memory.size)
          memory.size)
      else none := by
  by_cases present : program = []
  · subst present
    rfl
  by_cases negative : start < 0
  · rw [Action.refusal_of_error (memory.load_of_negative negative present),
      if_pos ⟨present, .inl negative⟩, if_pos (.inl negative)]
  by_cases overruns : memory.size < start + program.length
  · obtain ⟨done, refused⟩ := memory.load_of_overruns start (by omega) present overruns
    have first : max start (memory.size : Int) =
        if start < 0 ∨ memory.size ≤ start then start else memory.size := by
      split <;> omega
    rw [Action.refusal_of_error refused, if_pos ⟨present, .inr overruns⟩, first]
  · have fits : start + program.length ≤ memory.size := by omega
    obtain ⟨done, went⟩ := memory.load_of_fits start (by omega) fits
    rw [Action.refusal_of_ok went, if_neg (by simp [negative, overruns])]

structure Contains (memory : Memory) (bytes : List UInt8) : Prop where
  font : memory.HoldsFont
  program : ∀ place (inside : place < bytes.length),
    memory.read (0x200 + place) = .ok bytes[place]
  zeros : ∀ place < 4096, Font.size ≤ place → (place < 0x200 ∨ 0x200 + bytes.length ≤ place) →
    memory.read place = .ok 0
  dump : memory.dump 0x200 bytes.length = bytes

theorem dump_of_reads {start : Nat} {bytes : List UInt8}
    (stored : ∀ place (inside : place < bytes.length),
      memory.read (start + place) = .ok bytes[place]) :
    memory.dump start bytes.length = bytes := by
  rw [dump_eq_window]
  apply List.ext_getElem?
  intro place
  rw [List.getElem?_take, List.getElem?_drop, ← read_toOption]
  split
  next inside =>
      rw [Int.natCast_add, stored place inside, List.getElem?_eq_getElem inside]
      rfl
  next outside => rw [List.getElem?_eq_none (Nat.le_of_not_lt outside)]

variable {rom : Rom}

theorem read_of_rom (fits : rom.size ≤ 3584) (place : Nat) (inside : place < rom.bytes.length) :
    ((loadProgram rom.toList).after default).read (0x200 + place) = .ok rom.bytes[place] := by
  have inside' : place < rom.toList.length := by
    simpa [Rom.toList] using inside
  have room : (programStart : Int) + place < default.size := by
    have size : default.size = 4096 := rfl
    rw [Rom.size] at fits
    rw [programStart, size]
    omega
  obtain ⟨byte, found, value⟩ := (default.load_loads programStart rom.toList).stored place inside'
    (Int.natCast_nonneg _) room
  have same : byte = rom.bytes[place] := by
    have small := rom.bytes[place].toNat_lt
    simp only [Rom.toList, List.getElem_map] at value
    apply UInt8.toNat_inj.mp
    omega
  rw [← same]
  exact found

theorem read_beside_rom {place : Nat} (inside : place < 4096)
    (beside : place < 0x200 ∨ 0x200 + rom.bytes.length ≤ place) :
    ((loadProgram rom.toList).after default).read place = .ok (Font.byteAt place) := by
  have unmet : ∀ offset < rom.toList.length, 0 ≤ (programStart : Int) →
      (place : Int) ≠ programStart + offset := by
    intro offset short _
    rw [Rom.toList, List.length_map] at short
    rw [programStart]
    omega
  have fresh := read_ofSize 4096 (Int.natCast_nonneg place) (Int.ofNat_lt.mpr inside)
  exact ((default.load_loads programStart rom.toList).others place unmet).trans fresh

theorem contains_of_fits (fits : rom.size ≤ 3584) :
    ((loadProgram rom.toList).after default).Contains rom.bytes where
  font := by
    intro place inside
    rw [Font.size] at inside
    exact read_beside_rom (by omega) (by omega)
  program := read_of_rom fits
  zeros := by
    intro place inside behind beside
    rw [read_beside_rom inside beside, Font.byteAt_of_size_le behind]
  dump := dump_of_reads (read_of_rom fits)

end Memory

theorem Cpu.loadProgram_of_refused {cpu : Cpu} {program : List Int} {fault : Fault}
    {memory : Memory} (refused : Memory.loadProgram program cpu.bus.memory = .error fault memory) :
    loadProgram program cpu = .error fault (cpu.after (.load program)) := by
  have stopped : Machine.onMemory (Memory.loadProgram program) cpu.toCore =
      .error fault (Machine.withMemory cpu.toCore memory) := Action.within_of_error refused
  have whole : loadProgram program cpu =
      .error fault ⟨Machine.withMemory cpu.toCore memory, cpu.instructionCount⟩ := by
    rw [loadProgram, onMemory, onMachine, Action.within_of_error stopped]
  rw [whole, after, Event.action, Action.after_of_error whole]

namespace Startup

variable {host : Host} {path : String} {log later : List Log.Record} {rom : Rom} {cpu : Cpu}

/-- A machine that has been started is a standard one with a program from a file. -/
theorem createCpu_eq_ok (created : createCpu host path log = .ok cpu later) :
    ∃ program, cpu = (Cpu.ofBus { random := host.random }).after (.load program) := by
  obtain ⟨rom, logged, -, rest⟩ := Action.bind_eq_ok.mp created
  refine ⟨rom.toList, ?_⟩
  cases result : Cpu.loadProgram rom.toList (Cpu.ofBus { random := host.random }) with
  | error fault left =>
      rw [result] at rest
      cases rest
  | ok value next =>
      rw [result] at rest
      cases rest
      exact (Action.after_of_ok result).symm

theorem loadRom_of_read (read : Rom.ofFile host.read path = .ok rom) (log : List Log.Record) :
    loadRom host path log = .ok rom (log ++ [⟨.info, .romLoader,
      "Loading ROM " ++ path ++ " (" ++ toString rom.size ++ " bytes)"⟩]) := by
  rw [loadRom, read]
  rfl

theorem createCpu_of_fits (read : Rom.ofFile host.read path = .ok rom)
    (fits : 0x200 + rom.size ≤ 4096) (log : List Log.Record) :
    ∃ later, createCpu host path log =
      .ok ((Cpu.ofBus { random := host.random }).after (.load rom.toList)) later := by
  have short : 0x200 + rom.toList.length ≤ 4096 := by
    rw [Rom.toList, List.length_map]
    exact fits
  have stored := Cpu.loadProgram_of_fits (Cpu.ofBus { random := host.random }) short
  exact ⟨_, by rw [createCpu, Action.bind_of_ok (loadRom_of_read read log), stored]; rfl⟩

theorem createCpu_of_overruns (read : Rom.ofFile host.read path = .ok rom)
    (overruns : 4096 < 0x200 + rom.size) (log : List Log.Record) :
    ∃ later, createCpu host path log = .error (.fault (.outsideMemory 4096 4096)) later := by
  have length : rom.toList.length = rom.size := List.length_map ..
  have present : rom.toList ≠ [] := by
    intro empty
    rw [empty, List.length_nil] at length
    omega
  have long : (Memory.default.size : Int) < (Memory.programStart : Nat) + rom.toList.length := by
    have size : Memory.default.size = 4096 := rfl
    rw [size, Memory.programStart, length]
    omega
  obtain ⟨memory, refused⟩ :=
    Memory.default.load_of_overruns Memory.programStart (Int.natCast_nonneg _) present long
  have stopped : Cpu.loadProgram rom.toList (Cpu.ofBus { random := host.random }) = .error _ _ :=
    Cpu.loadProgram_of_refused refused
  exact ⟨_, by rw [createCpu, Action.bind_of_ok (loadRom_of_read read log), stopped]; rfl⟩

theorem ofFile_of_read {files : String → Except FileTree.Refusal ByteArray} {bytes : ByteArray}
    (named : ¬path.contains '\x00') (readable : files path = .ok bytes) :
    Rom.ofFile files path = .ok ⟨bytes.toList⟩ := by
  unfold Rom.ofFile
  rw [if_neg named, readable]

/-- A load stores the bytes of a program up to the first one without a cell, and is refused there,
whatever the memory, the program and the address. So a start-up accepts the programs that fit behind
the start address, and these only. It leaves the program there, the font in front of it, and zeros
elsewhere. -/
theorem program_loading :
    (∀ (memory : Memory) (program : List Int) (start : Int),
      (Memory.load start program).refusal? memory =
        (if program ≠ [] ∧ (start < 0 ∨ memory.size < start + program.length) then
          some (.outsideMemory (if start < 0 ∨ memory.size ≤ start then start else memory.size)
            memory.size)
        else none) ∧
      memory.Loads start program ((Memory.load start program).after memory)) ∧
    ∀ (host : Host) (path : String) (bytes : ByteArray) (log : List Log.Record),
      ¬path.contains '\x00' → host.read path = .ok bytes →
      ((∃ cpu later, createCpu host path log = .ok cpu later) ↔ bytes.toList.length ≤ 3584) ∧
      (3584 < bytes.toList.length → ∃ later,
        createCpu host path log = .error (.fault (.outsideMemory 4096 4096)) later) ∧
      ∀ cpu later, createCpu host path log = .ok cpu later →
        cpu.bus.memory.Contains bytes.toList := by
  constructor
  · intro memory program start
    exact ⟨memory.refusal_load start program, memory.load_loads start program⟩
  · intro host path bytes log named readable
    have read := ofFile_of_read named readable
    have size : Rom.size ⟨bytes.toList⟩ = bytes.toList.length := rfl
    by_cases fits : bytes.toList.length ≤ 3584
    · have short : 0x200 + Rom.size ⟨bytes.toList⟩ ≤ 4096 := by omega
      obtain ⟨final, created⟩ := createCpu_of_fits read short log
      refine ⟨⟨fun _ => fits, fun _ => ⟨_, final, created⟩⟩, fun long => absurd fits (by omega), ?_⟩
      intro cpu later again
      cases again.symm.trans created
      rw [Cpu.after_load]
      exact Memory.contains_of_fits fits
    · have long : 4096 < 0x200 + Rom.size ⟨bytes.toList⟩ := by omega
      obtain ⟨final, refused⟩ := createCpu_of_overruns read long log
      have never : ∀ cpu later, createCpu host path log ≠ .ok cpu later := by
        intro cpu later created
        cases created.symm.trans refused
      refine ⟨⟨?_, fun short => absurd short fits⟩, fun _ => ⟨final, refused⟩, ?_⟩
      · intro ⟨cpu, later, created⟩
        exact absurd created (never cpu later)
      · intro cpu later created
        exact absurd created (never cpu later)

def oneJump : Host where
  configPath := none
  read _ := .ok ⟨#[0x12, 0x34]⟩

theorem program_loading_small :
    (Memory.load 2 [0x1FF, -1, 7]).refusal? (Memory.ofSize 4) = some (.outsideMemory 4 4) ∧
    (∃ byte : UInt8,
      ((Memory.load 2 [0x1FF, -1, 7]).after (Memory.ofSize 4)).read 3 = .ok byte ∧
        byte.toNat = 0xFF) ∧
    ∃ cpu later, createCpu oneJump "jump.ch8" [] = .ok cpu later ∧
      cpu.bus.memory.read 0x201 = .ok 0x34 ∧ cpu.bus.memory.dump 0x200 2 = [0x12, 0x34] := by
  obtain ⟨loads, starts⟩ := program_loading
  obtain ⟨refused, left⟩ := loads (Memory.ofSize 4) [0x1FF, -1, 7] 2
  obtain ⟨byte, stored, value⟩ := left.stored 1 (by decide) (by decide) (by decide)
  have bytes : ByteArray.toList ⟨#[0x12, 0x34]⟩ = [0x12, 0x34] := by cbv
  have named : ¬"jump.ch8".contains '\x00' := by
    have absent : "jump.ch8".contains '\x00' = false := by cbv
    simp [absent]
  obtain ⟨accepts, -, contains⟩ := starts oneJump "jump.ch8" ⟨#[0x12, 0x34]⟩ [] named rfl
  rw [bytes] at accepts contains
  obtain ⟨cpu, later, created⟩ := accepts.mpr (by decide)
  have placed := contains cpu later created
  exact ⟨refused, ⟨byte, stored, Int.ofNat_inj.mp value⟩, cpu, later, created,
    placed.program 1 (by decide), placed.dump⟩

end Startup

end Chip8
