import Chip8.Proofs.Footprint
/-!
Registers that are saved can be restored, as long as nothing writes over their bytes. A save moves
the index register behind its bytes: so two blocks that are saved one after the other lie side by
side, and are restored in the same order.
-/

namespace Chip8

variable {first second : Memory} {memory : Memory} {registers : Registers} {address : Int}
  {x : Fin 16} {length : Nat}

namespace Memory

def Holds (memory : Memory) (address : Int) (registers : Registers) (last : Fin 16) : Prop :=
  ∀ index ≤ last, ∃ byte : UInt8,
    memory.read (address + index.val) = .ok byte ∧ (byte.toNat : Int) = registers.get index

theorem Holds.congr (holds : first.Holds address registers x)
    (same : ∀ place, address ≤ place → place < address + (x.val + 1) →
      second.read place = first.read place) : second.Holds address registers x := by
  intro index within
  obtain ⟨byte, found, value⟩ := holds index within
  have low : index.val ≤ x.val := within
  exact ⟨byte, (same _ (by omega) (by omega)).trans found, value⟩

theorem Holds.inside (holds : memory.Holds address registers x) :
    0 ≤ address ∧ address + x.val < memory.size := by
  obtain ⟨_, lowest, -⟩ := holds 0 (Fin.zero_le x)
  obtain ⟨_, highest, -⟩ := holds x (Fin.le_refl x)
  have low := (inside_of_read lowest).1
  exact ⟨by simpa using low, (inside_of_read highest).2⟩

end Memory

namespace Operation

def stored (operation : Operation) (registers : Registers) : List Int :=
  match Pattern.ofText? operation.pattern with
  | some pattern => pattern.stored operation.opcode registers
  | none => []

theorem memory_after_execute (operation : Operation) (machine : Machine) :
    (operation.execute.after machine).bus.memory =
      (Memory.load machine.state.i (operation.stored machine.state)).after
        machine.bus.memory := by
  rw [execute, stored]
  cases Pattern.ofText? operation.pattern with
  | none => rfl
  | some pattern => exact pattern.memory_after_effect _ _ machine

def Spares (operation : Operation) (address : Int) (length : Nat) (machine : Machine) : Prop :=
  ∀ place < (operation.stored machine.state).length,
    machine.state.i + place < address ∨ address + length ≤ machine.state.i + place

theorem Spares.read {operation : Operation} {machine : Machine}
    (spares : operation.Spares address length machine) {place : Int} (low : address ≤ place)
    (high : place < address + length) :
    (operation.execute.after machine).bus.memory.read place = machine.bus.memory.read place := by
  rw [memory_after_execute]
  apply Memory.read_after_load_of_beside
  apply Decidable.byContradiction
  intro written
  have apart := spares (place - machine.state.i).toNat (by omega)
  omega

end Operation

namespace Machine

/-- What may come between a save and a restore: operations that spare the cells of a block, refused
or not, and any change that leaves the memory alone. -/
inductive Interlude (address : Int) (length : Nat) : Machine → Machine → Prop where
  | nothing {machine : Machine} : Interlude address length machine machine
  | execute {machine last : Machine} (operation : Operation)
      (spares : operation.Spares address length machine)
      (rest : Interlude address length (operation.execute.after machine) last) :
      Interlude address length machine last
  | change {machine last : Machine} (next : Machine)
      (same : next.bus.memory = machine.bus.memory) (rest : Interlude address length next last) :
      Interlude address length machine last

structure Saves (before : Machine) (x : Fin 16) (after : Machine) : Prop where
  block : after.bus.memory.Holds before.state.i before.state x
  size : after.bus.memory.size = before.bus.memory.size
  beside : ∀ place, place < before.state.i ∨ before.state.i + x.val < place →
    after.bus.memory.read place = before.bus.memory.read place
  rest : after = (before.withMemory after.bus.memory).withState
    { before.state with i := before.state.i + x.val + 1 }

/-- What a restore of the registers up to `x` does if their values have been saved. -/
structure Restores (before : Machine) (x : Fin 16) (saved : Registers) (after : Machine) :
    Prop where
  block : ∀ index ≤ x, after.state.get index = saved.get index
  others : ∀ index, x < index → after.state.get index = before.state.get index
  rest : after = before.withState
    { before.state with v := after.state.v, i := before.state.i + x.val + 1 }

variable {machine last : Machine}

theorem Interlude.size (between : Interlude address length machine last) :
    last.bus.memory.size = machine.bus.memory.size := by
  induction between with
  | nothing => rfl
  | execute operation spares rest ih =>
      rw [ih, Operation.memory_after_execute]
      exact Memory.load_preserves_size _ _ _
  | change next same rest ih => rw [ih, same]

theorem Interlude.read (between : Interlude address length machine last) {place : Int}
    (low : address ≤ place) (high : place < address + length) :
    last.bus.memory.read place = machine.bus.memory.read place := by
  induction between with
  | nothing => rfl
  | execute operation spares rest ih => rw [ih, spares.read low high]
  | change next same rest ih => rw [ih, same]

theorem Saves.index (saves : machine.Saves x last) :
    last.state.i = machine.state.i + x.val + 1 := by
  rw [saves.rest]
  rfl

theorem Saves.holds_below (saves : machine.Saves x last) {y : Fin 16}
    (held : machine.bus.memory.Holds address registers y)
    (below : address + (y.val + 1) ≤ machine.state.i) :
    last.bus.memory.Holds address registers y :=
  held.congr fun _ _ before => saves.beside _ (.inl (by omega))

theorem Restores.index (restores : machine.Restores x registers last) :
    last.state.i = machine.state.i + x.val + 1 := by
  rw [restores.rest]
  rfl

theorem Restores.memory_eq (restores : machine.Restores x registers last) :
    last.bus.memory = machine.bus.memory := by
  rw [restores.rest]
  rfl

theorem Interlude.holds (between : Interlude address length machine last) {start : Int}
    (held : machine.bus.memory.Holds start registers x) (low : address ≤ start)
    (high : start + x.val < address + length) : last.bus.memory.Holds start registers x :=
  held.congr fun _ behind before => between.read (by omega) (by omega)

end Machine

namespace Effect

variable {machine : Machine}

theorem save_saves (bytes : ∀ index, IsByte (machine.state.get index))
    (standard : machine.bus.memory.size = 4096) (low : 0 ≤ machine.state.i)
    (high : machine.state.i + x.val ≤ 4095) :
    ∃ saved, save x machine = .ok () saved ∧ machine.Saves x saved := by
  have counted := machine.state.length_firstValues x
  have fits : machine.state.i + (machine.state.firstValues x).length ≤
      machine.bus.memory.size := by omega
  obtain ⟨memory, went⟩ := machine.bus.memory.load_of_fits machine.state.i low fits
  have stays := Action.after_of_ok went
  have index : (machine.state.i + (x.val + 1)) % 0x10000 = machine.state.i + x.val + 1 := by omega
  refine ⟨_, save_of_loaded x went, ?block, ?size, ?beside, ?rest⟩
  case block =>
      intro index within
      have inside : index.val ≤ x.val := within
      have place : (machine.state.i + index.val - machine.state.i).toNat = index.val := by omega
      have found : memory.read (machine.state.i + index.val) = _ :=
        Memory.read_of_loaded went low (by omega) (by omega)
      rw [place, Registers.getD_firstValues _ within] at found
      refine ⟨_, found, ?_⟩
      rw [Memory.toNat_lowByte, Int.emod_eq_of_lt (bytes index).1 (bytes index).2]
  case size => exact stays ▸ Memory.load_preserves_size _ _ _
  case beside =>
      intro place beside
      have outside : place < machine.state.i ∨
          machine.state.i + (machine.state.firstValues x).length ≤ place := by omega
      have kept := machine.bus.memory.read_after_load_of_beside _ _ outside
      rw [stays] at kept
      exact kept
  case rest => rw [Registers.addIndex, index]; rfl

theorem restore_restores {saved : Registers} (standard : machine.bus.memory.size = 4096)
    (held : machine.bus.memory.Holds machine.state.i saved x) :
    ∃ done, restore x machine = .ok () done ∧ machine.Restores x saved done := by
  obtain ⟨low, high⟩ := held.inside
  have counted := Registers.length_upTo x
  have fits : machine.state.i + (Registers.upTo x).length ≤ machine.bus.memory.size := by omega
  obtain ⟨filled, went⟩ :=
    Registers.fill_of_fits machine.bus.memory machine.state.i low fits machine.state
  have stays := Action.after_of_ok went
  have moved : (machine.state.i + (x.val + 1)) % 0x10000 = machine.state.i + x.val + 1 := by omega
  refine ⟨_, restore_of_filled x went, ?block, ?others, ?rest⟩
  case block =>
      intro index within
      obtain ⟨byte, found, value⟩ := held index within
      have inside : index.val < (Registers.upTo x).length :=
        counted ▸ Nat.lt_succ_of_le within
      have loaded := (Registers.get_after_fill machine.bus.memory machine.state.i low
        (Registers.nodup_upTo x) machine.state inside).1 (by omega)
      obtain ⟨read, same, gets⟩ := loaded
      cases found.symm.trans same
      rw [stays, Registers.getElem_upTo] at gets
      exact gets.trans value
  case others =>
      intro index behind
      have apart : index ∉ Registers.upTo x := mt Registers.mem_upTo.mp (Fin.not_le.mpr behind)
      have kept := Registers.get_after_fill_of_notMem machine.bus.memory machine.state.i _ apart
        machine.state
      rw [stays] at kept
      exact kept
  case rest =>
      have kept := Registers.fill_preserves_control machine.bus.memory machine.state.i
        (Registers.upTo x) machine.state
      rw [stays] at kept
      rw [Registers.addIndex, Registers.eq_of_control kept, ← moved]
      rfl

end Effect

namespace Operation

variable {machine : Machine}

theorem execute_saves {save : Operation} (named : save.pattern = "FX55")
    (bytes : ∀ index, IsByte (machine.state.get index))
    (standard : machine.bus.memory.size = 4096) (low : 0 ≤ machine.state.i)
    (high : machine.state.i + save.opcode.x.val ≤ 4095) :
    ∃ saved, save.execute machine = .ok () saved ∧ machine.Saves save.opcode.x saved := by
  rw [Cpu.execute_of_text .save named]
  exact Effect.save_saves bytes standard low high

theorem execute_restores {restore : Operation} (named : restore.pattern = "FX65")
    (standard : machine.bus.memory.size = 4096)
    (held : machine.bus.memory.Holds machine.state.i registers restore.opcode.x) :
    ∃ done, restore.execute machine = .ok () done ∧
      machine.Restores restore.opcode.x registers done := by
  rw [Cpu.execute_of_text .restore named]
  exact Effect.restore_restores standard held

/-- Registers that are saved are restored from the same place, whatever comes between that spares
their bytes. Two blocks that are saved one after the other are restored one after the other. -/
theorem save_and_restore :
    (∀ (save : Operation) (machine : Machine) (x : Fin 16),
      save.pattern = "FX55" → save.opcode.x = x →
      (∀ index, IsByte (machine.state.get index)) → machine.bus.memory.size = 4096 →
      0 ≤ machine.state.i → machine.state.i + x.val ≤ 4095 →
      ∃ saved, save.execute machine = .ok () saved ∧ machine.Saves x saved ∧
        ∀ (restore : Operation) (later : Machine),
          restore.pattern = "FX65" → restore.opcode.x = x →
          saved.Interlude machine.state.i (x.val + 1) later →
          later.state.i = machine.state.i →
          ∃ done, restore.execute later = .ok () done ∧
            later.Restores x machine.state done) ∧
    ∀ (save saveNext : Operation) (machine : Machine) (x y : Fin 16),
      save.pattern = "FX55" → save.opcode.x = x →
      saveNext.pattern = "FX55" → saveNext.opcode.x = y →
      (∀ index, IsByte (machine.state.get index)) → machine.bus.memory.size = 4096 →
      0 ≤ machine.state.i → machine.state.i + x.val + y.val + 2 ≤ 4096 →
      ∃ saved, save.execute machine = .ok () saved ∧ machine.Saves x saved ∧
        ∀ next : Machine,
          saved.Interlude machine.state.i (x.val + 1) next → next.state.i = saved.state.i →
          (∀ index, IsByte (next.state.get index)) →
          ∃ both, saveNext.execute next = .ok () both ∧ next.Saves y both ∧
            ∀ (restore restoreNext : Operation) (later : Machine),
              restore.pattern = "FX65" → restore.opcode.x = x →
              restoreNext.pattern = "FX65" → restoreNext.opcode.x = y →
              both.Interlude machine.state.i (x.val + 1 + (y.val + 1)) later →
              later.state.i = machine.state.i →
              ∃ restored, restore.execute later = .ok () restored ∧
                later.Restores x machine.state restored ∧
                ∀ last : Machine,
                  restored.Interlude (machine.state.i + x.val + 1) (y.val + 1) last →
                  last.state.i = restored.state.i →
                  ∃ done, restoreNext.execute last = .ok () done ∧
                    last.Restores y next.state done := by
  constructor
  · rintro save machine x saves rfl bytes standard low high
    obtain ⟨saved, stored, block⟩ := execute_saves saves bytes standard low high
    refine ⟨saved, stored, block, ?_⟩
    intro restore later restores same between back
    have size : later.bus.memory.size = 4096 := by rw [between.size, block.size, standard]
    have held := between.holds block.block (Int.le_refl _) (by omega)
    rw [← back, ← same] at held
    rw [← same]
    exact execute_restores restores size held
  · rintro save saveNext machine x y saves rfl savesNext rfl bytes standard low high
    obtain ⟨saved, stored, block⟩ := execute_saves saves bytes standard low (by omega)
    refine ⟨saved, stored, block, ?_⟩
    intro next meantime behind bytesNext
    rw [block.index] at behind
    have size : next.bus.memory.size = 4096 := by rw [meantime.size, block.size, standard]
    have lower := meantime.holds block.block (Int.le_refl _) (by omega)
    obtain ⟨both, storedNext, blockNext⟩ :=
      execute_saves savesNext bytesNext size (by omega) (by omega)
    refine ⟨both, storedNext, blockNext, ?_⟩
    intro restore restoreNext later restores same restoresNext sameNext between back
    have sizeLater : later.bus.memory.size = 4096 := by rw [between.size, blockNext.size, size]
    -- The second block starts where the first one ends, so that neither save hurts the other.
    have lowerLater := between.holds (blockNext.holds_below lower (by omega)) (Int.le_refl _)
      (by omega)
    have upperLater := between.holds blockNext.block (by omega) (by omega)
    rw [← back, ← same] at lowerLater
    obtain ⟨restored, filled, values⟩ := execute_restores restores sizeLater lowerLater
    rw [same] at values
    refine ⟨restored, filled, values, ?_⟩
    intro last pause on
    rw [values.index, back] at on
    have sizeLast : last.bus.memory.size = 4096 := by rw [pause.size, values.memory_eq, sizeLater]
    rw [← values.memory_eq] at upperLater
    have upperLast := pause.holds upperLater (by omega) (by omega)
    rw [behind, ← on, ← sameNext] at upperLast
    rw [← sameNext]
    exact execute_restores restoresNext sizeLast upperLast

def saving : Machine where
  state := Registers.set { v := Vector.replicate 16 8, i := 4092 } Registers.first 7
  bus := {}

def overwritten (machine : Machine) : Machine :=
  machine.withState { machine.state with v := Vector.replicate 16 9 }

def pointedBack (machine : Machine) : Machine := machine.withState { i := 4092 }

/-- Two blocks fill the memory up to its end. The values come back after the registers have been
overwritten, by an instruction or otherwise. -/
theorem save_and_restore_at_end :
    (∃ saved done, (ofPattern .save 0xF155 none).execute saving = .ok () saved ∧
      (ofPattern .restore 0xF165 none).execute
        (pointedBack ((ofPattern .loadByte 0x60FF none).execute.after saved)) = .ok () done ∧
      done.state.get 0 = 7 ∧ done.state.get 1 = 8) ∧
    ∃ saved both restored done, (ofPattern .save 0xF155 none).execute saving = .ok () saved ∧
      (ofPattern .save 0xF155 none).execute (overwritten saved) = .ok () both ∧
      (ofPattern .restore 0xF165 none).execute (pointedBack both) = .ok () restored ∧
      (ofPattern .restore 0xF165 none).execute restored = .ok () done ∧
      restored.state.get 0 = 7 ∧ done.state.get 0 = 9 := by
  have bytes : ∀ index, IsByte (saving.state.get index) := by decide
  have others : ∀ index, IsByte (Registers.get { v := Vector.replicate 16 9 } index) := by decide
  constructor
  · obtain ⟨saved, stored, -, comesBack⟩ := save_and_restore.1 (ofPattern .save 0xF155 none)
      saving 1 rfl rfl bytes rfl (by decide) (by decide)
    have cleared : saved.Interlude 4092 2
        (pointedBack ((ofPattern .loadByte 0x60FF none).execute.after saved)) :=
      .execute (ofPattern .loadByte 0x60FF none) nofun (.change (pointedBack _) rfl .nothing)
    obtain ⟨done, filled, values⟩ :=
      comesBack (ofPattern .restore 0xF165 none) _ rfl rfl cleared rfl
    exact ⟨saved, done, stored, filled, values.block 0 (by decide), values.block 1 (by decide)⟩
  · obtain ⟨saved, stored, -, goesOn⟩ := save_and_restore.2 (ofPattern .save 0xF155 none)
      (ofPattern .save 0xF155 none) saving 1 1 rfl rfl rfl rfl bytes rfl (by decide) (by decide)
    obtain ⟨both, storedNext, -, comeBack⟩ :=
      goesOn (overwritten saved) (.change (overwritten saved) rfl .nothing) rfl others
    obtain ⟨restored, filled, values, last⟩ := comeBack (ofPattern .restore 0xF165 none)
      (ofPattern .restore 0xF165 none) (pointedBack both) rfl rfl rfl rfl
      (.change (pointedBack both) rfl .nothing) rfl
    obtain ⟨done, filledNext, valuesNext⟩ := last restored .nothing rfl
    exact ⟨saved, both, restored, done, stored, storedNext, filled, filledNext,
      values.block 0 (by decide), valuesNext.block 0 (by decide)⟩

end Operation

end Chip8
