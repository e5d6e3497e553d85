import Chip8.Proofs.Effect

namespace Chip8

/-- Memory, and screens without cells. -/
def drawingKinds : List (Option FaultKind) := [some .memoryBounds, none]

/-- The key, and a number of the key that cannot be written out. -/
def askingKinds : List (Option FaultKind) := [some .keyBounds, none]

def Pattern.kinds : Pattern → List (Option FaultKind)
  | ret => [some .stackUnderflow]
  | skipPressed | skipReleased => askingKinds
  | draw => drawingKinds
  | storeDecimal | save | restore => [some .memoryBounds]
  | _ => []

def Fault.In (kinds : List (Option FaultKind)) (fault : Fault) : Prop := fault.kind? ∈ kinds

variable {kinds : List (Option FaultKind)}

theorem Memory.read_kind {memory : Memory} {address : Int} {fault : Fault}
    (missing : memory.read address = .error fault) : fault.kind? = some .memoryBounds := by
  by_cases inside : 0 ≤ address ∧ address < memory.size
  · obtain ⟨byte, present⟩ := memory.read_of_inside address inside.1 inside.2
    cases missing.symm.trans present
  · rw [memory.read_of_outside address inside] at missing
    cases missing
    rfl

theorem Memory.readWord_kind {memory : Memory} {address : Int} {fault : Fault}
    (missing : memory.readWord address = .error fault) : fault.kind? = some .memoryBounds := by
  cases first : memory.read address with
  | error cause =>
      rw [readWord, first] at missing
      cases missing
      exact read_kind first
  | ok high =>
      cases second : memory.read (address + 1) with
      | error cause =>
          rw [readWord, first, second] at missing
          cases missing
          exact read_kind second
      | ok low =>
          rw [readWord_of_reads first second] at missing
          cases missing

theorem Memory.read_kinds (bounds : some .memoryBounds ∈ kinds) {σ : Type} (memory : Memory)
    (address : Int) :
    (Action.attempt (memory.read address) : Action Fault σ UInt8).RefusesOnly (Fault.In kinds) := by
  refine Action.refusesOnly_attempt fun fault missing => ?_
  rw [Fault.In, read_kind missing]
  exact bounds

theorem Memory.load_kinds (bounds : some .memoryBounds ∈ kinds) (start : Int) (bytes : List Int) :
    (load start bytes).RefusesOnly (Fault.In kinds) := by
  induction bytes generalizing start with
  | nil => exact Action.refusesOnly_of_ok fun _ => rfl
  | cons byte rest ih =>
      refine Action.RefusesOnly.bind (fun memory fault refused => ?_) fun _ => ih (start + 1)
      by_cases inside : 0 ≤ start ∧ start < memory.size
      · obtain ⟨done, written, -⟩ := memory.write_of_inside start byte inside.1 inside.2
        rw [Action.refusal_of_ok written] at refused
        cases refused
      · rw [Action.refusal_of_error (memory.write_of_outside start byte inside)] at refused
        cases refused
        exact bounds

theorem Registers.fill_kinds (bounds : some .memoryBounds ∈ kinds) (memory : Memory)
    (address : Int) (indices : List (Fin 16)) :
    (fill memory address indices).RefusesOnly (Fault.In kinds) := by
  induction indices generalizing address with
  | nil => exact Action.refusesOnly_of_ok fun _ => rfl
  | cons index rest ih =>
      exact (memory.read_kinds bounds address).bind fun byte =>
        (Action.refusesOnly_of_ok fun _ => rfl).bind fun _ => ih (address + 1)

theorem Display.set_kinds (x y value : Int) :
    (set x y value).RefusesOnly (Fault.In drawingKinds) := by
  intro display fault refused
  have offScreen {cause : Fault} (located : display.locate x y = .error cause) :
      cause.kind? = none := by
    rw [locate] at located
    split at located
    · cases located
      rfl
    · split at located
      · cases located
        rfl
      · cases located
  cases located : display.locate x y with
  | error cause =>
      simp only [Action.refusal?, set, located] at refused
      cases refused
      rw [Fault.In, offScreen located]
      decide
  | ok place =>
      simp only [Action.refusal?, set, located] at refused
      cases refused

namespace Drawing

theorem wrap_kinds {σ : Type} (position extent : Int) :
    (Action.attempt (wrap position extent) : Action Fault σ Int).RefusesOnly
      (Fault.In drawingKinds) := by
  refine Action.refusesOnly_attempt fun fault refused => ?_
  rw [wrap] at refused
  split at refused
  · cases refused
    exact List.mem_cons_of_mem _ List.mem_cons_self
  · cases refused

theorem row_kinds (x y : Int) (lights : List Bool) :
    (row x y lights).RefusesOnly (Fault.In drawingKinds) := by
  induction lights generalizing x with
  | nil => exact Action.refusesOnly_of_ok fun _ => rfl
  | cons lit rest ih =>
      have pixels : (pixel x y lit).RefusesOnly (Fault.In drawingKinds) :=
        Action.refusesOnly_get_bind fun _ => (wrap_kinds _ _).bind fun column =>
          (wrap_kinds _ _).bind fun line => Display.set_kinds column line _
      exact pixels.bind fun _ => (ih (x + 1)).bind fun _ => Action.refusesOnly_of_ok fun _ => rfl

theorem sprite_kinds (memory : Memory) (x : Int) (height : Nat) (address y : Int) :
    (sprite memory x height address y).RefusesOnly (Fault.In drawingKinds) := by
  induction height generalizing address y with
  | zero => exact Action.refusesOnly_of_ok fun _ => rfl
  | succ height ih =>
      exact (memory.read_kinds List.mem_cons_self address).bind fun byte =>
        (row_kinds x y (bits byte)).bind fun _ =>
          (ih (address + 1) ((y + 1) % 256)).bind fun _ => Action.refusesOnly_of_ok fun _ => rfl

end Drawing

namespace Effect

open Machine

theorem ret_kinds (address : Option Int) :
    (ret address).RefusesOnly (Fault.In [some .stackUnderflow]) := by
  refine Action.refusesOnly_get_bind fun machine => ?_
  cases machine.state.stack.getLast? with
  | none =>
      intro _ fault refused
      cases refused
      exact List.mem_cons_self
  | some target => exact Action.refusesOnly_of_ok fun _ => rfl

theorem skipIfKey_kinds (x : Fin 16) (down : Bool) :
    (skipIfKey x down).RefusesOnly (Fault.In askingKinds) := by
  refine Action.refusesOnly_get_bind fun machine => ?_
  refine Action.RefusesOnly.bind ?_ fun _ => Action.refusesOnly_of_ok fun _ => rfl
  refine Action.refusesOnly_attempt fun fault refused => ?_
  by_cases known : 0 ≤ machine.state.get x ∧ machine.state.get x < 16
  · obtain ⟨_, -, found⟩ := Keyboard.isPressed_of_known known machine.bus.keyboard
    cases found.symm.trans refused
  · cases (Keyboard.isPressed_of_unknown known _).symm.trans refused
    rw [Fault.In, Fault.kind?]
    split <;> decide

theorem draw_kinds (x y : Fin 16) (height : Nat) :
    (draw x y height).RefusesOnly (Fault.In drawingKinds) :=
  Action.refusesOnly_get_bind fun _ =>
    (Drawing.sprite_kinds _ _ _ _ _).within.bind fun _ => Action.refusesOnly_of_ok fun _ => rfl

theorem store_kinds (bytes : Registers → List Int) :
    (store bytes).RefusesOnly (Fault.In [some .memoryBounds]) :=
  Action.refusesOnly_get_bind fun _ => (Memory.load_kinds List.mem_cons_self _ _).within

theorem save_kinds (x : Fin 16) : (save x).RefusesOnly (Fault.In [some .memoryBounds]) :=
  (store_kinds _).bind fun _ => Action.refusesOnly_of_ok fun _ => rfl

theorem restore_kinds (x : Fin 16) : (restore x).RefusesOnly (Fault.In [some .memoryBounds]) :=
  Action.refusesOnly_get_bind fun _ =>
    (Registers.fill_kinds List.mem_cons_self _ _ _).within.bind fun _ =>
      Action.refusesOnly_of_ok fun _ => rfl

end Effect

theorem Pattern.effect_kinds (pattern : Pattern) (word : Opcode) (address : Option Int) :
    (pattern.effect word address).RefusesOnly (Fault.In pattern.kinds) := by
  cases pattern with
  | ret => exact Effect.ret_kinds address
  | skipPressed => exact Effect.skipIfKey_kinds word.x true
  | skipReleased => exact Effect.skipIfKey_kinds word.x false
  | draw => exact Effect.draw_kinds word.x word.y word.n
  | storeDecimal => exact Effect.store_kinds (storeDecimal.stored word)
  | save => exact Effect.save_kinds word.x
  | restore => exact Effect.restore_kinds word.x
  | waitKey => exact Action.refusesOnly_of_ok fun _ => Effect.refusal_waitKey word.x
  | _ => exact Action.refusesOnly_of_ok fun _ => rfl

theorem Pattern.underflow_mem_kinds {pattern : Pattern} :
    some .stackUnderflow ∈ pattern.kinds ↔ pattern = .ret := by
  cases pattern <;> decide

end Chip8
