import Chip8.Effect
import Chip8.Proofs.Drawing
import Chip8.Proofs.Registers

namespace Chip8

namespace Machine

def withState (machine : Machine) (state : Registers) : Machine := { machine with state := state }

def withMemory (machine : Machine) (memory : Memory) : Machine :=
  { machine with bus := { machine.bus with memory := memory } }

def withDisplay (machine : Machine) (display : Display) : Machine :=
  { machine with bus := { machine.bus with display := display } }

def withKeyboard (machine : Machine) (keyboard : Keyboard) : Machine :=
  { machine with bus := { machine.bus with keyboard := keyboard } }

def withRandom (machine : Machine) (random : RandomSource) : Machine :=
  { machine with bus := { machine.bus with random := random } }

theorem mapRegisters_apply (change : Registers → Registers) (machine : Machine) :
    mapRegisters change machine = .ok () (machine.withState (change machine.state)) := rfl

end Machine

namespace Registers

def upTo (last : Fin 16) : List (Fin 16) := (List.finRange 16).take (last.val + 1)

theorem length_upTo (last : Fin 16) : (upTo last).length = last.val + 1 := by
  rw [upTo, List.length_take, List.length_finRange]
  omega

theorem nodup_upTo (last : Fin 16) : (upTo last).Nodup :=
  (List.nodup_finRange 16).sublist (List.take_sublist _ _)

theorem getElem_upTo (last : Fin 16) (place : Nat) (inside : place < (upTo last).length) :
    (upTo last)[place] = ⟨place, by rw [length_upTo] at inside; omega⟩ := by
  simp only [upTo, List.getElem_take, List.getElem_finRange, Fin.cast_mk]

theorem mem_upTo {last index : Fin 16} : index ∈ upTo last ↔ index ≤ last := by
  rw [upTo, List.mem_take_iff_getElem]
  simp only [List.length_finRange, List.getElem_finRange]
  constructor
  · rintro ⟨place, short, rfl⟩
    change place ≤ last.val
    omega
  · intro low
    have small : index.val ≤ last.val := low
    exact ⟨index.val, by omega, rfl⟩

theorem upTo_ne_nil (last : Fin 16) : upTo last ≠ [] := by
  intro empty
  have counted := length_upTo last
  rw [empty] at counted
  cases counted

def firstValues (registers : Registers) (last : Fin 16) : List Int :=
  registers.v.toList.take (last.val + 1)

theorem length_firstValues (registers : Registers) (last : Fin 16) :
    (registers.firstValues last).length = last.val + 1 := by
  rw [firstValues, List.length_take, Vector.length_toList]
  omega

theorem getD_firstValues (registers : Registers) {index last : Fin 16} (within : index ≤ last) :
    (registers.firstValues last).getD index.val 0 = registers.get index := by
  have inside : index.val < last.val + 1 := Nat.lt_succ_of_le within
  have counted : index.val < registers.v.toList.length := by
    rw [Vector.length_toList]
    exact index.isLt
  rw [firstValues, List.getD_eq_getElem?_getD, List.getElem?_take_of_lt inside,
    List.getElem?_eq_getElem counted]
  rfl

end Registers

namespace Effect

open Machine

variable {machine : Machine}

theorem ret_of_empty (address : Option Int) (empty : machine.state.stack = []) :
    ret address machine = .error (.emptyStack address) machine := by
  rw [ret, Action.bind_of_ok (Action.get_apply machine), empty]
  rfl

theorem ret_of_call (address : Option Int) {older : List Int} {target : Int}
    (called : machine.state.stack = older ++ [target]) :
    ret address machine =
      .ok () (machine.withState { machine.state with pc := target, stack := older }) := by
  rw [ret, Action.bind_of_ok (Action.get_apply machine), called, List.getLast?_concat]
  simp only [mapRegisters_apply, called, List.dropLast_concat]

theorem skipIfKey_of_unknown (x : Fin 16) (down : Bool)
    (unknown : ¬(0 ≤ machine.state.get x ∧ machine.state.get x < 16)) :
    skipIfKey x down machine = .error (.unknownKey (machine.state.get x)) machine := by
  rw [skipIfKey, Action.bind_of_ok (Action.get_apply machine),
    Keyboard.isPressed_of_unknown unknown]
  rfl

theorem skipIfKey_of_key (x : Fin 16) (down : Bool) (low : 0 ≤ machine.state.get x)
    (high : machine.state.get x < 16) :
    ∃ pressed, machine.bus.keyboard.isPressed (machine.state.get x) = .ok pressed ∧
      skipIfKey x down machine =
        .ok () (machine.withState (Registers.skipIf (pressed == down) machine.state)) := by
  obtain ⟨key, -, found⟩ := Keyboard.isPressed_of_known ⟨low, high⟩ machine.bus.keyboard
  refine ⟨machine.bus.keyboard.held.get key, found, ?_⟩
  rw [skipIfKey, Action.bind_of_ok (Action.get_apply machine), found]
  rfl

theorem waitKey_of_released (x : Fin 16) (released : machine.bus.keyboard.pressed.head? = none) :
    waitKey x machine = .ok () (machine.withState { machine.state with halted := true }) := by
  rw [waitKey, Action.bind_of_ok (mapRegisters_apply _ machine),
    Action.bind_of_ok (Action.get_apply _)]
  simp only [withState, Keyboard.take, released]
  rfl

theorem waitKey_of_pressed (x : Fin 16) {key : Fin 16}
    (lowest : machine.bus.keyboard.pressed.head? = some key) :
    waitKey x machine =
      .ok () ((machine.withKeyboard ⟨Index.update machine.bus.keyboard.held key false⟩).withState
        { machine.state.set x key.val with halted := false }) := by
  rw [waitKey, Action.bind_of_ok (mapRegisters_apply _ machine),
    Action.bind_of_ok (Action.get_apply _)]
  simp only [withState, Keyboard.take, lowest]
  rfl

theorem refusal_waitKey (x : Fin 16) : (waitKey x).refusal? machine = none := by
  cases lowest : machine.bus.keyboard.pressed.head? with
  | none => exact Action.refusal_of_ok (waitKey_of_released x lowest)
  | some key => exact Action.refusal_of_ok (waitKey_of_pressed x lowest)

theorem random_apply (x : Fin 16) (mask : Nat) :
    random x mask machine =
      .ok () ((machine.withRandom machine.bus.random.draw.2).withState
        (machine.state.set x (machine.bus.random.draw.1.toNat &&& mask : Nat))) := rfl

theorem draw_of_drawn (x y : Fin 16) (height : Nat) {erased : Bool} {drawn : Display}
    (went : Drawing.sprite machine.bus.memory (machine.state.get x) height machine.state.i
      (machine.state.get y) machine.bus.display = .ok erased drawn) :
    draw x y height machine =
      .ok () ((machine.withDisplay drawn).withState
        (machine.state.setFlag (if erased then 1 else 0))) := by
  have shown : onDisplay (Drawing.sprite machine.bus.memory (machine.state.get x) height
      machine.state.i (machine.state.get y)) machine = .ok erased (machine.withDisplay drawn) :=
    Action.within_of_ok went
  rw [draw, Action.bind_of_ok (Action.get_apply machine), Action.bind_of_ok shown]
  rfl

theorem draw_of_refused (x y : Fin 16) (height : Nat) {fault : Fault} {drawn : Display}
    (refused : Drawing.sprite machine.bus.memory (machine.state.get x) height machine.state.i
      (machine.state.get y) machine.bus.display = .error fault drawn) :
    draw x y height machine = .error fault (machine.withDisplay drawn) := by
  have shown : onDisplay (Drawing.sprite machine.bus.memory (machine.state.get x) height
      machine.state.i (machine.state.get y)) machine = .error fault (machine.withDisplay drawn) :=
    Action.within_of_error refused
  rw [draw, Action.bind_of_ok (Action.get_apply machine), Action.bind_of_error shown]

/-- Refused or not, a store leaves behind what the load of its bytes does. -/
theorem after_store (bytes : Registers → List Int) (machine : Machine) :
    (store bytes).after machine = machine.withMemory
      ((Memory.load machine.state.i (bytes machine.state)).after machine.bus.memory) := by
  have loads : (store bytes).after machine =
      (onMemory (Memory.load machine.state.i (bytes machine.state))).after machine := rfl
  rw [loads, onMemory, Action.after_within]
  rfl

theorem store_of_loaded (bytes : Registers → List Int) {memory : Memory}
    (went : Memory.load machine.state.i (bytes machine.state) machine.bus.memory = .ok () memory) :
    store bytes machine = .ok () (machine.withMemory memory) := by
  rw [store, Action.bind_of_ok (Action.get_apply machine)]
  exact Action.within_of_ok went

theorem store_of_refused (bytes : Registers → List Int) {fault : Fault} {memory : Memory}
    (refused : Memory.load machine.state.i (bytes machine.state) machine.bus.memory =
      .error fault memory) :
    store bytes machine = .error fault (machine.withMemory memory) := by
  rw [store, Action.bind_of_ok (Action.get_apply machine)]
  exact Action.within_of_error refused

theorem save_of_loaded (x : Fin 16) {memory : Memory}
    (went : Memory.load machine.state.i (machine.state.firstValues x) machine.bus.memory =
      .ok () memory) :
    save x machine =
      .ok () ((machine.withMemory memory).withState (machine.state.addIndex (x.val + 1))) := by
  have stored : store (fun registers => registers.v.toList.take (x.val + 1)) machine =
      .ok () (machine.withMemory memory) := store_of_loaded _ went
  rw [save, Action.bind_of_ok stored]
  rfl

theorem save_of_refused (x : Fin 16) {fault : Fault} {memory : Memory}
    (refused : Memory.load machine.state.i (machine.state.firstValues x) machine.bus.memory =
      .error fault memory) :
    save x machine = .error fault (machine.withMemory memory) := by
  have stored : store (fun registers => registers.v.toList.take (x.val + 1)) machine =
      .error fault (machine.withMemory memory) := store_of_refused _ refused
  rw [save, Action.bind_of_error stored]

theorem restore_of_filled (x : Fin 16) {filled : Registers}
    (went : Registers.fill machine.bus.memory machine.state.i (Registers.upTo x) machine.state =
      .ok () filled) :
    restore x machine = .ok () (machine.withState (filled.addIndex (x.val + 1))) := by
  have loaded : onRegisters (Registers.fill machine.bus.memory machine.state.i
      ((List.finRange 16).take (x.val + 1))) machine = .ok () (machine.withState filled) :=
    Action.within_of_ok went
  rw [restore, Action.bind_of_ok (Action.get_apply machine), Action.bind_of_ok loaded]
  rfl

theorem restore_of_refused (x : Fin 16) {fault : Fault} {filled : Registers}
    (refused : Registers.fill machine.bus.memory machine.state.i (Registers.upTo x) machine.state =
      .error fault filled) :
    restore x machine = .error fault (machine.withState filled) := by
  have loaded : onRegisters (Registers.fill machine.bus.memory machine.state.i
      ((List.finRange 16).take (x.val + 1))) machine = .error fault (machine.withState filled) :=
    Action.within_of_error refused
  rw [restore, Action.bind_of_ok (Action.get_apply machine), Action.bind_of_error loaded]

end Effect

namespace Pattern

def stored (pattern : Pattern) (word : Opcode) (registers : Registers) : List Int :=
  match pattern with
  | storeDecimal => Registers.decimalDigits (registers.get word.x)
  | save => registers.firstValues word.x
  | _ => []

end Pattern

end Chip8
