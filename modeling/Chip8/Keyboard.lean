import Chip8.Action
import Chip8.Fault

namespace Chip8

structure Keyboard where
  held : Vector Bool 16

namespace Keyboard

def keyCount : Nat := 16

def released : Keyboard := ⟨Vector.replicate 16 false⟩

instance : Inhabited Keyboard := ⟨released⟩

def key (number : Int) : Except Fault (Fin 16) :=
  if inside : 0 ≤ number ∧ number < 16 then .ok ⟨number.toNat, by omega⟩
  else .error (.unknownKey number)

theorem key_of_known {number : Int} (known : 0 ≤ number ∧ number < 16) :
    ∃ key : Fin 16, (key.val : Int) = number ∧ Keyboard.key number = .ok key :=
  ⟨_, Int.toNat_of_nonneg known.1, dif_pos known⟩

theorem key_of_unknown {number : Int} (unknown : ¬(0 ≤ number ∧ number < 16)) :
    Keyboard.key number = .error (.unknownKey number) :=
  dif_neg unknown

def isPressed (keyboard : Keyboard) (number : Int) : Except Fault Bool :=
  match key number with
  | .error fault => .error fault
  | .ok key => .ok (keyboard.held.get key)

theorem isPressed_of_known {number : Int} (known : 0 ≤ number ∧ number < 16) (keyboard : Keyboard) :
    ∃ key : Fin 16, (key.val : Int) = number ∧
      keyboard.isPressed number = .ok (keyboard.held.get key) := by
  obtain ⟨key, named, found⟩ := key_of_known known
  exact ⟨key, named, by rw [isPressed, found]⟩

theorem isPressed_of_unknown {number : Int} (unknown : ¬(0 ≤ number ∧ number < 16))
    (keyboard : Keyboard) : keyboard.isPressed number = .error (.unknownKey number) := by
  rw [isPressed, key_of_unknown unknown]

def setHeld (down : Bool) (number : Int) : Action Fault Keyboard Unit := fun keyboard =>
  match key number with
  | .error fault => .error fault keyboard
  | .ok key => .ok () ⟨Index.update keyboard.held key down⟩

theorem setHeld_of_known (down : Bool) {number : Int} (known : 0 ≤ number ∧ number < 16)
    (keyboard : Keyboard) :
    ∃ key : Fin 16, (key.val : Int) = number ∧
      setHeld down number keyboard = .ok () ⟨Index.update keyboard.held key down⟩ := by
  obtain ⟨key, named, found⟩ := key_of_known known
  exact ⟨key, named, by rw [setHeld, found]⟩

theorem setHeld_of_unknown (down : Bool) {number : Int} (unknown : ¬(0 ≤ number ∧ number < 16))
    (keyboard : Keyboard) :
    setHeld down number keyboard = .error (.unknownKey number) keyboard := by
  rw [setHeld, key_of_unknown unknown]

def press : Int → Action Fault Keyboard Unit := setHeld true

def release : Int → Action Fault Keyboard Unit := setHeld false

def pressed (keyboard : Keyboard) : List (Fin 16) :=
  (List.finRange 16).filter keyboard.held.get

theorem mem_pressed {keyboard : Keyboard} {key : Fin 16} :
    key ∈ keyboard.pressed ↔ keyboard.held.get key = true := by
  simp [pressed, List.mem_finRange]

/-- Releases the lowest key held down and answers it. -/
def take (keyboard : Keyboard) : Option (Fin 16) × Keyboard :=
  match keyboard.pressed.head? with
  | none => (none, keyboard)
  | some key => (some key, ⟨Index.update keyboard.held key false⟩)

theorem take_of_head {keyboard : Keyboard} {key : Fin 16}
    (first : keyboard.pressed.head? = some key) :
    keyboard.take = (some key, ⟨Index.update keyboard.held key false⟩) := by
  rw [take, first]

theorem take_of_none {keyboard : Keyboard} (none : keyboard.pressed.head? = none) :
    keyboard.take = (.none, keyboard) := by
  rw [take, none]

end Keyboard

end Chip8
