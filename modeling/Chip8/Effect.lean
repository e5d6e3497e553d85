import Chip8.Arithmetic
import Chip8.Drawing
import Chip8.Machine
/-!
What each instruction does. An instruction that is refused half way keeps the pixels, bytes or
registers it had already done, and leaves the index and flag registers as they were.
-/

namespace Chip8

open Machine

namespace Registers

def fill (memory : Memory) : Int → List (Fin 16) → Action Fault Registers Unit
  | _, [] => pure ()
  | address, index :: rest => do
    let byte ← Action.attempt (memory.read address)
    modify fun registers => registers.set index byte.toNat
    fill memory (address + 1) rest

def decimalDigits (value : Int) : List Int := [value / 100, value / 10 % 10, value % 10]

end Registers

namespace Effect

def ret (address : Option Int) : Effect := do
  let machine ← get
  match machine.state.stack.getLast? with
  | none => throw (.emptyStack address)
  | some target =>
    mapRegisters fun registers =>
      { registers with pc := target, stack := registers.stack.dropLast }

def jump (target : Int) : Effect := mapRegisters fun registers => { registers with pc := target }

def call (target : Int) : Effect :=
  mapRegisters fun registers =>
    { registers with stack := registers.stack ++ [registers.pc], pc := target }

def skipIf (condition : Registers → Bool) : Effect :=
  mapRegisters fun registers => registers.skipIf (condition registers)

def skipIfKey (x : Fin 16) (down : Bool) : Effect := do
  let machine ← get
  let pressed ← Action.attempt (machine.bus.keyboard.isPressed (machine.state.get x))
  mapRegisters (Registers.skipIf (pressed == down))

def setIndex (value : Registers → Int) : Effect :=
  mapRegisters fun registers => { registers with i := value registers }

def set (x : Fin 16) (value : Registers → Int) : Effect :=
  mapRegisters fun registers => registers.set x (value registers)

def random (x : Fin 16) (mask : Nat) : Effect := do
  let byte ← randomByte
  set x fun _ => (byte.toNat &&& mask : Nat)

def draw (x y : Fin 16) (height : Nat) : Effect := do
  let machine ← get
  let registers := machine.state
  let erased ←
    onDisplay (Drawing.sprite machine.bus.memory (registers.get x) height registers.i
      (registers.get y))
  mapRegisters fun registers => registers.setFlag (if erased then 1 else 0)

/-- Halts until a key is down. The lowest key down is then released and stored. -/
def waitKey (x : Fin 16) : Effect := do
  mapRegisters fun registers => { registers with halted := true }
  let machine ← get
  match machine.bus.keyboard.take with
  | (none, _) => pure ()
  | (some key, keyboard) =>
    mapKeyboard fun _ => keyboard
    mapRegisters fun registers => { registers.set x key.val with halted := false }

def store (bytes : Registers → List Int) : Effect := do
  let machine ← get
  onMemory (Memory.load machine.state.i (bytes machine.state))

def save (x : Fin 16) : Effect := do
  store fun registers => registers.v.toList.take (x.val + 1)
  mapRegisters (Registers.addIndex · (x.val + 1))

def restore (x : Fin 16) : Effect := do
  let machine ← get
  onRegisters
    (Registers.fill machine.bus.memory machine.state.i ((List.finRange 16).take (x.val + 1)))
  mapRegisters (Registers.addIndex · (x.val + 1))

end Effect

namespace Pattern

open Effect

def effect (pattern : Pattern) (word : Opcode) (address : Option Int) : Effect :=
  let x := word.x
  let y := word.y
  match pattern with
  | clear => mapDisplay Display.clear
  | ret => Effect.ret address
  | jump => Effect.jump word.nnn
  | call => Effect.call word.nnn
  | skipEqByte => skipIf fun registers => registers.get x == (word.nn : Int)
  | skipNeByte => skipIf fun registers => registers.get x != (word.nn : Int)
  | skipEq => skipIf fun registers => registers.get x == registers.get y
  | skipNe => skipIf fun registers => registers.get x != registers.get y
  | loadByte => set x fun _ => word.nn
  | addByte => mapRegisters (Registers.addByte · x word.nn)
  | copy => set x fun registers => registers.get y
  | or => mapRegisters (Registers.or · x y)
  | and => mapRegisters (Registers.and · x y)
  | xor => mapRegisters (Registers.xor · x y)
  | add => mapRegisters (Registers.add · x y)
  | sub => mapRegisters (Registers.sub · x y)
  | shiftRight => mapRegisters (Registers.shiftRight · x y)
  | subFrom => mapRegisters (Registers.subFrom · x y)
  | shiftLeft => mapRegisters (Registers.shiftLeft · x y)
  | loadIndex => setIndex fun _ => word.nnn
  | jumpOffset =>
    mapRegisters fun registers => { registers with pc := word.nnn + registers.get Registers.first }
  | random => Effect.random x word.nn
  | draw => Effect.draw x y word.n
  | skipPressed => skipIfKey x true
  | skipReleased => skipIfKey x false
  | readDelay => set x Registers.delayTimer
  | waitKey => Effect.waitKey x
  | setDelay => mapRegisters fun registers => { registers with delayTimer := registers.get x }
  | setSound => mapRegisters fun registers => { registers with soundTimer := registers.get x }
  | addIndex => mapRegisters fun registers => registers.addIndex (registers.get x)
  | loadGlyph => setIndex fun registers => registers.get x * Font.glyphSize
  | storeDecimal => store fun registers => Registers.decimalDigits (registers.get x)
  | save => Effect.save x
  | restore => Effect.restore x

end Pattern

/-- Carries out an operation. One whose pattern is not of this machine is refused. -/
def Operation.execute (operation : Operation) : Effect :=
  match Pattern.ofText? operation.pattern with
  | some pattern => pattern.effect operation.opcode operation.address
  | none => throw (.undefinedOpcode operation.opcode operation.address)

end Chip8
