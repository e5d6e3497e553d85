import Chip8.Display
import Chip8.Keyboard
import Chip8.Memory
import Chip8.Processor
import Chip8.RandomSource
import Chip8.Registers

namespace Chip8

structure Bus where
  memory : Memory := Memory.default
  display : Display := Display.default
  keyboard : Keyboard := Keyboard.released
  random : RandomSource := RandomSource.cycling []

instance : Inhabited Bus := ⟨{}⟩

abbrev Machine := Core Registers Bus

abbrev Effect := Action Fault Machine Unit

namespace Machine

variable {α : Type}

def onRegisters (action : Action Fault Registers α) : Action Fault Machine α :=
  Action.within Core.state (fun machine state => { machine with state := state }) action

def onMemory (action : Action Fault Memory α) : Action Fault Machine α :=
  Action.within (fun machine => machine.bus.memory)
    (fun machine memory => { machine with bus := { machine.bus with memory := memory } }) action

def onDisplay (action : Action Fault Display α) : Action Fault Machine α :=
  Action.within (fun machine => machine.bus.display)
    (fun machine display => { machine with bus := { machine.bus with display := display } }) action

def mapRegisters (change : Registers → Registers) : Effect :=
  modify fun machine => { machine with state := change machine.state }

def mapKeyboard (change : Keyboard → Keyboard) : Effect :=
  modify fun machine =>
    { machine with bus := { machine.bus with keyboard := change machine.bus.keyboard } }

def mapDisplay (change : Display → Display) : Effect :=
  modify fun machine =>
    { machine with bus := { machine.bus with display := change machine.bus.display } }

def randomByte : Action Fault Machine UInt8 :=
  modifyGet fun machine =>
    let (byte, random) := machine.bus.random.draw
    (byte, { machine with bus := { machine.bus with random := random } })

end Machine

end Chip8
