import Chip8.Effect

namespace Chip8

abbrev Cpu := Processor Registers Bus

namespace Cpu

open Machine

/-- While a key is awaited, the program counter goes back so that the wait is carried out again. -/
def hooks : Hooks Fault Registers Bus where
  initial := pure {}
  pc := Registers.pc
  halt := mapRegisters fun registers => if registers.halted then registers.rewind else registers
  fetch := do
    let machine ← get
    Action.attempt (machine.bus.memory.readWord machine.state.pc)
  advance := mapRegisters Registers.advance
  decode word address := Action.attempt (Operation.decode word (some address))
  execute := Operation.execute

def ofBus (bus : Bus) : Cpu := ⟨⟨{}, bus⟩, 0⟩

instance : Inhabited Cpu := ⟨ofBus {}⟩

def step : Action Fault Cpu Operation := hooks.step

variable {α : Type}

def onMachine (action : Action Fault Machine α) : Action Fault Cpu α :=
  Action.within Processor.toCore (fun cpu core => { cpu with toCore := core }) action

def onMemory (action : Action Fault Memory α) : Action Fault Cpu α :=
  onMachine (Machine.onMemory action)

def onDisplay (action : Action Fault Display α) : Action Fault Cpu α :=
  onMachine (Machine.onDisplay action)

def onKeyboard (action : Action Fault Keyboard α) : Action Fault Cpu α :=
  onMachine (Action.within (fun machine => machine.bus.keyboard)
    (fun machine keyboard => { machine with bus := { machine.bus with keyboard := keyboard } })
    action)

/-- Initial registers, a dark screen and released keys. Memory and the random source stay. -/
def reset : Action Fault Cpu Unit := do
  hooks.reset
  onMachine (mapDisplay Display.clear)
  onMachine (mapKeyboard fun _ => Keyboard.released)

def loadProgram (program : List Int) : Action Fault Cpu Unit :=
  onMemory (Memory.loadProgram program)

def pressKey (key : Int) : Action Fault Cpu Unit := onKeyboard (Keyboard.press key)

def releaseKey (key : Int) : Action Fault Cpu Unit := onKeyboard (Keyboard.release key)

def tick : Action Fault Cpu Unit := onMachine (mapRegisters Registers.tick)

def decodeAndExecute (word : Opcode) (address : Option Int) : Action Fault Cpu Operation :=
  onMachine do
    let operation ← Action.attempt (Operation.decode word address)
    operation.execute
    return operation

def runFor (cpu : Cpu) : Nat → List Operation × Option Fault × Cpu
  | 0 => ([], none, cpu)
  | count + 1 =>
    match step cpu with
    | .error fault cpu => ([], some fault, cpu)
    | .ok operation cpu =>
      let (operations, fault, cpu) := runFor cpu count
      (operation :: operations, fault, cpu)

end Cpu

end Chip8
