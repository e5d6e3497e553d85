import Chip8.Cpu
import Chip8.KeyMap
import Chip8.Log
/-!
The host loop: one timer tick and ten instructions a frame, and key events of the host turned into
those of the machine. A fatal error stops the loop, is kept and logged, and goes on to the caller.
-/

namespace Chip8

/-- `log` lists the records so far, the latest last. -/
structure FrameLoop where
  cpu : Cpu
  keyMap : KeyMap := KeyMap.default
  quitKey : Text := KeyMap.defaultQuitKey
  running : Bool := true
  frameCount : Nat := 0
  error : Option Fault := none
  log : List Log.Record := []

namespace FrameLoop

def instructionsPerFrame : Nat := 10

def report (loop : FrameLoop) (level : Log.Level) (text : Text) : FrameLoop :=
  { loop with log := loop.log ++ [⟨level, .frameLoop, text⟩] }

/-- Where the instruction that failed was fetched: two before the program counter. -/
def failureAddress (cpu : Cpu) : Int := (cpu.state.pc - Registers.instructionLength) % 0x10000

def diagnostics (cpu : Cpu) (kind : FaultKind) (fault : Fault) : List String :=
  ["Emulation stopped (" ++ kind.label ++ "): " ++ fault.message,
   "Registers: " ++ cpu.state.line,
   "Memory at " ++ Hex.address (failureAddress cpu) ++ ": " ++
     Hex.spacedBytes (cpu.bus.memory.dump (failureAddress cpu) 4)]

def stop (loop : FrameLoop) (fault : Fault) : FrameLoop :=
  match fault.kind? with
  | none => loop
  | some kind =>
    (diagnostics loop.cpu kind fault).foldl (fun loop (text : String) => loop.report .error text)
      { loop with running := false, error := some fault }

def runFrame : Action Fault FrameLoop Bool := fun loop =>
  if loop.running then
    match (do Cpu.tick; Action.times Cpu.step instructionsPerFrame) loop.cpu with
    | .ok _ cpu => .ok true { loop with cpu := cpu, frameCount := loop.frameCount + 1 }
    | .error fault cpu => .error fault (stop { loop with cpu := cpu } fault)
  else .ok false loop

def quit (loop : FrameLoop) : FrameLoop :=
  if loop.running then
    { loop.report .info ("Emulation stopped after " ++ toString loop.frameCount ++ " frames") with
      running := false }
  else loop

def onCpu {α : Type} (action : Action Fault Cpu α) : Action Fault FrameLoop α :=
  Action.within FrameLoop.cpu (fun loop cpu => { loop with cpu := cpu }) action

/-- The quit key stops the loop, even if it is mapped. -/
def keyDown (name : Text) : Action Fault FrameLoop Unit := do
  let loop ← get
  if name = loop.quitKey then set loop.quit
  else
    match loop.keyMap.get? name with
    | none => pure ()
    | some key => onCpu (Cpu.pressKey key)

def keyUp (name : Text) : Action Fault FrameLoop Unit := do
  let loop ← get
  match loop.keyMap.get? name with
  | none => pure ()
  | some key => onCpu (Cpu.releaseKey key)

def pixels (loop : FrameLoop) : List (List Bool) := loop.cpu.bus.display.rows

end FrameLoop

end Chip8
