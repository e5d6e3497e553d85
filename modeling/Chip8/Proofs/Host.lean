import Chip8.Proofs.Cycle
import Chip8.Proofs.Effect

namespace Chip8

inductive Event where
  | load (program : List Int)
  | step
  | press (key : Int)
  | release (key : Int)
  | tick
  | reset
  deriving DecidableEq, Repr

def Event.action : Event → Action Fault Cpu Unit
  | load program => Cpu.loadProgram program
  | step => do
    let _ ← Cpu.step
    return ()
  | press key => Cpu.pressKey key
  | release key => Cpu.releaseKey key
  | tick => Cpu.tick
  | reset => Cpu.reset

namespace Cpu

def after (cpu : Cpu) (event : Event) : Cpu := event.action.after cpu

def loaded (program : List Int) : Cpu := (ofBus {}).after (.load program)

def afterAll (cpu : Cpu) (events : List Event) : Cpu := events.foldl after cpu

theorem afterAll_nil (cpu : Cpu) : cpu.afterAll [] = cpu := rfl

theorem afterAll_cons (cpu : Cpu) (event : Event) (rest : List Event) :
    cpu.afterAll (event :: rest) = (cpu.after event).afterAll rest := rfl

theorem afterAll_append (cpu : Cpu) (events later : List Event) :
    cpu.afterAll (events ++ later) = (cpu.afterAll events).afterAll later :=
  List.foldl_append

theorem afterAll_replicate_succ (cpu : Cpu) (count : Nat) (event : Event) :
    cpu.afterAll (List.replicate (count + 1) event) =
      (cpu.afterAll (List.replicate count event)).after event := by
  rw [List.replicate_succ', afterAll_append]
  rfl

theorem after_load (cpu : Cpu) (program : List Int) :
    cpu.after (.load program) = { cpu with
      toCore := Machine.withMemory cpu.toCore
        ((Memory.loadProgram program).after cpu.bus.memory) } := by
  change (onMachine (Machine.onMemory (Memory.loadProgram program))).after cpu = _
  rw [onMachine, Action.after_within, Machine.onMemory, Action.after_within]
  rfl

theorem loadProgram_of_fits (cpu : Cpu) {program : List Int}
    (fits : 0x200 + program.length ≤ cpu.bus.memory.size) :
    loadProgram program cpu = .ok () (cpu.after (.load program)) := by
  have inside : (Memory.programStart : Int) + program.length ≤ cpu.bus.memory.size := by
    rw [Memory.programStart]
    omega
  obtain ⟨memory, stored⟩ :=
    cpu.bus.memory.load_of_fits Memory.programStart (Int.natCast_nonneg _) inside
  have loaded : Machine.onMemory (Memory.loadProgram program) cpu.toCore =
      .ok () (Machine.withMemory cpu.toCore memory) := Action.within_of_ok stored
  have went : loadProgram program cpu =
      .ok () ⟨Machine.withMemory cpu.toCore memory, cpu.instructionCount⟩ := by
    rw [loadProgram, onMemory, onMachine, Action.within_of_ok loaded]
  rw [went, after, Event.action, Action.after_of_ok went]

theorem loaded_state (program : List Int) : (loaded program).state = {} := by
  rw [loaded, after_load]
  rfl

theorem after_press (cpu : Cpu) (key : Int) :
    cpu.after (.press key) =
      { cpu with
        toCore :=
          Machine.withKeyboard cpu.toCore ((Keyboard.press key).after cpu.bus.keyboard) } := by
  change (onKeyboard (Keyboard.press key)).after cpu = _
  rw [onKeyboard, onMachine, Action.after_within, Action.after_within]
  rfl

theorem after_release (cpu : Cpu) (key : Int) :
    cpu.after (.release key) =
      { cpu with
        toCore :=
          Machine.withKeyboard cpu.toCore ((Keyboard.release key).after cpu.bus.keyboard) } := by
  change (onKeyboard (Keyboard.release key)).after cpu = _
  rw [onKeyboard, onMachine, Action.after_within, Action.after_within]
  rfl

theorem state_after_press (cpu : Cpu) (key : Int) : (cpu.after (.press key)).state = cpu.state := by
  rw [after_press]
  rfl

theorem state_after_release (cpu : Cpu) (key : Int) :
    (cpu.after (.release key)).state = cpu.state := by
  rw [after_release]
  rfl

theorem after_tick (cpu : Cpu) :
    cpu.after .tick = { cpu with toCore := Machine.withState cpu.toCore cpu.state.tick } := rfl

theorem after_reset (cpu : Cpu) :
    cpu.after .reset =
      ofBus { cpu.bus with display := cpu.bus.display.clear, keyboard := Keyboard.released } := rfl

theorem after_step (cpu : Cpu) : cpu.after .step = step.after cpu := by
  rw [after, Event.action, Action.after, Action.bind_apply, Action.after]
  cases step cpu <;> rfl

def executed (cpu : Cpu) (word : Opcode) (pattern : Pattern) : Machine :=
  (pattern.effect word (some cpu.fetching.pc)).after cpu.fetched

theorem after_step_of_fetches {cpu : Cpu} {word : Opcode} {pattern : Pattern}
    (fetches : cpu.Fetches word pattern) :
    (cpu.after .step).toCore = cpu.executed word pattern := by
  rw [after_step, executed]
  cases result : cpu.executing word pattern with
  | ok value machine =>
      rw [Action.after_of_ok (step_of_executed fetches result), Action.after_of_ok result]
  | error fault machine =>
      rw [Action.after_of_error (step_of_refused fetches result), Action.after_of_error result]

theorem after_step_of_executed {cpu : Cpu} {word : Opcode} {pattern : Pattern} {machine : Machine}
    (fetches : cpu.Fetches word pattern) (went : cpu.executing word pattern = .ok () machine) :
    cpu.after .step = ⟨machine, cpu.instructionCount + 1⟩ := by
  rw [after_step, Action.after_of_ok (step_of_executed fetches went)]

theorem fetches_of_loaded {cpu : Cpu} (memory : Memory) (program : List Int)
    (stored : cpu.bus.memory = (Memory.loadProgram program).after memory)
    (fits : 0x200 + program.length ≤ memory.size) (place : Nat)
    (inside : place + 1 < program.length) (here : cpu.fetching.pc = 0x200 + place)
    {pattern : Pattern}
    (decoded : Pattern.ofOpcode?
      (program.getD place 0 % 256 * 256 + program.getD (place + 1) 0 % 256) = some pattern) :
    cpu.Fetches (program.getD place 0 % 256 * 256 + program.getD (place + 1) 0 % 256) pattern := by
  have start : (0x200 : Int) + program.length ≤ memory.size := by omega
  refine ⟨?_, decoded⟩
  rw [stored, here]
  exact memory.readWord_after_load 0x200 program (by decide) start place inside

end Cpu

end Chip8
