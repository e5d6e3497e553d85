import Chip8.Cpu
import Chip8.Proofs.Action

namespace Chip8.Cpu

/-- The registers as the next fetch finds them: set back while a key is awaited. -/
def fetching (cpu : Cpu) : Registers :=
  if cpu.state.halted then cpu.state.rewind else cpu.state

/-- The machine as the instruction finds it: the program counter is behind the instruction. -/
def fetched (cpu : Cpu) : Machine := ⟨cpu.fetching.advance, cpu.bus⟩

theorem fetching_eq (cpu : Cpu) : cpu.fetching = { cpu.state with pc := cpu.fetching.pc } := by
  rw [fetching]
  split <;> rfl

/-- The fetch only moves the program counter. -/
theorem fetched_eq (cpu : Cpu) :
    cpu.fetched = ⟨{ cpu.state with pc := cpu.fetching.advance.pc }, cpu.bus⟩ := by
  rw [fetched, Registers.advance, fetching_eq]

theorem fetched_numbered (cpu : Cpu) : cpu.fetched.state.v = cpu.state.v := by
  rw [fetched_eq]

theorem fetched_index (cpu : Cpu) : cpu.fetched.state.i = cpu.state.i := by
  rw [fetched_eq]

theorem fetched_stack (cpu : Cpu) : cpu.fetched.state.stack = cpu.state.stack := by
  rw [fetched_eq]

theorem fetched_counter (cpu : Cpu) :
    cpu.fetched.state.pc = (cpu.fetching.pc + 2) % 0x10000 := rfl

structure Fetches (cpu : Cpu) (word : Opcode) (pattern : Pattern) : Prop where
  present : cpu.bus.memory.readWord cpu.fetching.pc = .ok word
  decoded : Pattern.ofOpcode? word = some pattern

theorem Fetches.unique {cpu : Cpu} {word other : Opcode} {pattern another : Pattern}
    (first : cpu.Fetches word pattern) (second : cpu.Fetches other another) :
    word = other ∧ pattern = another := by
  have same := Except.ok.inj (first.present.symm.trans second.present)
  subst same
  exact ⟨rfl, Option.some.inj (first.decoded.symm.trans second.decoded)⟩

def executing (cpu : Cpu) (word : Opcode) (pattern : Pattern) :
    EStateM.Result Fault Machine Unit :=
  pattern.effect word (some cpu.fetching.pc) cpu.fetched

theorem execute_of_text {operation : Operation} (pattern : Pattern)
    (matched : operation.pattern = pattern.text) :
    operation.execute = pattern.effect operation.opcode operation.address := by
  rw [Operation.execute, matched, Pattern.ofText?_text]

theorem execute_ofPattern (pattern : Pattern) (word : Opcode) (address : Option Int) :
    (Operation.ofPattern pattern word address).execute = pattern.effect word address :=
  execute_of_text pattern rfl

theorem halt_apply (cpu : Cpu) : hooks.halt cpu.toCore = .ok () ⟨cpu.fetching, cpu.bus⟩ := rfl

theorem cycle_of_missing {cpu : Cpu} {fault : Fault}
    (missing : cpu.bus.memory.readWord cpu.fetching.pc = .error fault) :
    hooks.cycle cpu.toCore = .error fault ⟨cpu.fetching, cpu.bus⟩ := by
  have fetch : hooks.fetch ⟨cpu.fetching, cpu.bus⟩ = .error fault ⟨cpu.fetching, cpu.bus⟩ := by
    change Action.attempt (cpu.bus.memory.readWord cpu.fetching.pc) _ = _
    rw [missing, Action.attempt_error]
  rw [Hooks.cycle, Action.bind_of_ok (halt_apply cpu), Action.bind_of_ok (Action.get_apply _),
    Action.bind_of_error fetch]

theorem cycle_of_present {cpu : Cpu} {word : Opcode}
    (present : cpu.bus.memory.readWord cpu.fetching.pc = .ok word) :
    hooks.cycle cpu.toCore =
      (do
        let operation ← Action.attempt (Operation.decode word (some cpu.fetching.pc))
        operation.execute
        return operation : Action Fault Machine Operation) cpu.fetched := by
  have fetch : hooks.fetch ⟨cpu.fetching, cpu.bus⟩ = .ok word ⟨cpu.fetching, cpu.bus⟩ := by
    change Action.attempt (cpu.bus.memory.readWord cpu.fetching.pc) _ = _
    rw [present, Action.attempt_ok]
  rw [Hooks.cycle, Action.bind_of_ok (halt_apply cpu), Action.bind_of_ok (Action.get_apply _),
    Action.bind_of_ok fetch]
  rfl

theorem step_of_missing {cpu : Cpu} {fault : Fault}
    (missing : cpu.bus.memory.readWord cpu.fetching.pc = .error fault) :
    step cpu = .error fault ⟨⟨cpu.fetching, cpu.bus⟩, cpu.instructionCount⟩ := by
  rw [step, Hooks.step, cycle_of_missing missing]

theorem step_of_undefined {cpu : Cpu} {word : Opcode}
    (present : cpu.bus.memory.readWord cpu.fetching.pc = .ok word)
    (undefined : Pattern.ofOpcode? word = none) :
    step cpu = .error (.undefinedOpcode word (some cpu.fetching.pc))
      ⟨cpu.fetched, cpu.instructionCount⟩ := by
  have refused : Operation.decode word (some cpu.fetching.pc) =
      .error (.undefinedOpcode word (some cpu.fetching.pc)) := by
    rw [Operation.decode, undefined]
  rw [step, Hooks.step, cycle_of_present present, refused,
    Action.bind_of_error (Action.attempt_error _ _)]

theorem cycle_of_fetches {cpu : Cpu} {word : Opcode} {pattern : Pattern}
    (fetches : cpu.Fetches word pattern) :
    hooks.cycle cpu.toCore =
      match cpu.executing word pattern with
      | .ok _ machine => .ok (Operation.ofPattern pattern word (some cpu.fetching.pc)) machine
      | .error fault machine => .error fault machine := by
  have decoded : Operation.decode word (some cpu.fetching.pc) =
      .ok (Operation.ofPattern pattern word (some cpu.fetching.pc)) := by
    rw [Operation.decode, fetches.decoded]
  rw [cycle_of_present fetches.present, decoded, Action.bind_of_ok (Action.attempt_ok _ _),
    Action.bind_apply, execute_ofPattern, executing]
  cases pattern.effect word (some cpu.fetching.pc) cpu.fetched <;> rfl

theorem step_of_executed {cpu : Cpu} {word : Opcode} {pattern : Pattern} {machine : Machine}
    (fetches : cpu.Fetches word pattern) (went : cpu.executing word pattern = .ok () machine) :
    step cpu =
      .ok (Operation.ofPattern pattern word (some cpu.fetching.pc))
        ⟨machine, cpu.instructionCount + 1⟩ := by
  rw [step, Hooks.step, cycle_of_fetches fetches, went]

theorem step_of_refused {cpu : Cpu} {word : Opcode} {pattern : Pattern} {fault : Fault}
    {machine : Machine} (fetches : cpu.Fetches word pattern)
    (refused : cpu.executing word pattern = .error fault machine) :
    step cpu = .error fault ⟨machine, cpu.instructionCount⟩ := by
  rw [step, Hooks.step, cycle_of_fetches fetches, refused]

/-- Every step fetches an instruction, or is refused by the fetch or by the decoder. -/
theorem step_cases (cpu : Cpu) :
    (∃ fault, cpu.bus.memory.readWord cpu.fetching.pc = .error fault) ∨
    (∃ word, cpu.bus.memory.readWord cpu.fetching.pc = .ok word ∧
      Pattern.ofOpcode? word = none) ∨
    ∃ word pattern, cpu.Fetches word pattern := by
  cases present : cpu.bus.memory.readWord cpu.fetching.pc with
  | error fault => exact .inl ⟨fault, rfl⟩
  | ok word =>
      cases decoded : Pattern.ofOpcode? word with
      | none => exact .inr (.inl ⟨word, rfl, decoded⟩)
      | some pattern => exact .inr (.inr ⟨word, pattern, present, decoded⟩)

theorem step_eq_ok {cpu next : Cpu} {operation : Operation}
    (went : step cpu = .ok operation next) :
    ∃ word pattern, cpu.Fetches word pattern ∧
      cpu.executing word pattern = .ok () next.toCore ∧
      operation = Operation.ofPattern pattern word (some cpu.fetching.pc) ∧
      next.instructionCount = cpu.instructionCount + 1 := by
  rcases cpu.step_cases with ⟨fault, missing⟩ | ⟨word, present, undefined⟩ |
    ⟨word, pattern, fetches⟩
  · rw [step_of_missing missing] at went
    cases went
  · rw [step_of_undefined present undefined] at went
    cases went
  · refine ⟨word, pattern, fetches, ?_⟩
    cases result : cpu.executing word pattern with
    | ok value machine =>
        rw [step_of_executed fetches result] at went
        cases went
        exact ⟨rfl, rfl, rfl⟩
    | error fault machine =>
        rw [step_of_refused fetches result] at went
        cases went

theorem step_eq_error {cpu left : Cpu} {fault : Fault} (refused : step cpu = .error fault left) :
    left.instructionCount = cpu.instructionCount ∧
    ((cpu.bus.memory.readWord cpu.fetching.pc = .error fault ∧
        left.toCore = ⟨cpu.fetching, cpu.bus⟩) ∨
      (∃ word, cpu.bus.memory.readWord cpu.fetching.pc = .ok word ∧
        Pattern.ofOpcode? word = none ∧
        fault = .undefinedOpcode word (some cpu.fetching.pc) ∧ left.toCore = cpu.fetched) ∨
      ∃ word pattern, cpu.Fetches word pattern ∧
        cpu.executing word pattern = .error fault left.toCore) := by
  rcases cpu.step_cases with ⟨cause, missing⟩ | ⟨word, present, undefined⟩ |
    ⟨word, pattern, fetches⟩
  · rw [step_of_missing missing] at refused
    cases refused
    exact ⟨rfl, .inl ⟨missing, rfl⟩⟩
  · rw [step_of_undefined present undefined] at refused
    cases refused
    exact ⟨rfl, .inr (.inl ⟨word, present, undefined, rfl, rfl⟩)⟩
  · cases result : cpu.executing word pattern with
    | ok value machine =>
        rw [step_of_executed fetches result] at refused
        cases refused
    | error cause machine =>
        rw [step_of_refused fetches result] at refused
        cases refused
        exact ⟨rfl, .inr (.inr ⟨word, pattern, fetches, result⟩)⟩

end Chip8.Cpu
