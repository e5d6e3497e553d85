import Chip8.Processor
import Chip8.Proofs.Action
/-!
The instruction cycle of any machine, whatever its hooks do and whichever of them refuses. The
calls are told by hooks that note them, and the instruction count is told by the answers.
-/

namespace Chip8

namespace Hooks

inductive Stage where
  | halt
  | fetch
  | advance
  | decode
  | execute
  deriving DecidableEq, Repr

def Stage.order : List Stage := [.halt, .fetch, .advance, .decode, .execute]

inductive Call where
  | halt
  | fetch
  | advance
  | decode (word : Opcode) (address : Int)
  | execute (operation : Operation)

def Call.stage : Call → Stage
  | halt => .halt
  | fetch => .fetch
  | advance => .advance
  | decode _ _ => .decode
  | execute _ => .execute

end Hooks

open Hooks (Stage Call)

variable {ε σ β α : Type}

def Core.noted (core : Core σ β) (log : List Call) : Core σ (β × List Call) :=
  ⟨core.state, core.bus, log⟩

namespace Hooks

def notedResult (log : List Call) :
    EStateM.Result ε (Core σ β) α → EStateM.Result ε (Core σ (β × List Call)) α
  | .ok value core => .ok value (core.noted log)
  | .error refusal core => .error refusal (core.noted log)

def note (call : Call) (action : Action ε (Core σ β) α) :
    Action ε (Core σ (β × List Call)) α :=
  fun core => notedResult (core.bus.2 ++ [call]) (action ⟨core.state, core.bus.1⟩)

def noting (hooks : Hooks ε σ β) : Hooks ε σ (β × List Call) where
  initial := Action.within Prod.fst (fun bus left => (left, bus.2)) hooks.initial
  pc := hooks.pc
  halt := note .halt hooks.halt
  fetch := note .fetch hooks.fetch
  advance := note .advance hooks.advance
  decode word address := note (.decode word address) (hooks.decode word address)
  execute operation := note (.execute operation) (hooks.execute operation)

/-- The calls of one cycle and how it ends. The first hook that refuses is called last. The decoder
gets the word that has been fetched, and the program counter as the halt hook has left it. -/
inductive Cycles (hooks : Hooks ε σ β) (core : Core σ β) :
    List Call → EStateM.Result ε (Core σ β) Operation → Prop where
  | halt {refusal : ε} {left : Core σ β} (refused : hooks.halt core = .error refusal left) :
      Cycles hooks core [.halt] (.error refusal left)
  | fetch {refusal : ε} {halted left : Core σ β} (halts : hooks.halt core = .ok () halted)
      (refused : hooks.fetch halted = .error refusal left) :
      Cycles hooks core [.halt, .fetch] (.error refusal left)
  | advance {refusal : ε} {word : Opcode} {halted fetched left : Core σ β}
      (halts : hooks.halt core = .ok () halted) (fetches : hooks.fetch halted = .ok word fetched)
      (refused : hooks.advance fetched = .error refusal left) :
      Cycles hooks core [.halt, .fetch, .advance] (.error refusal left)
  | decode {refusal : ε} {word : Opcode} {halted fetched advanced left : Core σ β}
      (halts : hooks.halt core = .ok () halted) (fetches : hooks.fetch halted = .ok word fetched)
      (advances : hooks.advance fetched = .ok () advanced)
      (refused : hooks.decode word (hooks.pc halted.state) advanced = .error refusal left) :
      Cycles hooks core [.halt, .fetch, .advance, .decode word (hooks.pc halted.state)]
        (.error refusal left)
  | execute {refusal : ε} {word : Opcode} {operation : Operation}
      {halted fetched advanced decoded left : Core σ β}
      (halts : hooks.halt core = .ok () halted) (fetches : hooks.fetch halted = .ok word fetched)
      (advances : hooks.advance fetched = .ok () advanced)
      (decodes : hooks.decode word (hooks.pc halted.state) advanced = .ok operation decoded)
      (refused : hooks.execute operation decoded = .error refusal left) :
      Cycles hooks core
        [.halt, .fetch, .advance, .decode word (hooks.pc halted.state), .execute operation]
        (.error refusal left)
  | complete {word : Opcode} {operation : Operation}
      {halted fetched advanced decoded done : Core σ β}
      (halts : hooks.halt core = .ok () halted) (fetches : hooks.fetch halted = .ok word fetched)
      (advances : hooks.advance fetched = .ok () advanced)
      (decodes : hooks.decode word (hooks.pc halted.state) advanced = .ok operation decoded)
      (executes : hooks.execute operation decoded = .ok () done) :
      Cycles hooks core
        [.halt, .fetch, .advance, .decode word (hooks.pc halted.state), .execute operation]
        (.ok operation done)

variable {hooks : Hooks ε σ β} {core : Core σ β} {calls : List Call}
  {result : EStateM.Result ε (Core σ β) Operation}

theorem exists_cycles (hooks : Hooks ε σ β) (core : Core σ β) :
    ∃ calls result, hooks.Cycles core calls result := by
  -- Hook by hook: the first refusal ends the cycle.
  cases halts : hooks.halt core with
  | error refusal left => exact ⟨_, _, .halt halts⟩
  | ok _ halted =>
  cases fetches : hooks.fetch halted with
  | error refusal left => exact ⟨_, _, .fetch halts fetches⟩
  | ok word fetched =>
  cases advances : hooks.advance fetched with
  | error refusal left => exact ⟨_, _, .advance halts fetches advances⟩
  | ok _ advanced =>
  cases decodes : hooks.decode word (hooks.pc halted.state) advanced with
  | error refusal left => exact ⟨_, _, .decode halts fetches advances decodes⟩
  | ok operation decoded =>
  cases executes : hooks.execute operation decoded with
  | error refusal left => exact ⟨_, _, .execute halts fetches advances decodes executes⟩
  | ok _ done => exact ⟨_, _, .complete halts fetches advances decodes executes⟩

theorem Cycles.result_eq (cycles : hooks.Cycles core calls result) :
    hooks.cycle core = result := by
  cases cycles with
  | halt refused => simp only [cycle, Action.bind_apply, refused]
  | fetch halts refused =>
      simp only [cycle, Action.bind_apply, Action.get_apply, halts, refused]
  | advance halts fetches refused =>
      simp only [cycle, Action.bind_apply, Action.get_apply, halts, fetches, refused]
  | decode halts fetches advances refused =>
      simp only [cycle, Action.bind_apply, Action.get_apply, halts, fetches, advances, refused]
  | execute halts fetches advances decodes refused =>
      simp only [cycle, Action.bind_apply, Action.get_apply, halts, fetches, advances, decodes,
        refused]
  | complete halts fetches advances decodes executes =>
      simp only [cycle, Action.bind_apply, Action.get_apply, halts, fetches, advances, decodes,
        executes]
      rfl

/-- In the order of the cycle, and each at most once. -/
theorem Cycles.stages (cycles : hooks.Cycles core calls result) :
    calls.map Call.stage <+: Stage.order := by
  cases cycles with
  | halt => exact ⟨[.fetch, .advance, .decode, .execute], rfl⟩
  | fetch => exact ⟨[.advance, .decode, .execute], rfl⟩
  | advance => exact ⟨[.decode, .execute], rfl⟩
  | decode => exact ⟨[.execute], rfl⟩
  | execute | complete => exact ⟨[], rfl⟩

theorem note_of_ok {call : Call} {action : Action ε (Core σ β) α} {value : α} {done : Core σ β}
    (went : action core = .ok value done) (log : List Call) :
    note call action (core.noted log) = .ok value (done.noted (log ++ [call])) := by
  change notedResult _ (action core) = _
  rw [went]
  rfl

theorem note_of_error {call : Call} {action : Action ε (Core σ β) α} {refusal : ε}
    {left : Core σ β} (refused : action core = .error refusal left) (log : List Call) :
    note call action (core.noted log) = .error refusal (left.noted (log ++ [call])) := by
  change notedResult _ (action core) = _
  rw [refused]
  rfl

@[simp] theorem pc_noted (hooks : Hooks ε σ β) (core : Core σ β) (log : List Call) :
    hooks.noting.pc (core.noted log).state = hooks.pc core.state := rfl

/-- Hooks that note their calls do all else as before. -/
theorem Cycles.noting (cycles : hooks.Cycles core calls result) (log : List Call) :
    hooks.noting.Cycles (core.noted log) calls (notedResult (log ++ calls) result) := by
  -- Each hook is called with the log as the one before it has left it.
  cases cycles with
  | halt refused => exact .halt (note_of_error refused log)
  | fetch halts refused =>
      have called : hooks.noting.Cycles _ _ _ :=
        .fetch (note_of_ok halts log) (note_of_error refused _)
      simpa [notedResult] using called
  | advance halts fetches refused =>
      have called : hooks.noting.Cycles _ _ _ :=
        .advance (note_of_ok halts log) (note_of_ok fetches _) (note_of_error refused _)
      simpa [notedResult] using called
  | decode halts fetches advances refused =>
      have called : hooks.noting.Cycles _ _ _ :=
        .decode (note_of_ok halts log) (note_of_ok fetches _) (note_of_ok advances _)
          (note_of_error refused _)
      simpa [notedResult] using called
  | execute halts fetches advances decodes refused =>
      have called : hooks.noting.Cycles _ _ _ :=
        .execute (note_of_ok halts log) (note_of_ok fetches _) (note_of_ok advances _)
          (note_of_ok decodes _) (note_of_error refused _)
      simpa [notedResult] using called
  | complete halts fetches advances decodes executes =>
      have called : hooks.noting.Cycles _ _ _ :=
        .complete (note_of_ok halts log) (note_of_ok fetches _) (note_of_ok advances _)
          (note_of_ok decodes _) (note_of_ok executes _)
      simpa [notedResult] using called

theorem step_of_complete {operation : Operation} {done : Core σ β}
    (cycles : hooks.Cycles core calls (.ok operation done)) (count : Nat) :
    hooks.step ⟨core, count⟩ = .ok operation ⟨done, count + 1⟩ := by
  simp only [step, cycles.result_eq]

theorem step_of_refused {refusal : ε} {left : Core σ β}
    (cycles : hooks.Cycles core calls (.error refusal left)) (count : Nat) :
    hooks.step ⟨core, count⟩ = .error refusal ⟨left, count⟩ := by
  simp only [step, cycles.result_eq]

inductive Command where
  | step
  | reset
  deriving DecidableEq, Repr

abbrev Answer := Command × Bool

def carryOut (hooks : Hooks ε σ β) : Command → Action ε (Processor σ β) Unit
  | .step => do
    let _ ← hooks.step
    return ()
  | .reset => hooks.reset

def answer (hooks : Hooks ε σ β) (command : Command) (processor : Processor σ β) : Answer :=
  (command, ((hooks.carryOut command).refusal? processor).isNone)

def after (hooks : Hooks ε σ β) (command : Command) (processor : Processor σ β) :
    Processor σ β :=
  (hooks.carryOut command).after processor

def answers (hooks : Hooks ε σ β) : List Command → Processor σ β → List Answer
  | [], _ => []
  | command :: rest, processor =>
    hooks.answer command processor :: hooks.answers rest (hooks.after command processor)

def afterAll (hooks : Hooks ε σ β) : List Command → Processor σ β → Processor σ β
  | [], processor => processor
  | command :: rest, processor => hooks.afterAll rest (hooks.after command processor)

def stepsSinceReset (answers : List Answer) : Nat :=
  (answers.reverse.takeWhile (· ≠ (.reset, true))).count (.step, true)

theorem stepsSinceReset_concat (past : List Answer) (last : Answer) :
    stepsSinceReset (past ++ [last]) =
      if last = (.reset, true) then 0
      else if last = (.step, true) then stepsSinceReset past + 1
      else stepsSinceReset past := by
  by_cases restarted : last = (.reset, true)
  · simp [stepsSinceReset, restarted]
  · simp [stepsSinceReset, restarted, List.count_cons]
    split <;> rfl

theorem answered_of_ok {command : Command} {processor done : Processor σ β}
    (went : hooks.carryOut command processor = .ok () done) :
    hooks.answer command processor = (command, true) ∧ hooks.after command processor = done := by
  rw [answer, Action.refusal_of_ok went, after, Action.after_of_ok went]
  exact ⟨rfl, rfl⟩

theorem answered_of_error {command : Command} {processor left : Processor σ β} {refusal : ε}
    (refused : hooks.carryOut command processor = .error refusal left) :
    hooks.answer command processor = (command, false) ∧ hooks.after command processor = left := by
  rw [answer, Action.refusal_of_error refused, after, Action.after_of_error refused]
  exact ⟨rfl, rfl⟩

theorem reset_cases (hooks : Hooks ε σ β) (processor : Processor σ β) :
    (∃ state bus, hooks.initial processor.bus = .ok state bus ∧
      hooks.reset processor = .ok () ⟨⟨state, bus⟩, 0⟩) ∨
    ∃ refusal bus, hooks.initial processor.bus = .error refusal bus ∧
      hooks.reset processor =
        .error refusal ⟨⟨processor.state, bus⟩, processor.instructionCount⟩ := by
  cases begun : hooks.initial processor.bus with
  | ok state bus => exact .inl ⟨state, bus, rfl, by rw [reset, begun]⟩
  | error refusal bus => exact .inr ⟨refusal, bus, rfl, by rw [reset, begun]⟩

theorem count_after (command : Command) (processor : Processor σ β) :
    (hooks.after command processor).instructionCount =
      if hooks.answer command processor = (.reset, true) then 0
      else if hooks.answer command processor = (.step, true) then processor.instructionCount + 1
      else processor.instructionCount := by
  cases command with
  | step =>
      obtain ⟨calls, result, cycles⟩ := hooks.exists_cycles processor.toCore
      cases result with
      | ok operation done =>
          have went : hooks.carryOut .step processor = .ok () ⟨done, _⟩ :=
            Action.bind_of_ok (step_of_complete cycles processor.instructionCount)
          obtain ⟨answered, after⟩ := answered_of_ok went
          simp [answered, after]
      | error refusal left =>
          have refused : hooks.carryOut .step processor = .error refusal ⟨left, _⟩ :=
            Action.bind_of_error (step_of_refused cycles processor.instructionCount)
          obtain ⟨answered, after⟩ := answered_of_error refused
          simp [answered, after]
  | reset =>
      cases hooks.reset_cases processor with
      | inl begun =>
          obtain ⟨state, bus, -, went⟩ := begun
          have went : hooks.carryOut .reset processor = .ok () _ := went
          obtain ⟨answered, after⟩ := answered_of_ok went
          simp [answered, after]
      | inr stopped =>
          obtain ⟨refusal, bus, -, refused⟩ := stopped
          have refused : hooks.carryOut .reset processor = .error refusal _ := refused
          obtain ⟨answered, after⟩ := answered_of_error refused
          simp [answered, after]

/-- By induction on the commands: the count agrees with the answers so far. -/
theorem count_afterAll (commands : List Command) {processor : Processor σ β} {past : List Answer}
    (counted : processor.instructionCount = stepsSinceReset past) :
    (hooks.afterAll commands processor).instructionCount =
      stepsSinceReset (past ++ hooks.answers commands processor) := by
  induction commands generalizing processor past with
  | nil => rw [answers, List.append_nil]; exact counted
  | cons command rest ih =>
      have next : (hooks.after command processor).instructionCount =
          stepsSinceReset (past ++ [hooks.answer command processor]) := by
        rw [count_after, stepsSinceReset_concat, counted]
      rw [answers, List.append_cons]
      exact ih next

theorem count_of_built {bus : β} {processor : Processor σ β}
    (built : hooks.build bus = .ok processor) : processor.instructionCount = 0 := by
  rw [build] at built
  split at built
  · cases built
    rfl
  · cases built

/-- Whatever the hooks do: a step calls them in the order of the cycle until one of them refuses, a
reset that is refused changes neither state nor count, and the count is that of the steps that went
through since the machine was built or reset. -/
theorem cycle_template (hooks : Hooks ε σ β) :
    (∀ core : Core σ β, ∃ calls, calls.map Call.stage <+: Stage.order ∧
      ((∃ operation done, hooks.Cycles core calls (.ok operation done) ∧ ∀ count log,
        hooks.step ⟨core, count⟩ = .ok operation ⟨done, count + 1⟩ ∧
        hooks.noting.step ⟨core.noted log, count⟩ =
          .ok operation ⟨done.noted (log ++ calls), count + 1⟩) ∨
      ∃ refusal left, hooks.Cycles core calls (.error refusal left) ∧ ∀ count log,
        hooks.step ⟨core, count⟩ = .error refusal ⟨left, count⟩ ∧
        hooks.noting.step ⟨core.noted log, count⟩ =
          .error refusal ⟨left.noted (log ++ calls), count⟩)) ∧
    (∀ processor : Processor σ β,
      (∃ state bus, hooks.initial processor.bus = .ok state bus ∧
        hooks.reset processor = .ok () ⟨⟨state, bus⟩, 0⟩) ∨
      ∃ refusal bus, hooks.initial processor.bus = .error refusal bus ∧
        hooks.reset processor =
          .error refusal ⟨⟨processor.state, bus⟩, processor.instructionCount⟩) ∧
    ∀ (bus : β) (processor : Processor σ β) (commands : List Command),
      hooks.build bus = .ok processor →
      (hooks.afterAll commands processor).instructionCount =
        stepsSinceReset (hooks.answers commands processor) := by
  refine ⟨?_, hooks.reset_cases, ?_⟩
  · intro core
    obtain ⟨calls, result, cycles⟩ := hooks.exists_cycles core
    refine ⟨calls, cycles.stages, ?_⟩
    cases result with
    | ok operation done =>
        refine .inl ⟨operation, done, cycles, fun count log => ?_⟩
        exact ⟨step_of_complete cycles count, step_of_complete (cycles.noting log) count⟩
    | error refusal left =>
        refine .inr ⟨refusal, left, cycles, fun count log => ?_⟩
        exact ⟨step_of_refused cycles count, step_of_refused (cycles.noting log) count⟩
  · intro bus processor commands built
    have counted : processor.instructionCount = stepsSinceReset [] := count_of_built built
    exact hooks.count_afterAll commands counted

def wearing : Hooks String Int Nat where
  initial := do
    if (← get) = 0 then throw "worn out"
    modify (· - 1)
    return 0
  pc := id
  fetch := do
    if (← get).state = 4 then throw "at the end"
    return 0x00E0
  advance := modify fun core => { core with state := core.state + 2 }
  decode word address := return .ofPattern .clear word (some address)
  execute _ := pure ()

theorem cycle_template_wearing :
    ∃ processor, wearing.build 2 = .ok processor ∧
      wearing.answers [.step, .step, .step, .reset, .step, .reset, .step] processor =
        [(.step, true), (.step, true), (.step, false), (.reset, true), (.step, true),
          (.reset, false), (.step, true)] ∧
      (wearing.afterAll [.step, .step, .step, .reset, .step, .reset, .step]
        processor).instructionCount = 2 := by
  refine ⟨⟨⟨0, 1⟩, 0⟩, rfl, rfl, ?_⟩
  exact (wearing.cycle_template.2.2 2 _ _ rfl).trans (by decide)

end Hooks

end Chip8
