import Chip8.Proofs.Footprint
/-!
Starting over. A reset keeps the memory, the size of the screen and the place in the random source,
and nothing else. So a run is the same again after a reset if no instruction of it has stored bytes
or drawn a random one.
-/

namespace Chip8

theorem Display.dark_of_blank {width height : Int} {row : List Bool} {cell : Bool}
    (shown : row ∈ (blank width height).rows) (inside : cell ∈ row) : cell = false := by
  have replicated : row = List.replicate width.toNat false := by
    simp [rows, blank] at shown
    exact shown.2
  rw [replicated] at inside
  exact List.eq_of_mem_replicate inside

namespace Cpu

variable {cpu : Cpu} {word : Opcode} {pattern : Pattern}

section History

def next? (cpu : Cpu) : Option Pattern :=
  match cpu.bus.memory.readWord cpu.fetching.pc with
  | .ok word => Pattern.ofOpcode? word
  | .error _ => none

def attempt? (cpu : Cpu) : Event → Option Pattern
  | .step => cpu.next?
  | _ => none

/-- The instructions that a run carries out, refused ones included. -/
def attempted (cpu : Cpu) : List Event → List Pattern
  | [] => []
  | event :: rest => (cpu.attempt? event).toList ++ attempted (cpu.after event) rest

def answer (cpu : Cpu) : Event → Except Fault (Option Operation)
  | .step => (Cpu.step.outcome cpu).map some
  | event => (event.action.outcome cpu).map fun _ => none

def history (cpu : Cpu) : List Event → List (Except Fault (Option Operation) × Cpu)
  | [] => []
  | event :: rest => (cpu.answer event, cpu.after event) :: (cpu.after event).history rest

theorem attempted_cons (cpu : Cpu) (event : Event) (rest : List Event) :
    cpu.attempted (event :: rest) =
      (cpu.attempt? event).toList ++ (cpu.after event).attempted rest := rfl

theorem attempted_step (cpu : Cpu) (rest : List Event) :
    cpu.attempted (.step :: rest) = cpu.next?.toList ++ (cpu.after .step).attempted rest := rfl

theorem next_of_fetches (fetches : cpu.Fetches word pattern) : cpu.next? = some pattern := by
  rw [next?, fetches.present]
  exact fetches.decoded

theorem fetches_of_next (found : cpu.next? = some pattern) : ∃ word, cpu.Fetches word pattern := by
  rw [next?] at found
  split at found
  next word present => exact ⟨word, present, found⟩
  next => cases found

end History

section Kept

variable {event : Event}

theorem content_after_step (part : Part) (other : part ≠ .counter)
    (unwritten : ∀ pattern, cpu.next? = some pattern → pattern ∉ part.writers) :
    part.content (cpu.after .step).toCore = part.content cpu.toCore := by
  rw [after_step]
  rcases cpu.step_cases with ⟨fault, missing⟩ | ⟨word, present, undefined⟩ |
    ⟨word, pattern, fetches⟩
  · rw [Action.after_of_error (step_of_missing missing), fetching_eq]
    exact ignores_content other.symm _ _ (.counter cpu.toCore _)
  · rw [Action.after_of_error (step_of_undefined present undefined)]
    exact fetched_content other
  · have kept := Pattern.effect_keeps_of_other (unwritten pattern (next_of_fetches fetches)) word
      (some cpu.fetching.pc) cpu.fetched
    rw [← after_step, after_step_of_fetches fetches]
    exact kept.trans (fetched_content other)

theorem memory_after (unloaded : ∀ program, event ≠ .load program)
    (unwritten : ∀ pattern, cpu.attempt? event = some pattern → pattern ∉ Part.memory.writers) :
    (cpu.after event).bus.memory = cpu.bus.memory := by
  cases event with
  | load program => exact absurd rfl (unloaded program)
  | step => exact content_after_step .memory (by decide) unwritten
  | press key => rw [after_press]; rfl
  | release key => rw [after_release]; rfl
  | tick | reset => rfl

theorem random_after
    (unwritten : ∀ pattern, cpu.attempt? event = some pattern → pattern ∉ Part.random.writers) :
    (cpu.after event).bus.random = cpu.bus.random := by
  cases event with
  | load program => rw [after_load]; rfl
  | step => exact content_after_step .random (by decide) unwritten
  | press key => rw [after_press]; rfl
  | release key => rw [after_release]; rfl
  | tick | reset => rfl

/-- A run without loads keeps memory and random source as long as its instructions do. -/
theorem kept_afterAll {events : List Event} (unloaded : ∀ program, .load program ∉ events)
    (harmless : ∀ pattern ∈ cpu.attempted events,
      pattern ∉ Part.memory.writers ∧ pattern ∉ Part.random.writers) :
    (cpu.afterAll events).bus.memory = cpu.bus.memory ∧
      (cpu.afterAll events).bus.random = cpu.bus.random := by
  induction events generalizing cpu with
  | nil => exact ⟨rfl, rfl⟩
  | cons event rest ih =>
      have first : ∀ pattern, cpu.attempt? event = some pattern →
          pattern ∉ Part.memory.writers ∧ pattern ∉ Part.random.writers := by
        intro pattern tried
        apply harmless
        simp [attempted, tried]
      have rest : ∀ pattern ∈ (cpu.after event).attempted rest,
          pattern ∉ Part.memory.writers ∧ pattern ∉ Part.random.writers := by
        intro pattern member
        apply harmless
        exact List.mem_append_right _ member
      have memory : (cpu.after event).bus.memory = cpu.bus.memory := by
        apply memory_after
        · intro program same
          exact unloaded program (same ▸ List.mem_cons_self)
        · intro pattern tried
          exact (first pattern tried).1
      have random : (cpu.after event).bus.random = cpu.bus.random := by
        apply random_after
        intro pattern tried
        exact (first pattern tried).2
      have later := ih (fun program member => unloaded program (List.mem_cons_of_mem event member))
        rest
      exact ⟨later.1.trans memory, later.2.trans random⟩

end Kept

/-- All that a reset looks at. -/
theorem reset_congr {first second : Cpu} (memory : first.bus.memory = second.bus.memory)
    (random : first.bus.random = second.bus.random)
    (size : first.bus.display.size = second.bus.display.size) :
    first.after .reset = second.after .reset := by
  have width : first.bus.display.width = second.bus.display.width := congrArg Prod.fst size
  have height : first.bus.display.height = second.bus.display.height := congrArg Prod.snd size
  simp only [after_reset, Display.clear, memory, random, width, height]

theorem reset_of_loaded (memory : Memory) (width height : Int) (random : RandomSource)
    (program : List Int) :
    let start := (ofBus { memory, display := .blank width height, random }).after (.load program)
    start.after .reset = start := by
  intro start
  rw [after_reset]
  simp only [start, after_load]
  rfl

/-- A reset makes a new processor for the same memory, screen size and random source. A run after
the program has been loaded can therefore be had again, unless an instruction of it stored bytes or
drew a random one. -/
theorem reset_replays :
    (∀ cpu : Cpu, ∃ fresh : Cpu,
      hooks.build { cpu.bus with
        display := .blank cpu.bus.display.width cpu.bus.display.height
        keyboard := .released } = .ok fresh ∧
      Cpu.reset cpu = .ok () fresh ∧
      (fresh.bus.memory = cpu.bus.memory ∧ fresh.bus.random = cpu.bus.random) ∧
      (fresh.bus.display.size = cpu.bus.display.size ∧
        ∀ row ∈ fresh.bus.display.rows, ∀ cell ∈ row, cell = false) ∧
      fresh.bus.keyboard.pressed = [] ∧
      fresh.state = { v := .replicate 16 0, i := 0, pc := 0x200, stack := [], delayTimer := 0,
                      soundTimer := 0, halted := false } ∧
      fresh.instructionCount = 0) ∧
    ∀ (memory : Memory) (width height : Int) (random : RandomSource) (program : List Int)
      (schedule : List Event),
      let start := (ofBus { memory, display := .blank width height, random }).after (.load program)
      (∀ program, .load program ∉ schedule) →
      (∀ pattern ∈ start.attempted schedule,
        pattern ≠ .storeDecimal ∧ pattern ≠ .save ∧ pattern ≠ .random) →
      let again := (start.afterAll schedule).after .reset
      again = start ∧ again.history schedule = start.history schedule := by
  constructor
  · intro cpu
    refine ⟨cpu.after .reset, rfl, rfl, ⟨rfl, rfl⟩, ⟨rfl, ?_⟩, ?_, rfl, rfl⟩
    · intro row shown cell inside
      exact Display.dark_of_blank shown inside
    · change Keyboard.released.pressed = []
      decide
  · intro memory width height random program schedule start unloaded harmless again
    have writesNothing : ∀ pattern ∈ start.attempted schedule,
        pattern ∉ Part.memory.writers ∧ pattern ∉ Part.random.writers := by
      intro pattern tried
      obtain ⟨decimal, save, draw⟩ := harmless pattern tried
      simp [Part.writers, decimal, save, draw]
    have kept := kept_afterAll unloaded writesNothing
    have size := congrArg Prod.snd (shape_afterAll start schedule)
    have returned : again = start := by
      calc
        again = start.after .reset := reset_congr kept.1 kept.2 size
        _ = start := reset_of_loaded memory width height random program
    exact ⟨returned, congrArg (fun cpu => history cpu schedule) returned⟩

def setAndEnd : List Int := [0x60, 0x05, 0x00, 0x00]

theorem reset_replays_error :
    let start := (ofBus { display := .blank 64 32 }).after (.load setAndEnd)
    let again := (start.afterAll [.press 3, .step, .step]).after .reset
    again.history [.press 3, .step, .step] = start.history [.press 3, .step, .step] ∧
      (again.afterAll [.press 3, .step]).answer .step =
        .error (.undefinedOpcode 0x0000 (some 0x202)) := by
  intro start again
  have first : (start.after (.press 3)).Fetches 0x6005 .loadByte :=
    fetches_of_loaded .default setAndEnd rfl (by decide) 0 (by decide) rfl rfl
  let one : Cpu := ⟨(start.after (.press 3)).fetched.withState
    ((start.after (.press 3)).fetched.state.set 0 5), 1⟩
  have stepped : (start.after (.press 3)).after .step = one := after_step_of_executed first rfl
  have present : one.bus.memory.readWord one.fetching.pc = .ok 0x0000 :=
    Memory.readWord_after_load .default 0x200 setAndEnd (by decide) (by decide) 2 (by decide)
  have undefined : Pattern.ofOpcode? 0x0000 = none := rfl
  have carried : start.attempted [.press 3, .step, .step] = [.loadByte] := by
    have last : one.next? = none := by
      rw [next?, present]
      exact undefined
    rw [attempted_cons, attempted_step, attempted_step, stepped, next_of_fetches first, last]
    rfl
  have harmless : ∀ pattern ∈ start.attempted [.press 3, .step, .step],
      pattern ≠ .storeDecimal ∧ pattern ≠ .save ∧ pattern ≠ .random := by
    rw [carried]
    decide
  have replayed := reset_replays.2 .default 64 32 (.cycling []) setAndEnd
    [.press 3, .step, .step] (by simp) harmless
  have returned : again = start := replayed.1
  refine ⟨replayed.2, ?_⟩
  have arrived : again.afterAll [.press 3, .step] = one := by
    rw [returned, afterAll_cons, afterAll_cons, stepped]
    rfl
  have refused := step_of_undefined present undefined
  rw [arrived, answer, Action.outcome_of_error refused]
  rfl

end Cpu

end Chip8
