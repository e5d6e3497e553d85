import Chip8.Proofs.Aftermath

namespace Chip8

open Machine

variable {word : Opcode} {pattern : Pattern} {address : Option Int} {machine done : Machine}

namespace Effect

theorem memory_after_save (x : Fin 16) :
    ((save x).after machine).bus.memory =
      (Memory.load machine.state.i (machine.state.firstValues x)).after machine.bus.memory := by
  have stored := congrArg (fun done => done.bus.memory)
    (after_store (fun registers => registers.firstValues x) machine)
  have moves : ∀ value : Unit, Action.Preserves (fun machine : Machine => machine.bus.memory)
      (mapRegisters (Registers.addIndex · (x.val + 1))) := fun _ _ => rfl
  exact (Action.view_after_bind _ moves machine).trans stored

section Numbered

variable {x index : Fin 16}

theorem draw_preserves_get (x y : Fin 16) (height : Nat) (apart : index ≠ Registers.flag) :
    (draw x y height).Preserves fun machine => machine.state.get index := by
  apply Action.preserves_get_bind
  intro machine
  have draws : (onDisplay (Drawing.sprite machine.bus.memory (machine.state.get x) height
      machine.state.i (machine.state.get y))).Preserves fun machine => machine.state.get index :=
    Action.preserves_within fun _ => rfl
  apply draws.bind
  intro erased later
  exact Registers.get_set_other _ _ apart.symm

theorem restore_preserves_get (apart : index ∉ Registers.upTo x) :
    (restore x).Preserves fun machine => machine.state.get index := by
  apply Action.preserves_get_bind
  intro machine
  have loads : (onRegisters (Registers.fill machine.bus.memory machine.state.i
      (Registers.upTo x))).Preserves fun machine => machine.state.get index :=
    Action.preserves_within fun later => Registers.get_after_fill_of_notMem _ _ _ apart later.state
  apply loads.bind
  intro value later
  rfl

theorem waitKey_preserves_get (apart : index ≠ x) :
    (waitKey x).Preserves fun machine => machine.state.get index := by
  intro machine
  cases lowest : machine.bus.keyboard.pressed.head? with
  | none =>
      rw [Action.after_of_ok (waitKey_of_released x lowest)]
      rfl
  | some key =>
      rw [Action.after_of_ok (waitKey_of_pressed x lowest)]
      exact Registers.get_set_other machine.state _ apart.symm

end Numbered

theorem keyboard_after_waitKey (x : Fin 16) (machine : Machine) :
    ((waitKey x).after machine).bus.keyboard = machine.bus.keyboard ∨
      ∃ key ∈ machine.bus.keyboard.pressed, ((waitKey x).after machine).bus.keyboard =
        ⟨Index.update machine.bus.keyboard.held key false⟩ := by
  cases lowest : machine.bus.keyboard.pressed.head? with
  | none =>
      rw [Action.after_of_ok (waitKey_of_released x lowest)]
      exact .inl rfl
  | some key =>
      rw [Action.after_of_ok (waitKey_of_pressed x lowest)]
      exact .inr ⟨key, List.mem_of_head? lowest, rfl⟩

theorem skipIf_cases {condition : Registers → Bool}
    (went : skipIf condition machine = .ok () done) :
    done.state.pc = machine.state.pc ∨
      condition machine.state = true ∧ done.state.pc = machine.state.advance.pc := by
  have same : done.state = Registers.skipIf (condition machine.state) machine.state := by
    cases went
    rfl
  rw [same, Registers.skipIf]
  split
  next holds => exact .inr ⟨holds, rfl⟩
  next => exact .inl rfl

theorem skipIfKey_cases {x : Fin 16} {down : Bool}
    (went : skipIfKey x down machine = .ok () done) :
    done.state.pc = machine.state.pc ∨
      machine.bus.keyboard.isPressed (machine.state.get x) = .ok down ∧
        done.state.pc = machine.state.advance.pc := by
  by_cases known : 0 ≤ machine.state.get x ∧ machine.state.get x < 16
  · obtain ⟨pressed, found, skipped⟩ := skipIfKey_of_key x down known.1 known.2
    cases went.symm.trans skipped
    by_cases same : pressed = down
    · subst same
      simp [Registers.skipIf, withState, found]
    · simp [Registers.skipIf, withState, same]
  · cases went.symm.trans (skipIfKey_of_unknown x down known)

end Effect

namespace Pattern

def targets (pattern : Pattern) (word : Opcode) : List (Fin 16) :=
  match pattern with
  | loadByte | addByte | copy | or | and | xor | random | readDelay | waitKey => [word.x]
  | add | sub | shiftRight | subFrom | shiftLeft => [word.x, Registers.flag]
  | draw => [Registers.flag]
  | restore => Registers.upTo word.x
  | _ => []

def jumps : List Pattern := [.ret, .jump, .call, .jumpOffset]

def Skips (pattern : Pattern) (word : Opcode) (machine : Machine) : Prop :=
  match pattern with
  | skipEqByte => machine.state.get word.x = word.nn
  | skipNeByte => machine.state.get word.x ≠ word.nn
  | skipEq => machine.state.get word.x = machine.state.get word.y
  | skipNe => machine.state.get word.x ≠ machine.state.get word.y
  | skipPressed => machine.bus.keyboard.isPressed (machine.state.get word.x) = .ok true
  | skipReleased => machine.bus.keyboard.isPressed (machine.state.get word.x) = .ok false
  | _ => False

/-- Whatever an instruction does to memory is a load of its bytes, which may be none. -/
theorem memory_after_effect (pattern : Pattern) (word : Opcode) (address : Option Int)
    (machine : Machine) :
    ((pattern.effect word address).after machine).bus.memory =
      (Memory.load machine.state.i (pattern.stored word machine.state)).after
        machine.bus.memory := by
  by_cases writes : pattern ∈ Part.memory.writers
  · simp only [Part.writers, List.mem_cons, List.not_mem_nil, or_false] at writes
    cases writes with
    | inl decimal =>
        subst decimal
        exact congrArg (fun done => done.bus.memory)
          (Effect.after_store (storeDecimal.stored word) machine)
    | inr saves =>
        subst saves
        exact Effect.memory_after_save word.x
  · have kept := effect_keeps_of_other writes word address machine
    have none : pattern.stored word machine.state = [] := by
      cases pattern <;> first
      | rfl
      | exact absurd (by decide) writes
    rw [none]
    exact kept

theorem get_after_effect (address : Option Int) (machine : Machine) {index : Fin 16}
    (apart : index ∉ pattern.targets word) :
    ((pattern.effect word address).after machine).state.get index = machine.state.get index := by
  cases pattern with
  | loadByte | addByte | copy | or | and | xor | readDelay | random =>
      have differs : word.x ≠ index := Ne.symm (mt List.mem_singleton.mpr apart)
      exact Registers.get_set_other machine.state _ differs
  | add | sub | shiftRight | subFrom | shiftLeft =>
      simp only [targets, List.mem_cons, List.not_mem_nil, or_false, not_or] at apart
      have result (value : Int) :=
        Registers.get_set_other machine.state value (Ne.symm apart.1)
      exact (Registers.get_set_other _ _ (Ne.symm apart.2)).trans (result _)
  | draw => exact Effect.draw_preserves_get _ _ _ (mt List.mem_singleton.mpr apart) machine
  | waitKey => exact Effect.waitKey_preserves_get (mt List.mem_singleton.mpr apart) machine
  | restore => exact Effect.restore_preserves_get apart machine
  | _ => exact Registers.get_congr (effect_keeps .numbered (by decide) _ _ machine) index

/-- An instruction that goes through leaves the program counter behind it, jumps, or skips. -/
theorem counter_cases (went : pattern.effect word address machine = .ok () done) :
    done.state.pc = machine.state.pc ∨ pattern ∈ jumps ∨
      pattern.Skips word machine ∧ done.state.pc = machine.state.advance.pc := by
  cases pattern with
  | ret | jump | call | jumpOffset => exact .inr (.inl (by decide))
  | skipEqByte | skipNeByte | skipEq | skipNe =>
      have skips := Effect.skipIf_cases went
      simp only [beq_iff_eq, bne_iff_ne] at skips
      exact skips.imp_right .inr
  | skipPressed =>
      have skips : Effect.skipIfKey word.x true machine = .ok () done := went
      exact (Effect.skipIfKey_cases skips).imp_right .inr
  | skipReleased =>
      have skips : Effect.skipIfKey word.x false machine = .ok () done := went
      exact (Effect.skipIfKey_cases skips).imp_right .inr
  | _ =>
      rw [← Action.after_of_ok went]
      exact .inl (effect_keeps .counter (by decide) _ _ machine)

end Pattern

namespace Cpu

variable {cpu next : Cpu}

theorem fetched_content {part : Part} (other : part ≠ .counter) :
    part.content cpu.fetched = part.content cpu.toCore := by
  rw [fetched_eq]
  exact ignores_content other.symm _ _ (.counter cpu.toCore _)

theorem content_of_executed {part : Part} (unwritten : pattern ∉ part.writers)
    (other : part ≠ .counter) (executed : cpu.executing word pattern = .ok () machine) :
    part.content machine = part.content cpu.toCore := by
  have kept := Pattern.effect_keeps_of_other unwritten word (some cpu.fetching.pc) cpu.fetched
  rw [Action.after_of_ok executed, fetched_content other] at kept
  exact kept

structure Footprint (cpu : Cpu) (word : Opcode) (pattern : Pattern) (next : Cpu) : Prop where
  parts : ∀ part : Part, part ≠ .counter →
    part.content next.toCore ≠ part.content cpu.toCore → pattern ∈ part.writers
  cells : ∀ place : Int, next.bus.memory.read place ≠ cpu.bus.memory.read place →
    pattern ∈ Part.memory.writers ∧
      cpu.state.i ≤ place ∧ place < cpu.state.i + pattern.reach word
  numbered : ∀ index : Fin 16,
    next.state.get index ≠ cpu.state.get index → index ∈ pattern.targets word
  keyboard : next.bus.keyboard ≠ cpu.bus.keyboard →
    ∃ key ∈ cpu.bus.keyboard.pressed,
      next.bus.keyboard = ⟨Index.update cpu.bus.keyboard.held key false⟩
  random : pattern = .random → next.bus.random = cpu.bus.random.draw.2
  counter : next.state.pc ≠ cpu.fetching.pc + 2 →
    pattern ∈ Pattern.jumps ∨
      pattern.Skips word cpu.toCore ∧ next.state.pc = cpu.fetching.pc + 4

section Footprint

variable (executed : cpu.executing word pattern = .ok () machine)

include executed

theorem read_of_executed {place : Int}
    (differs : machine.bus.memory.read place ≠ cpu.bus.memory.read place) :
    pattern ∈ Part.memory.writers ∧
      cpu.state.i ≤ place ∧ place < cpu.state.i + pattern.reach word := by
  have writes : pattern ∈ Part.memory.writers := by
    apply Decidable.byContradiction
    intro unwritten
    have kept : machine.bus.memory = cpu.bus.memory :=
      content_of_executed unwritten (by decide) executed
    exact differs (congrArg (fun memory => memory.read place) kept)
  have stores : pattern = .storeDecimal ∨ pattern = .save := by
    simpa [Part.writers] using writes
  have stored := pattern.memory_after_effect word (some cpu.fetching.pc) cpu.fetched
  rw [Action.after_of_ok executed, fetched_index] at stored
  have length := Pattern.length_stored stores word cpu.fetched.state
  refine ⟨writes, ?_⟩
  apply Decidable.byContradiction
  intro outside
  apply differs
  rw [stored, Memory.read_after_load_of_beside _ _ _ (by omega)]
  rfl

theorem get_of_executed {index : Fin 16}
    (differs : machine.state.get index ≠ cpu.state.get index) : index ∈ pattern.targets word := by
  apply Decidable.byContradiction
  intro apart
  apply differs
  have kept := Pattern.get_after_effect (some cpu.fetching.pc) cpu.fetched apart
  rw [Action.after_of_ok executed] at kept
  exact kept.trans (Registers.get_congr cpu.fetched_numbered index)

theorem keyboard_of_executed (differs : machine.bus.keyboard ≠ cpu.bus.keyboard) :
    ∃ key ∈ cpu.bus.keyboard.pressed,
      machine.bus.keyboard = ⟨Index.update cpu.bus.keyboard.held key false⟩ := by
  by_cases waits : pattern ∈ Part.keyboard.writers
  · obtain rfl := List.mem_singleton.mp waits
    have released := Effect.keyboard_after_waitKey (Opcode.x word) cpu.fetched
    have same : (Effect.waitKey (Opcode.x word)).after cpu.fetched = machine :=
      Action.after_of_ok executed
    rw [same] at released
    exact released.resolve_left differs
  · exact absurd (content_of_executed waits (by decide) executed) differs

theorem counter_of_executed (low : 0 ≤ cpu.fetching.pc) (high : cpu.fetching.pc + 4 < 0x10000)
    (differs : machine.state.pc ≠ cpu.fetching.pc + 2) :
    pattern ∈ Pattern.jumps ∨
      pattern.Skips word cpu.toCore ∧ machine.state.pc = cpu.fetching.pc + 4 := by
  have behind : cpu.fetched.state.pc = cpu.fetching.pc + 2 := by
    rw [fetched_counter]
    omega
  have condition : pattern.Skips word cpu.fetched ↔ pattern.Skips word cpu.toCore := by
    rw [fetched_eq]
    cases pattern <;> rfl
  cases Pattern.counter_cases executed with
  | inl on => exact absurd (on.trans behind) differs
  | inr elsewhere =>
      refine elsewhere.imp_right ?_
      intro ⟨skips, counter⟩
      refine ⟨condition.mp skips, counter.trans ?_⟩
      change (cpu.fetched.state.pc + 2) % 0x10000 = _
      rw [behind]
      omega

end Footprint

theorem footprint_of_executed (standard : cpu.bus.memory.size = 4096)
    (fetches : cpu.Fetches word pattern)
    (executed : cpu.executing word pattern = .ok () next.toCore) :
    Footprint cpu word pattern next where
  parts := by
    intro part other differs
    apply Decidable.byContradiction
    intro unwritten
    exact differs (content_of_executed unwritten other executed)
  cells _ := read_of_executed executed
  numbered _ := get_of_executed executed
  keyboard := keyboard_of_executed executed
  random := by
    intro draws
    subst draws
    rw [← Action.after_of_ok executed]
    rfl
  counter := by
    obtain ⟨low, high⟩ := Memory.inside_of_readWord fetches.present
    exact counter_of_executed executed low (by omega)

/-- A step on a standard machine that goes through carries out the instruction that it has fetched,
and changes no more than this instruction does. -/
theorem step_footprint (random : RandomSource) (events : List Event) {operation : Operation}
    (went : Cpu.step ((ofBus { random := random }).afterAll events) = .ok operation next) :
    ∃ word pattern,
      ((ofBus { random := random }).afterAll events).Fetches word pattern ∧
      operation = .ofPattern pattern word
        (some ((ofBus { random := random }).afterAll events).fetching.pc) ∧
      Footprint ((ofBus { random := random }).afterAll events) word pattern next := by
  have standard := congrArg Prod.fst (shape_afterAll (ofBus { random := random }) events)
  obtain ⟨word, pattern, fetches, executed, rfl, -⟩ := step_eq_ok went
  exact ⟨word, pattern, fetches, rfl, footprint_of_executed standard fetches executed⟩

theorem step_footprint_random :
    let start := (ofBus { random := .cycling [7] }).afterAll [.load [0xC1, 0x0F]]
    ∃ next, Cpu.step start = .ok (.ofPattern .random 0xC10F (some 0x200)) next ∧
      next.bus.random.position = 1 ∧
      ∀ index, next.state.get index ≠ start.state.get index → index = 1 := by
  intro start
  have fetches : start.Fetches 0xC10F .random :=
    fetches_of_loaded .default [0xC1, 0x0F] rfl (by decide) 0 (by decide) rfl rfl
  have went := step_of_executed fetches (Effect.random_apply (Opcode.x 0xC10F) 0x0F)
  refine ⟨_, went, ?_⟩
  obtain ⟨word, pattern, fetched, -, footprint⟩ :=
    step_footprint (.cycling [7]) [.load [0xC1, 0x0F]] went
  obtain ⟨rfl, rfl⟩ := fetches.unique fetched
  constructor
  · rw [footprint.random rfl]
    rfl
  · intro index differs
    exact List.mem_singleton.mp (footprint.numbered index differs)

end Cpu

end Chip8
