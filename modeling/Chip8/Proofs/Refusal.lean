import Chip8.Proofs.Reachable

namespace Chip8

def Machine.missing? (machine : Machine) (reach : Nat) : Option Fault :=
  if 0 < reach ∧ machine.bus.memory.size < machine.state.i + reach then
    some (.outsideMemory (max machine.state.i machine.bus.memory.size) machine.bus.memory.size)
  else none

namespace Pattern

def reach (pattern : Pattern) (word : Opcode) : Nat :=
  match pattern with
  | draw => word.n.val
  | storeDecimal => 3
  | save | restore => word.x.val + 1
  | _ => 0

def fault? (pattern : Pattern) (word : Opcode) (address : Option Int) (machine : Machine) :
    Option Fault :=
  match pattern with
  | ret => if machine.state.stack = [] then some (.emptyStack address) else none
  | skipPressed | skipReleased =>
    if 15 < machine.state.get word.x then some (.unknownKey (machine.state.get word.x)) else none
  | _ => machine.missing? (pattern.reach word)

end Pattern

namespace Effect

variable {machine : Machine}

theorem missing_of_overruns {reach : Nat} (some : 0 < reach)
    (overruns : machine.bus.memory.size < machine.state.i + reach) :
    machine.missing? reach = .some (.outsideMemory
      (max machine.state.i machine.bus.memory.size) machine.bus.memory.size) :=
  if_pos ⟨some, overruns⟩

theorem missing_of_fits {reach : Nat}
    (fits : ¬(0 < reach ∧ machine.bus.memory.size < machine.state.i + reach)) :
    machine.missing? reach = none :=
  if_neg fits

theorem refusal_ret (address : Option Int) :
    (ret address).refusal? machine =
      if machine.state.stack = [] then some (.emptyStack address) else none := by
  rcases List.eq_nil_or_concat machine.state.stack with empty | ⟨older, target, called⟩
  · rw [if_pos empty, Action.refusal_of_error (ret_of_empty address empty)]
  · rw [List.concat_eq_append] at called
    have present : machine.state.stack ≠ [] := by simp [called]
    rw [if_neg present, Action.refusal_of_ok (ret_of_call address called)]

theorem refusal_skipIfKey (range : machine.state.InRange) (x : Fin 16) (down : Bool) :
    (skipIfKey x down).refusal? machine =
      if 15 < machine.state.get x then some (.unknownKey (machine.state.get x)) else none := by
  have low := (range.bytes x).1
  by_cases unknown : 15 < machine.state.get x
  · rw [if_pos unknown, Action.refusal_of_error (skipIfKey_of_unknown x down (by omega))]
  · obtain ⟨pressed, -, went⟩ := skipIfKey_of_key x down low (by omega)
    rw [if_neg unknown, Action.refusal_of_ok went]

theorem placed_of_inRange (range : machine.state.InRange) (x y : Fin 16) :
    Drawing.Placed (machine.state.get x) (machine.state.get y) :=
  Drawing.placed_of_bytes (range.bytes x) (range.bytes y)

theorem refusal_draw (range : machine.state.InRange)
    (cells : Drawing.HasCells machine.bus.display) (x y : Fin 16) (height : Nat) :
    (draw x y height).refusal? machine = machine.missing? height := by
  have placed := placed_of_inRange range x y
  by_cases overruns : 0 < height ∧ machine.bus.memory.size < machine.state.i + height
  · have refused := Drawing.sprite_overruns machine.bus.memory height machine.state.i
      (machine.state.get y) cells placed range.index.1 overruns.1 overruns.2
    rw [missing_of_overruns overruns.1 overruns.2,
      Action.refusal_of_error (draw_of_refused x y height refused)]
  · rw [missing_of_fits overruns]
    rcases Nat.eq_zero_or_pos height with rfl | tall
    · rfl
    · obtain ⟨erased, drawn, went⟩ := Drawing.sprite_draws machine.bus.memory height
        machine.state.i (machine.state.get y) cells placed range.index.1 (by omega)
      rw [Action.refusal_of_ok (draw_of_drawn x y height went)]

theorem refusal_store (low : 0 ≤ machine.state.i) (bytes : Registers → List Int)
    (some : bytes machine.state ≠ []) :
    (store bytes).refusal? machine = machine.missing? (bytes machine.state).length := by
  have tall := List.length_pos_iff.mpr some
  by_cases overruns : machine.bus.memory.size < machine.state.i + (bytes machine.state).length
  · obtain ⟨memory, refused⟩ := machine.bus.memory.load_of_overruns _ low some overruns
    rw [missing_of_overruns tall overruns, Action.refusal_of_error (store_of_refused bytes refused)]
  · obtain ⟨memory, went⟩ := machine.bus.memory.load_of_fits _ low (Int.not_lt.mp overruns)
    rw [missing_of_fits (fun both => overruns both.2),
      Action.refusal_of_ok (store_of_loaded bytes went)]

theorem refusal_save (low : 0 ≤ machine.state.i) (x : Fin 16) :
    (save x).refusal? machine = machine.missing? (x.val + 1) := by
  have length := machine.state.length_firstValues x
  have stored := refusal_store low (fun registers => registers.firstValues x)
    (List.ne_nil_of_length_eq_add_one length)
  rw [length] at stored
  rw [← stored]
  cases result : Memory.load machine.state.i (machine.state.firstValues x) machine.bus.memory with
  | ok value memory =>
      rw [Action.refusal_of_ok (save_of_loaded x result),
        Action.refusal_of_ok (store_of_loaded _ result)]
  | error fault memory =>
      rw [Action.refusal_of_error (save_of_refused x result),
        Action.refusal_of_error (store_of_refused _ result)]

theorem refusal_restore (low : 0 ≤ machine.state.i) (x : Fin 16) :
    (restore x).refusal? machine = machine.missing? (x.val + 1) := by
  have length := Registers.length_upTo x
  by_cases overruns : machine.bus.memory.size < machine.state.i + (x.val + 1 : Nat)
  · obtain ⟨filled, refused⟩ := Registers.fill_of_overruns machine.bus.memory machine.state.i low
      (Registers.upTo_ne_nil x) (by rw [length]; exact overruns) machine.state
    rw [missing_of_overruns (Nat.succ_pos _) overruns,
      Action.refusal_of_error (restore_of_refused x refused)]
  · obtain ⟨filled, went⟩ := Registers.fill_of_fits machine.bus.memory machine.state.i low
      (by rw [length]; exact Int.not_lt.mp overruns) machine.state
    rw [missing_of_fits (fun both => overruns both.2),
      Action.refusal_of_ok (restore_of_filled x went)]

end Effect

theorem Pattern.refusal_effect (pattern : Pattern) (word : Opcode) (address : Option Int)
    {machine : Machine} (range : machine.state.InRange)
    (cells : Drawing.HasCells machine.bus.display) :
    (pattern.effect word address).refusal? machine = pattern.fault? word address machine := by
  cases pattern with
  | ret => exact Effect.refusal_ret address
  | skipPressed => exact Effect.refusal_skipIfKey range word.x true
  | skipReleased => exact Effect.refusal_skipIfKey range word.x false
  | waitKey => exact Effect.refusal_waitKey word.x
  | draw => exact Effect.refusal_draw range cells word.x word.y word.n
  | storeDecimal =>
      exact Effect.refusal_store range.index.1 (storeDecimal.stored word) (List.cons_ne_nil _ _)
  | save => exact Effect.refusal_save range.index.1 word.x
  | restore => exact Effect.refusal_restore range.index.1 word.x
  | _ => rfl

theorem Pattern.fault_of_reach {pattern : Pattern} {word : Opcode} (some : 0 < pattern.reach word)
    (address : Option Int) (machine : Machine) :
    pattern.fault? word address machine = machine.missing? (pattern.reach word) := by
  cases pattern <;> first | rfl | exact absurd some (Nat.lt_irrefl 0)

namespace Cpu

variable {cpu : Cpu}

/-- What makes the next step of a standard machine fail, with the fault that it fails with. -/
inductive Refuses (cpu : Cpu) : Fault → Prop where
  | fetch (behind : 4096 ≤ cpu.fetchAddress + 1) :
      Refuses cpu (.outsideMemory (max cpu.fetchAddress 4096) 4096)
  | data {word : Opcode} {pattern : Pattern}
      (present : cpu.bus.memory.readWord cpu.fetchAddress = .ok word)
      (decoded : Pattern.ofOpcode? word = some pattern) (some : 0 < pattern.reach word)
      (behind : 4096 < cpu.state.i + pattern.reach word) :
      Refuses cpu (.outsideMemory (max cpu.state.i 4096) 4096)
  | opcode {word : Opcode} (present : cpu.bus.memory.readWord cpu.fetchAddress = .ok word)
      (undefined : Pattern.ofOpcode? word = none) :
      Refuses cpu (.undefinedOpcode word (some cpu.fetchAddress))
  | stack {word : Opcode} (present : cpu.bus.memory.readWord cpu.fetchAddress = .ok word)
      (decoded : Pattern.ofOpcode? word = some .ret) (empty : cpu.state.stack = []) :
      Refuses cpu (.emptyStack (some cpu.fetchAddress))
  | key {word : Opcode} (present : cpu.bus.memory.readWord cpu.fetchAddress = .ok word)
      (decoded : Pattern.ofOpcode? word = some .skipPressed ∨
        Pattern.ofOpcode? word = some .skipReleased)
      (unknown : 15 < cpu.state.get word.x) :
      Refuses cpu (.unknownKey (cpu.state.get word.x))

theorem fault_fetched (pattern : Pattern) (word : Opcode) (address : Option Int) :
    pattern.fault? word address cpu.fetched = pattern.fault? word address cpu.toCore := by
  rw [fetched_eq]
  cases pattern <;> rfl

theorem Valid.hasCells (valid : Valid cpu) : Drawing.HasCells cpu.bus.display := by
  have width : cpu.bus.display.width = 64 := congrArg Prod.fst valid.display
  have height : cpu.bus.display.height = 32 := congrArg Prod.snd valid.display
  constructor
  · rw [width]
    decide
  · rw [height]
    decide

theorem Valid.executing_refusal (valid : Valid cpu) {word : Opcode} {pattern : Pattern}
    (fetches : cpu.Fetches word pattern) :
    (pattern.effect word (some cpu.fetching.pc)).refusal? cpu.fetched =
      pattern.fault? word (some cpu.fetchAddress) cpu.toCore := by
  have range := valid.fetched_inRange fetches.present
  rw [pattern.refusal_effect word _ range valid.hasCells, fault_fetched, valid.fetching_pc]

theorem Valid.step_refusal (valid : Valid cpu) {word : Opcode} {pattern : Pattern}
    (fetches : cpu.Fetches word pattern) :
    Cpu.step.refusal? cpu = pattern.fault? word (some cpu.fetchAddress) cpu.toCore := by
  rw [← valid.executing_refusal fetches]
  cases result : cpu.executing word pattern with
  | ok value machine =>
      rw [Action.refusal_of_ok (step_of_executed fetches result), Action.refusal_of_ok result]
  | error fault machine =>
      rw [Action.refusal_of_error (step_of_refused fetches result), Action.refusal_of_error result]

theorem Valid.fetches (valid : Valid cpu) {word : Opcode} {pattern : Pattern}
    (present : cpu.bus.memory.readWord cpu.fetchAddress = .ok word)
    (decoded : Pattern.ofOpcode? word = some pattern) : cpu.Fetches word pattern :=
  ⟨valid.fetching_pc ▸ present, decoded⟩

theorem Valid.missing_eq_some (valid : Valid cpu) {reach : Nat} {fault : Fault} :
    Machine.missing? cpu.toCore reach = some fault ↔
      0 < reach ∧ 4096 < cpu.state.i + reach ∧
        fault = .outsideMemory (max cpu.state.i 4096) 4096 := by
  rw [Machine.missing?, valid.memory]
  constructor
  · intro missing
    obtain ⟨⟨some, behind⟩, ⟨⟩⟩ := Option.ite_none_right_eq_some.mp missing
    exact ⟨some, behind, rfl⟩
  · rintro ⟨some, behind, rfl⟩
    exact if_pos ⟨some, behind⟩

theorem Valid.refuses_of_fault (valid : Valid cpu) {word : Opcode} {pattern : Pattern}
    {fault : Fault} (fetches : cpu.Fetches word pattern)
    (foreseen : pattern.fault? word (some cpu.fetchAddress) cpu.toCore = some fault) :
    cpu.Refuses fault := by
  have present := valid.fetching_pc ▸ fetches.present
  have decoded := fetches.decoded
  cases pattern with
  | ret =>
      obtain ⟨empty, ⟨⟩⟩ := Option.ite_none_right_eq_some.mp foreseen
      exact .stack present decoded empty
  | skipPressed =>
      obtain ⟨unknown, ⟨⟩⟩ := Option.ite_none_right_eq_some.mp foreseen
      exact .key present (.inl decoded) unknown
  | skipReleased =>
      obtain ⟨unknown, ⟨⟩⟩ := Option.ite_none_right_eq_some.mp foreseen
      exact .key present (.inr decoded) unknown
  | _ =>
      obtain ⟨some, behind, rfl⟩ := valid.missing_eq_some.mp foreseen
      exact .data present decoded some behind

theorem Valid.missing_of_behind (valid : Valid cpu) (behind : 4096 ≤ cpu.fetchAddress + 1) :
    cpu.bus.memory.readWord cpu.fetching.pc =
      .error (.outsideMemory (max cpu.fetchAddress 4096) 4096) := by
  have outside := cpu.bus.memory.readWord_of_outside cpu.fetchAddress valid.fetchAddress_nonneg (by
    rw [valid.memory]
    exact behind)
  rw [valid.memory] at outside
  rw [valid.fetching_pc]
  exact outside

theorem Valid.behind_of_missing (valid : Valid cpu) {fault : Fault}
    (missing : cpu.bus.memory.readWord cpu.fetching.pc = .error fault) :
    4096 ≤ cpu.fetchAddress + 1 := by
  refine Int.not_lt.mp fun inside => ?_
  obtain ⟨word, present⟩ := cpu.bus.memory.readWord_of_inside cpu.fetchAddress
    valid.fetchAddress_nonneg (by
      rw [valid.memory]
      omega)
  rw [← valid.fetching_pc] at present
  cases missing.symm.trans present

theorem Valid.refuses_of_missing (valid : Valid cpu) {fault : Fault}
    (missing : cpu.bus.memory.readWord cpu.fetching.pc = .error fault) : cpu.Refuses fault := by
  have behind := valid.behind_of_missing missing
  have same := missing.symm.trans (valid.missing_of_behind behind)
  cases same
  exact .fetch behind

theorem Valid.refuses_of_step (valid : Valid cpu) {fault : Fault} {left : Cpu}
    (refused : Cpu.step cpu = .error fault left) : cpu.Refuses fault := by
  rcases (step_eq_error refused).2 with ⟨missing, -⟩ | ⟨word, present, undefined, rfl, -⟩ |
    ⟨word, pattern, fetches, -⟩
  · exact valid.refuses_of_missing missing
  · rw [valid.fetching_pc] at present ⊢
    exact .opcode present undefined
  · refine valid.refuses_of_fault fetches ?_
    rw [← valid.step_refusal fetches, Action.refusal_of_error refused]

theorem Valid.step_of_refuses (valid : Valid cpu) {fault : Fault} (refuses : cpu.Refuses fault) :
    Cpu.step.refusal? cpu = some fault := by
  cases refuses with
  | fetch behind =>
      exact Action.refusal_of_error (step_of_missing (valid.missing_of_behind behind))
  | data present decoded some behind =>
      rw [valid.step_refusal (valid.fetches present decoded), Pattern.fault_of_reach some]
      exact valid.missing_eq_some.mpr ⟨some, behind, rfl⟩
  | opcode present undefined =>
      rw [← valid.fetching_pc] at present ⊢
      exact Action.refusal_of_error (step_of_undefined present undefined)
  | stack present decoded empty =>
      rw [valid.step_refusal (valid.fetches present decoded)]
      exact if_pos empty
  | key present decoded unknown =>
      rcases decoded with pressed | released
      · rw [valid.step_refusal (valid.fetches present pressed)]
        exact if_pos unknown
      · rw [valid.step_refusal (valid.fetches present released)]
        exact if_pos unknown

/-- A register holds a byte, so that a key can always be named. -/
theorem Valid.kind_of_refuses (valid : Valid cpu) {fault : Fault} (refuses : cpu.Refuses fault) :
    fault.kind? ≠ none := by
  cases refuses with
  | @key word =>
      rw [Fault.kind?, if_neg (valid.range.bytes word.x).not_endless]
      exact Option.some_ne_none _
  | _ => exact fun none => by cases none

/-- A step is refused under the conditions of `Refuses`, each with its own fault, and goes through
under none of them. The faults of screens without cells never arise. -/
theorem step_refused_iff (reachable : Reachable cpu) :
    (∀ fault, (∃ left, Cpu.step cpu = .error fault left) ↔ cpu.Refuses fault) ∧
    ((∃ operation next, Cpu.step cpu = .ok operation next) ↔ ∀ fault, ¬cpu.Refuses fault) ∧
    ∀ fault left, Cpu.step cpu = .error fault left → fault.kind? ≠ none := by
  have valid := reachable.valid
  refine ⟨fun fault => ⟨?refused, ?refuses⟩, ⟨?went, ?goes⟩, ?kind⟩
  case refused => exact fun ⟨left, refused⟩ => valid.refuses_of_step refused
  case refuses => exact fun refuses => Action.refusal_eq_some.mp (valid.step_of_refuses refuses)
  case went =>
      rintro ⟨operation, next, went⟩ fault refuses
      have refused := valid.step_of_refuses refuses
      rw [Action.refusal_of_ok went] at refused
      cases refused
  case goes =>
      intro free
      cases result : Cpu.step cpu with
      | ok operation next => exact ⟨operation, next, rfl⟩
      | error fault left => exact absurd (valid.refuses_of_step result) (free fault)
  case kind => exact fun fault left refused => valid.kind_of_refuses (valid.refuses_of_step refused)

theorem step_refused_iff_return :
    (loaded [0x00, 0xEE]).Reachable ∧
    ∃ left, Cpu.step (loaded [0x00, 0xEE]) = .error (.emptyStack (some 0x200)) left := by
  have reachable := loaded_reachable [0x00, 0xEE]
  have fetches : (loaded [0x00, 0xEE]).Fetches 0x00EE .ret :=
    fetches_of_loaded .default [0x00, 0xEE] rfl (by decide) 0 (by decide) rfl rfl
  have refuses : (loaded [0x00, 0xEE]).Refuses (.emptyStack (some 0x200)) :=
    .stack fetches.present fetches.decoded rfl
  exact ⟨reachable, ((step_refused_iff reachable).1 _).mpr refuses⟩

end Cpu

end Chip8
