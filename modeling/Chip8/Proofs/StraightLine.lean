import Mathlib.Data.List.Forall2
import Chip8.Proofs.Unread
/-!
Programs that go straight on. An instruction that neither looks at the program counter nor moves it
does the same wherever it stands. So a program of such instructions carries them out one after the
other, up to the very end of the memory.
-/

namespace Chip8

/-- Instructions that go through, go on behind themselves and leave the memory alone. -/
def Pattern.straight : List Pattern :=
  [.clear, .loadByte, .addByte, .copy, .or, .and, .xor, .add, .sub, .shiftRight, .subFrom,
   .shiftLeft, .loadIndex, .random, .readDelay, .setDelay, .setSound, .addIndex, .loadGlyph]

namespace Pattern

variable {pattern : Pattern} (straight : pattern ∈ Pattern.straight)

include straight

theorem keeps_of_straight :
    pattern ∉ Part.counter.readers ∧ pattern ∉ Part.counter.writers ∧
      pattern ∉ Part.memory.writers ∧ pattern ∉ Part.halted.writers := by
  revert pattern
  decide

theorem goes_of_straight (word : Opcode) (address : Option Int) (machine : Machine) :
    ∃ done, pattern.effect word address machine = .ok () done := by
  cases pattern <;> first
  | exact ⟨_, rfl⟩
  | exact absurd straight (by decide)

end Pattern

namespace Cpu

def bytes (words : List Opcode) : List Int := words.flatMap fun word => [word / 256, word % 256]

theorem length_bytes (words : List Opcode) : (bytes words).length = 2 * words.length := by
  induction words with
  | nil => rfl
  | cons word rest ih =>
      have longer : (bytes (word :: rest)).length = (bytes rest).length + 2 := rfl
      rw [longer, ih, List.length_cons]
      omega

theorem getD_bytes (words : List Opcode) (place : Nat) :
    (bytes words).getD (2 * place) 0 = words.getD place 0 / 256 ∧
      (bytes words).getD (2 * place + 1) 0 = words.getD place 0 % 256 := by
  induction words generalizing place with
  | nil => exact ⟨rfl, rfl⟩
  | cons word rest ih =>
      cases place with
      | zero => exact ⟨rfl, rfl⟩
      | succ place => exact ih place

theorem join_bytes {word : Int} (low : 0 ≤ word) (high : word < 0x10000) :
    word / 256 % 256 * 256 + word % 256 % 256 = word := by
  omega

def placed (place : Nat) : Int := 0x200 + 2 * place

theorem readWord_bytes {words : List Opcode} {memory : Memory}
    (fits : 0x200 + (bytes words).length ≤ memory.size)
    (small : ∀ word ∈ words, 0 ≤ word ∧ word < 0x10000) :
    ∀ entry ∈ words.zipIdx,
      ((Memory.loadProgram (bytes words)).after memory).readWord (placed entry.2) =
        .ok entry.1 := by
  intro entry member
  obtain ⟨word, place⟩ := entry
  have here : words[place]? = some word := List.mem_zipIdx_iff_getElem?.mp member
  obtain ⟨positive, high⟩ := small word (List.mem_of_getElem? here)
  have inside : place < words.length := (List.getElem?_eq_some_iff.mp here).1
  have start : (0x200 : Int) + (bytes words).length ≤ memory.size := by omega
  have within : 2 * place + 1 < (bytes words).length := by
    rw [length_bytes]
    omega
  have read := memory.readWord_after_load 0x200 (bytes words) (by decide) start (2 * place) within
  have found : words.getD place 0 = word := by
    rw [List.getD_eq_getElem?_getD, here]
    rfl
  rw [(getD_bytes words place).1, (getD_bytes words place).2, found, join_bytes positive high]
    at read
  exact read

def along (machine : Machine) (place : Nat) : Cpu :=
  ⟨machine.withState { machine.state with pc := placed place }, place⟩

section Step

variable {machine : Machine} {place : Nat} (awake : machine.state.halted = false)

include awake

theorem fetching_along : (along machine place).fetching = (along machine place).state := by
  apply fetching_of_awake
  intro halted
  cases awake.symm.trans halted

theorem fetched_along (small : placed place + 2 < 0x10000) :
    (along machine place).fetched = (along machine (place + 1)).toCore := by
  have next : (placed place + 2) % 0x10000 = placed (place + 1) := by
    simp only [placed] at small ⊢
    omega
  rw [fetched, fetching_along awake]
  change machine.withState { machine.state with pc := (placed place + 2) % 0x10000 } = _
  rw [next]
  rfl

/-- The instruction is carried out as it would be elsewhere, and the next one comes after it. -/
theorem step_along (small : placed place + 2 < 0x10000) {word : Opcode} {pattern : Pattern}
    (present : machine.bus.memory.readWord (placed place) = .ok word)
    (decoded : Pattern.ofOpcode? word = some pattern) (straight : pattern ∈ Pattern.straight) :
    ∃ done, (Operation.ofPattern pattern word (some (placed place))).execute machine =
        .ok () done ∧
      done.bus.memory = machine.bus.memory ∧ done.state.halted = false ∧
      step (along machine place) =
        .ok (Operation.ofPattern pattern word (some (placed place))) (along done (place + 1)) := by
  obtain ⟨unread, unmoved, unstored, unhalted⟩ := Pattern.keeps_of_straight straight
  have counter : (along machine place).fetching.pc = placed place := by
    rw [fetching_along awake]
    rfl
  obtain ⟨done, went⟩ := Pattern.goes_of_straight straight word (some (placed place)) machine
  have executed : (Operation.ofPattern pattern word (some (placed place))).execute machine =
      .ok () done := by
    rw [execute_ofPattern]
    exact went
  have memory := Pattern.effect_keeps_of_other unstored word (some (placed place)) machine
  have halted := Pattern.effect_keeps_of_other unhalted word (some (placed place)) machine
  rw [Action.after_of_ok went] at memory halted
  have fetches : (along machine place).Fetches word pattern := by
    refine ⟨?_, decoded⟩
    rw [counter]
    exact present
  have moved : (along machine place).executing word pattern =
      .ok () (along done (place + 1)).toCore := by
    have commutes : (pattern.effect word (some (placed place))).Commutes
        (Part.counter.put (placed (place + 1))) :=
      Pattern.effect_commutes _ unread unmoved word _
    rw [executing, fetched_along awake small, counter]
    refine (commutes machine).trans ?_
    rw [went]
    rfl
  refine ⟨done, executed, memory, halted.trans awake, ?_⟩
  rw [step_of_executed fetches moved, counter]
  rfl

end Step

/-- A run through the rest of a straight program. -/
theorem run_along {machine : Machine} {place : Nat} (awake : machine.state.halted = false)
    {words : List Opcode} (small : placed (place + words.length) < 0x10000)
    (present : ∀ entry ∈ words.zipIdx place,
      machine.bus.memory.readWord (placed entry.2) = .ok entry.1)
    (straight : ∀ word ∈ words,
      ∃ pattern ∈ Pattern.straight, Pattern.ofOpcode? word = some pattern) :
    ∃ operations done,
      List.Forall₂ (fun entry operation =>
          Operation.decode entry.1 (some (placed entry.2)) = .ok operation)
        (words.zipIdx place) operations ∧
      operations.forM Operation.execute machine = .ok () done ∧
      done.bus.memory = machine.bus.memory ∧
      Action.times step words.length (along machine place) =
        .ok operations (along done (place + words.length)) := by
  induction words generalizing machine place with
  | nil => exact ⟨[], machine, .nil, rfl, rfl, rfl⟩
  | cons word rest ih =>
      obtain ⟨⟨pattern, listed, decoded⟩, others⟩ := List.forall_mem_cons.mp straight
      rw [List.zipIdx_cons] at present ⊢
      obtain ⟨here, later⟩ := List.forall_mem_cons.mp present
      have near : placed place + 2 < 0x10000 := by
        simp only [placed, List.length_cons] at small ⊢
        omega
      obtain ⟨done, executed, kept, still, stepped⟩ := step_along awake near here decoded listed
      have far : placed (place + 1 + rest.length) < 0x10000 := by
        simpa only [List.length_cons, Nat.add_assoc, Nat.add_comm 1] using small
      -- Nothing has been stored, so that the words behind are still there.
      rw [← kept] at later
      obtain ⟨operations, final, decodes, folded, same, went⟩ := ih still far later others
      have first : Operation.decode word (some (placed place)) =
          .ok (Operation.ofPattern pattern word (some (placed place))) := by
        rw [Operation.decode, decoded]
      refine ⟨_ :: operations, final, .cons first decodes, ?_, same.trans kept, ?_⟩
      · exact (Action.bind_of_ok executed).trans folded
      · have all : Action.times step (rest.length + 1) (along machine place) =
            .ok (_ :: operations) (along final (place + 1 + rest.length)) :=
          (Action.bind_of_ok stepped).trans (Action.bind_of_ok went)
        rw [List.length_cons, all, Nat.add_assoc, Nat.add_comm 1]

/-- A straight program runs through without a refusal: each step answers the instruction that lies
there, and what they do is what they do one after the other, but for the program counter. -/
theorem straight_line_is_fold (random : RandomSource) (words : List Opcode)
    (short : words.length ≤ 1792)
    (straight : ∀ word ∈ words, (0 ≤ word ∧ word < 0x10000) ∧
      ∃ pattern ∈ Pattern.straight, Pattern.ofOpcode? word = some pattern) :
    let fresh := ofBus { random := random }
    let start := fresh.after (.load (bytes words))
    loadProgram (bytes words) fresh = .ok () start ∧
    ∃ operations folded,
      List.Forall₂ (fun entry operation =>
          Operation.decode entry.1 (some (0x200 + 2 * entry.2)) = .ok operation)
        words.zipIdx operations ∧
      operations.forM Operation.execute start.toCore = .ok () folded ∧
      folded.bus.memory = start.bus.memory ∧
      Action.times step words.length start = .ok operations
        { state := { folded.state with pc := 0x200 + 2 * words.length }
          bus := folded.bus
          instructionCount := words.length } := by
  intro fresh start
  have fits : 0x200 + (bytes words).length ≤ fresh.bus.memory.size := by
    have size : fresh.bus.memory.size = 4096 := rfl
    rw [length_bytes, size]
    omega
  have small : placed (0 + words.length) < 0x10000 := by
    rw [placed]
    omega
  have loaded : start = _ := after_load fresh (bytes words)
  have awake : start.state.halted = false := by
    rw [loaded]
    rfl
  have begun : start = along start.toCore 0 := by
    rw [loaded]
    rfl
  have present : ∀ entry ∈ words.zipIdx,
      start.bus.memory.readWord (placed entry.2) = .ok entry.1 := by
    rw [loaded]
    exact readWord_bytes fits fun word member => (straight word member).1
  obtain ⟨operations, folded, decodes, executed, memory, went⟩ :=
    run_along awake small present fun word member => (straight word member).2
  refine ⟨loadProgram_of_fits fresh fits, operations, folded, decodes, executed, memory, ?_⟩
  rw [← begun, Nat.zero_add] at went
  exact went

def threeStraight : List Opcode := [0x6005, 0x7003, 0x00E0]

theorem straight_line_is_fold_three :
    threeStraight.length ≤ 1792 ∧
    (∀ word ∈ threeStraight, (0 ≤ word ∧ word < 0x10000) ∧
      ∃ pattern ∈ Pattern.straight, Pattern.ofOpcode? word = some pattern) ∧
    ∃ operations done,
      Action.times step 3 ((ofBus {}).after (.load [0x60, 0x05, 0x70, 0x03, 0x00, 0xE0])) =
        .ok operations done ∧
      operations.length = 3 ∧ done.state.pc = 0x206 ∧ done.instructionCount = 3 := by
  have short : threeStraight.length ≤ 1792 := by decide
  have straight : ∀ word ∈ threeStraight, (0 ≤ word ∧ word < 0x10000) ∧
      ∃ pattern ∈ Pattern.straight, Pattern.ofOpcode? word = some pattern := by
    simp only [threeStraight, List.forall_mem_cons, List.not_mem_nil, false_implies, implies_true]
    refine ⟨⟨by decide, .loadByte, by decide, rfl⟩, ⟨by decide, .addByte, by decide, rfl⟩,
      ⟨by decide, .clear, by decide, rfl⟩, trivial⟩
  obtain ⟨-, operations, folded, decodes, -, -, went⟩ :=
    straight_line_is_fold (.cycling []) threeStraight short straight
  have length := decodes.length_eq
  exact ⟨short, straight, operations, _, went, length.symm, rfl, rfl⟩

end Cpu

end Chip8
