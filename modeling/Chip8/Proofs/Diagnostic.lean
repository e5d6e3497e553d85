import Chip8.Proofs.Aftermath
import Chip8.Proofs.FrameLoop
/-!
What the log shows of a fatal error. The loop takes the program counter to be two behind the
instruction that failed. It is, unless the instruction could not be fetched: then the program
counter has not moved, and the record is about the two bytes in front of it as well.
-/

namespace Chip8

namespace FrameLoop

variable {loop next : FrameLoop} {fault : Fault} {kind : FaultKind}

def memoryRecord (memory : Memory) (address : Int) : Log.Record :=
  let bytes := [address, address + 1, address + 2, address + 3].filterMap fun place =>
    (memory.read place).toOption
  ⟨.error, .frameLoop, Text.ofString
    ("Memory at " ++ Hex.address address ++ ": " ++ Hex.spacedBytes bytes)⟩

theorem failureAddress_nonneg (cpu : Cpu) : 0 ≤ failureAddress cpu := by
  rw [failureAddress]
  omega

theorem failureAddress_of_step_error {before left : Cpu}
    (small : before.bus.memory.size < 0x10000) (refused : Cpu.step before = .error fault left) :
    failureAddress left =
      if (before.bus.memory.readWord before.fetching.pc).isOk then before.fetching.pc
      else (before.fetching.pc - 2) % 0x10000 := by
  rw [failureAddress, Cpu.counter_of_step_error refused, Registers.instructionLength]
  cases found : before.bus.memory.readWord before.fetching.pc with
  | error missing => rfl
  | ok word =>
      obtain ⟨low, high⟩ := Memory.inside_of_readWord found
      simp only [Except.isOk, Except.toBool, if_true]
      omega

theorem dump_eq_four (memory : Memory) {address : Int} (low : 0 ≤ address) :
    memory.dump address 4 =
      [address, address + 1, address + 2, address + 3].filterMap fun place =>
        (memory.read place).toOption := by
  obtain ⟨start, rfl⟩ := Int.eq_ofNat_of_zero_le low
  exact memory.dump_eq_reads start 4

theorem failureRecords_eq (cpu : Cpu) (kind : FaultKind) (fault : Fault) :
    failureRecords cpu kind fault =
      [⟨.error, .frameLoop, Text.ofString
         ("Emulation stopped (" ++ kind.label ++ "): " ++ fault.message)⟩,
       ⟨.error, .frameLoop, Text.ofString ("Registers: " ++ cpu.state.line)⟩,
       memoryRecord cpu.bus.memory (failureAddress cpu)] := by
  rw [memoryRecord, ← dump_eq_four _ (failureAddress_nonneg cpu)]
  rfl

theorem memoryRecord_of_reads {memory : Memory} {address : Int}
    {found : List (Except Fault UInt8)} {shown : String}
    (reads : [address, address + 1, address + 2, address + 3].map memory.read = found)
    (text : "Memory at " ++ Hex.address address ++ ": " ++
      Hex.spacedBytes (found.filterMap Except.toOption) = shown) :
    memoryRecord memory address = ⟨.error, .frameLoop, Text.ofString shown⟩ := by
  rw [← text, ← reads, List.filterMap_map]
  rfl

theorem log_of_refused {before left : Cpu} (small : before.bus.memory.size < 0x10000)
    (refused : Cpu.step before = .error fault left) (loop : FrameLoop) (kind : FaultKind) :
    ∃ stopped registers, (loop.failed left kind fault).log = loop.log ++
      [stopped, registers, memoryRecord left.bus.memory
        (if (before.bus.memory.readWord before.fetching.pc).isOk then before.fetching.pc
         else (before.fetching.pc - 2) % 0x10000)] := by
  rw [failed, failureRecords_eq, failureAddress_of_step_error small refused]
  exact ⟨_, _, rfl⟩

theorem runFrame_of_fatal (loop : FrameLoop) {left : Cpu} (running : loop.running = true)
    (refused : Action.times Cpu.step instructionsPerFrame (loop.cpu.after .tick) =
      .error fault left) (fatal : fault.kind? = some kind) :
    FrameLoop.runFrame loop = .error fault (loop.failed left kind fault) := by
  rw [runFrame_of_error running refused, stop_eq_failed loop left fatal]

theorem step_of_runFrame_error (failed : FrameLoop.runFrame loop = .error fault next)
    (fatal : fault.kind? = some kind) :
    ∃ done < instructionsPerFrame, ∃ operations before,
      Action.times Cpu.step done (loop.cpu.after .tick) = .ok operations before ∧
      Cpu.step before = .error fault next.cpu ∧ next = loop.failed next.cpu kind fault := by
  cases running : loop.running with
  | false => cases (runFrame_of_stopped running).symm.trans failed
  | true =>
      cases result : Action.times Cpu.step instructionsPerFrame (loop.cpu.after .tick) with
      | ok operations cpu => cases (runFrame_of_ok running result).symm.trans failed
      | error cause cpu =>
          cases (runFrame_of_error running result).symm.trans failed
          rw [stop_eq_failed loop cpu fatal]
          obtain ⟨done, early, operations, before, went, stopped⟩ := Action.times_eq_error result
          exact ⟨done, early, operations, before, went, stopped, rfl⟩

/-- On a fatal error the last record names the address of the instruction that failed, and shows the
four bytes there, as far as they are in memory. If the instruction could not be fetched, it names
the address two in front and shows the bytes from there on. -/
theorem failure_record (random : RandomSource) (events : List Event) (keyMap : KeyMap)
    (quitKey : Text) (calls : List Call) {loop next : FrameLoop} {fault : Fault} {kind : FaultKind}
    (ran : loop = FrameLoop.afterAll
      { cpu := (Cpu.ofBus { random := random }).afterAll events, keyMap, quitKey } calls)
    (failed : FrameLoop.runFrame loop = .error fault next) (fatal : fault.kind? = some kind) :
    ∃ done < 10, ∃ operations before,
      Action.times Cpu.step done (loop.cpu.after .tick) = .ok operations before ∧
      Cpu.step before = .error fault next.cpu ∧
      ∃ stopped registers, next.log = loop.log ++
        [stopped, registers, memoryRecord next.cpu.bus.memory
          (if (before.bus.memory.readWord before.fetching.pc).isOk then before.fetching.pc
           else (before.fetching.pc - 2) % 0x10000)] := by
  obtain ⟨done, early, operations, before, went, refused, same⟩ :=
    step_of_runFrame_error failed fatal
  have standard : before.bus.memory.size = 4096 := by
    have reached := cpu_afterAll
      { cpu := (Cpu.ofBus { random := random }).afterAll events, keyMap, quitKey } calls
    rw [← ran] at reached
    have shape : Machine.shape before.toCore =
        Machine.shape (Cpu.ofBus { random := random }).toCore := by
      rw [Cpu.afterAll_of_times went, Cpu.shape_afterAll, Cpu.shape_after, reached,
        Cpu.shape_afterAll, Cpu.shape_afterAll]
    exact congrArg Prod.fst shape
  have logged := log_of_refused (by omega) refused loop kind
  rw [← same] at logged
  exact ⟨done, early, operations, before, went, refused, logged⟩

def returnAtStart : List Int := [0x00, 0xEE, 0x12, 0x34]

theorem failure_record_return :
    ∃ next, FrameLoop.runFrame { cpu := (Cpu.ofBus {}).afterAll [.load returnAtStart] } =
        .error (.emptyStack (some 0x200)) next ∧
      next.log.getLast? =
        some ⟨.error, .frameLoop, Text.ofString "Memory at 0x0200: 00 ee 12 34"⟩ := by
  let start : FrameLoop := { cpu := (Cpu.ofBus {}).afterAll [.load returnAtStart] }
  have fetches : (start.cpu.after .tick).Fetches 0x00EE .ret :=
    Cpu.fetches_of_loaded .default returnAtStart rfl (by decide) 0 (by decide) rfl rfl
  have refused := Cpu.step_of_refused fetches (Effect.ret_of_empty (some 0x200) rfl)
  have frame := runFrame_of_fatal start rfl (Action.bind_of_error refused) rfl
  refine ⟨_, frame, ?_⟩
  obtain ⟨done, -, operations, before, went, -, stopped, registers, logged⟩ :=
    failure_record (.cycling []) [.load returnAtStart] _ _ [] rfl frame rfl
  have here : before = start.cpu.after .tick := by
    cases done with
    | zero =>
        cases went
        rfl
    | succ done => cases (Action.bind_of_error refused).symm.trans went
  have cell := Memory.read_place_after_load .default 0x200 returnAtStart (by decide) (by decide)
  have reads : [0x200, 0x200 + 1, 0x200 + 2, 0x200 + 3].map
      ((Memory.load 0x200 returnAtStart).after .default).read =
        [.ok 0x00, .ok 0xEE, .ok 0x12, .ok 0x34] :=
    calc
      _ = (List.range 4).map fun place : Nat =>
          ((Memory.load 0x200 returnAtStart).after .default).read (0x200 + place) := rfl
      _ = (List.range 4).map fun place => .ok (Memory.lowByte (returnAtStart.getD place 0)) :=
          List.map_congr_left fun place member => cell place (List.mem_range.mp member)
      _ = _ := rfl
  have shown : memoryRecord ((Memory.load 0x200 returnAtStart).after .default) 0x200 =
      ⟨.error, .frameLoop, Text.ofString "Memory at 0x0200: 00 ee 12 34"⟩ :=
    memoryRecord_of_reads reads (by decide)
  rw [logged, here, fetches.present]
  exact congrArg some shown

def jumpToTheEnd : List Int := [0x1F, 0xFF]

theorem read_jumpToTheEnd {place : Int} (behind : 0x202 ≤ place) (inside : place < 4096) :
    ((Memory.load 0x200 jumpToTheEnd).after .default).read place = .ok 0 := by
  have empty : Memory.default.read place = .ok (Font.byteAt place.toNat) :=
    Memory.read_ofSize 4096 (by omega) inside
  have font : Font.size ≤ place.toNat := by
    rw [Font.size]
    omega
  rw [Memory.read_after_load_of_beside _ _ _ (.inr behind), empty, Font.byteAt_of_size_le font]

theorem missing_jumpToTheEnd {place : Int} (outside : 4096 ≤ place) :
    ((Memory.load 0x200 jumpToTheEnd).after .default).read place =
      .error (.outsideMemory place 4096) := by
  have size : ((Memory.load 0x200 jumpToTheEnd).after .default).size = 4096 :=
    Memory.load_preserves_size 0x200 jumpToTheEnd .default
  rw [Memory.read_of_outside _ _ (by omega), size]

/-- The instruction that failed is not the one that the record shows. -/
theorem failure_record_two_in_front :
    let start : FrameLoop := { cpu := (Cpu.ofBus {}).afterAll [.load jumpToTheEnd] }
    ∃ operation before next,
      Cpu.step (start.cpu.after .tick) = .ok operation before ∧
      before.fetching.pc = 0xFFF ∧
      Cpu.step before = .error (.outsideMemory 4096 4096) next.cpu ∧
      FrameLoop.runFrame start = .error (.outsideMemory 4096 4096) next ∧
      next.log.getLast? =
        some ⟨.error, .frameLoop, Text.ofString "Memory at 0x0ffd: 00 00 00"⟩ ∧
      memoryRecord next.cpu.bus.memory 0xFFF =
        ⟨.error, .frameLoop, Text.ofString "Memory at 0x0fff: 00"⟩ := by
  intro start
  have fetches : (start.cpu.after .tick).Fetches 0x1FFF .jump :=
    Cpu.fetches_of_loaded .default jumpToTheEnd rfl (by decide) 0 (by decide) rfl rfl
  let before : Cpu := ⟨(start.cpu.after .tick).fetched.withState
    { (start.cpu.after .tick).fetched.state with pc := 0xFFF }, 1⟩
  have jumped : Cpu.step (start.cpu.after .tick) =
      .ok (.ofPattern .jump 0x1FFF (some 0x200)) before := Cpu.step_of_executed fetches rfl
  let memory := (Memory.load 0x200 jumpToTheEnd).after .default
  have zero (place : Int) (behind : 0x202 ≤ place) (inside : place < 4096) :
      memory.read place = .ok 0 := read_jumpToTheEnd behind inside
  have none (place : Int) (outside : 4096 ≤ place) :
      memory.read place = .error (.outsideMemory place 4096) := missing_jumpToTheEnd outside
  -- Of the two bytes to be fetched, the second lies behind the memory.
  have missing : before.bus.memory.readWord before.fetching.pc =
      .error (.outsideMemory 4096 4096) := by
    change memory.readWord 0xFFF = _
    rw [Memory.readWord, zero 0xFFF (by decide) (by decide), none (0xFFF + 1) (by decide)]
    rfl
  have refused := Cpu.step_of_missing missing
  have frame := runFrame_of_fatal start rfl
    ((Action.bind_of_ok jumped).trans (Action.bind_of_error (Action.bind_of_error refused))) rfl
  refine ⟨_, before, _, jumped, rfl, refused, frame, ?_, ?_⟩
  · obtain ⟨stopped, registers, logged⟩ := log_of_refused (by decide) refused start .memoryBounds
    have reads : [0xFFD, 0xFFD + 1, 0xFFD + 2, 0xFFD + 3].map memory.read =
        [.ok 0, .ok 0, .ok 0, .error (.outsideMemory 4096 4096)] := by
      simp only [List.map_cons, List.map_nil]
      rw [zero, zero, zero, none]
      · rfl
      all_goals decide
    have shown : memoryRecord memory 0xFFD =
        ⟨.error, .frameLoop, Text.ofString "Memory at 0x0ffd: 00 00 00"⟩ :=
      memoryRecord_of_reads reads (by decide)
    have named : (before.fetching.pc - 2) % 0x10000 = 0xFFD := by decide
    rw [logged, missing, ← shown, ← named]
    rfl
  · have reads : [0xFFF, 0xFFF + 1, 0xFFF + 2, 0xFFF + 3].map memory.read =
        [.ok 0, .error (.outsideMemory 4096 4096), .error (.outsideMemory 4097 4096),
          .error (.outsideMemory 4098 4096)] := by
      simp only [List.map_cons, List.map_nil]
      rw [zero, none, none, none]
      · rfl
      all_goals decide
    have shown : memoryRecord memory 0xFFF =
        ⟨.error, .frameLoop, Text.ofString "Memory at 0x0fff: 00"⟩ :=
      memoryRecord_of_reads reads (by decide)
    exact shown

end FrameLoop

end Chip8
