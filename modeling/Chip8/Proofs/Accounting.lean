import Chip8.Proofs.FrameLoop

namespace Chip8

def Text.beginsWith (text : Text) (start : String) : Bool :=
  (ofString start).points.isPrefixOf text.points

theorem Text.beginsWith_of_points {text : Text} {start : String} {rest : List CodePoint}
    (parts : text.points = (ofString start).points ++ rest) : text.beginsWith start = true := by
  rw [beginsWith, List.isPrefixOf_iff_prefix, parts]
  exact List.prefix_append _ _

theorem Text.beginsWith_append (start rest : String) :
    (ofString (start ++ rest)).beginsWith start = true := by
  have parts : (ofString (start ++ rest)).points =
      (ofString start).points ++ (ofString rest).points := by
    simp only [ofString, String.toList_append, ofChars_append, points_append]
  exact beginsWith_of_points parts

theorem Text.not_beginsWith {text : Text} {start : String} {first other : CodePoint}
    (head : text.points.head? = some first) (begins : (ofString start).points.head? = some other)
    (differs : first ≠ other) : text.beginsWith start = false := by
  rw [beginsWith, Bool.eq_false_iff, ne_eq, List.isPrefixOf_iff_prefix]
  rintro ⟨rest, parts⟩
  rw [← parts, List.head?_append, begins] at head
  exact differs (Option.some.inj head).symm

namespace FrameLoop

/-- Whether a record reports that the loop has come to an end, by itself or by a fatal error. -/
def isStopReport (record : Log.Record) : Bool :=
  record.text.beginsWith "Emulation stopped after " ||
    record.text.beginsWith "Emulation stopped ("

theorem isStopReport_endReport (frames : Nat) : isStopReport (endReport frames) = true := by
  have begins : (endReport frames).text.beginsWith "Emulation stopped after " = true := by
    apply Text.beginsWith_of_points
    rw [endReport, Text.points_append, Text.points_append, List.append_assoc]
  rw [isStopReport, begins, Bool.true_or]

theorem not_isStopReport (level : Log.Level) {text : String} (first : Char)
    (head : text.toList.head? = some first) (differs : first ≠ 'E') :
    isStopReport ⟨level, .frameLoop, text⟩ = false := by
  have begins : (Text.ofString text).points.head? = some (.char first) := by
    simp [Text.ofString, Text.ofChars, head]
  have apart : CodePoint.char first ≠ .char 'E' := by
    simpa using differs
  rw [isStopReport, Text.not_beginsWith begins rfl apart, Text.not_beginsWith begins rfl apart]
  rfl

/-- Only the first of the records on a fatal error is a report on the end; the others show registers
and memory. -/
theorem countP_failureRecords (cpu : Cpu) (kind : FaultKind) (fault : Fault) :
    (failureRecords cpu kind fault).countP isStopReport = 1 := by
  have reports : isStopReport ⟨.error, .frameLoop,
      ("Emulation stopped (" ++ kind.label ++ "): " ++ fault.message : String)⟩ = true := by
    rw [isStopReport, String.append_assoc, String.append_assoc, Text.beginsWith_append,
      Bool.or_true]
  have registers : isStopReport ⟨.error, .frameLoop,
      ("Registers: " ++ cpu.state.line : String)⟩ = false :=
    not_isStopReport .error 'R' (by simp) (by decide)
  have memory : isStopReport ⟨.error, .frameLoop,
      ("Memory at " ++ Hex.address (failureAddress cpu) ++ ": " ++
        Hex.spacedBytes (cpu.bus.memory.dump (failureAddress cpu) 4) : String)⟩ = false :=
    not_isStopReport .error 'M' (by simp) (by decide)
  simp only [failureRecords, diagnostics, List.map_cons, List.map_nil, List.countP_cons, reports,
    registers, memory]
  rfl

/-- The books of the loop: while it goes on, after it was told to end, and after a fatal error, when
up to nine instructions of the last frame had been carried out. -/
inductive Account (loop : FrameLoop) : Prop where
  | going : loop.running = true → loop.error = none → loop.log = [] →
      loop.cpu.instructionCount = 10 * loop.frameCount → Account loop
  | ended : loop.running = false → loop.error = none → loop.log = [endReport loop.frameCount] →
      loop.cpu.instructionCount = 10 * loop.frameCount → Account loop
  | failed {cpu : Cpu} {kind : FaultKind} {fault : Fault} {done : Nat} :
      loop.running = false → loop.error = some fault → loop.log = failureRecords cpu kind fault →
      done < 10 → loop.cpu.instructionCount = 10 * loop.frameCount + done → Account loop

variable {loop next : FrameLoop} {call : Call} {outcome : Except Fault Answer}

theorem Account.withCpu (account : Account loop) {cpu : Cpu}
    (counted : cpu.instructionCount = loop.cpu.instructionCount) :
    Account { loop with cpu := cpu } := by
  cases account with
  | going running fine empty total => exact .going running fine empty (counted.trans total)
  | ended stopped fine reported total => exact .ended stopped fine reported (counted.trans total)
  | failed stopped fault recorded early total =>
      exact .failed stopped fault recorded early (counted.trans total)

theorem Account.of_running (account : Account loop) (running : loop.running = true) :
    loop.error = none ∧ loop.log = [] ∧ loop.cpu.instructionCount = 10 * loop.frameCount := by
  cases account with
  | going _ fine empty total => exact ⟨fine, empty, total⟩
  | ended stopped | failed stopped => rw [running] at stopped; cases stopped

theorem Account.of_fine (account : Account loop) (fine : loop.error = none) :
    loop.cpu.instructionCount = 10 * loop.frameCount := by
  cases account with
  | going _ _ _ total | ended _ _ _ total => exact total
  | failed _ fault => rw [fine] at fault; cases fault

theorem Account.of_error (account : Account loop) (error : loop.error ≠ none) :
    loop.running = false ∧ 10 * loop.frameCount ≤ loop.cpu.instructionCount ∧
      loop.cpu.instructionCount ≤ 10 * loop.frameCount + 9 := by
  cases account with
  | going _ fine | ended _ fine => exact absurd fine error
  | failed stopped _ _ early total => exact ⟨stopped, by omega, by omega⟩

theorem Account.stopReports (account : Account loop) :
    loop.log.countP isStopReport = if loop.running then 0 else 1 := by
  cases account with
  | going running _ empty =>
      rw [empty, running]
      rfl
  | ended stopped _ reported =>
      rw [reported, stopped, List.countP_singleton, isStopReport_endReport]
      rfl
  | failed stopped _ recorded =>
      rw [recorded, stopped, countP_failureRecords]
      rfl

theorem Account.turn (account : Account loop) (turn : Turn loop call outcome next) :
    Account next := by
  cases turn with
  | idle | unknown | pixels => exact account
  | key _ counted => exact account.withCpu counted
  | frame running _ counted =>
      obtain ⟨fine, empty, total⟩ := account.of_running running
      refine .going running fine empty ?_
      rw [instructionsPerFrame] at counted
      simp only
      omega
  | @failure cpu kind fault done running _ _ early counted =>
      obtain ⟨fine, empty, total⟩ := account.of_running running
      have recorded : (loop.failed cpu kind fault).log = failureRecords cpu kind fault := by
        rw [FrameLoop.failed, empty, List.nil_append]
      rw [total] at counted
      exact .failed rfl rfl recorded early counted
  | quit =>
      cases running : loop.running with
      | false =>
          rw [quit_of_stopped running]
          exact account
      | true =>
          obtain ⟨fine, empty, total⟩ := account.of_running running
          rw [quit_of_running running]
          refine .ended rfl fine ?_ total
          rw [empty, List.nil_append]

def ranFrame : Except Fault Answer → Bool
  | .ok (.frame ran) => ran
  | _ => false

theorem frameCount_turn (turn : Turn loop call outcome next) :
    next.frameCount = loop.frameCount + [outcome].countP ranFrame := by
  cases turn with
  | idle | unknown | pixels | key | frame | failure => rfl
  | quit =>
      rw [FrameLoop.quit]
      split <;> rfl

theorem Account.afterAll (account : Account loop) (reachable : loop.cpu.Reachable)
    (calls : List Call) : Account (loop.afterAll calls) := by
  induction calls generalizing loop with
  | nil => exact account
  | cons call rest ih =>
      exact ih (account.turn (FrameLoop.turn reachable call)) (after_reachable reachable call)

theorem frameCount_afterAll (reachable : loop.cpu.Reachable) (calls : List Call) :
    (loop.afterAll calls).frameCount = loop.frameCount + (loop.outcomes calls).countP ranFrame := by
  induction calls generalizing loop with
  | nil => rfl
  | cons call rest ih =>
      have here := frameCount_turn (turn reachable call)
      have later := ih (after_reachable reachable call)
      calc
        (loop.afterAll (call :: rest)).frameCount =
            (loop.after call).frameCount +
              ((loop.after call).outcomes rest).countP ranFrame := later
        _ = loop.frameCount + ([call.action.outcome loop] ++
            (loop.after call).outcomes rest).countP ranFrame := by
          rw [here, List.countP_append, Nat.add_assoc]
        _ = loop.frameCount + (loop.outcomes (call :: rest)).countP ranFrame := rfl

/-- The books of a loop over a machine with a program, whatever is asked of it. -/
theorem frame_accounting (random : RandomSource) (program : List Int) (keyMap : KeyMap)
    (quitKey : Text) (calls : List Call) :
    let start : FrameLoop :=
      { cpu := (Cpu.ofBus { random := random }).after (.load program), keyMap, quitKey }
    let loop := start.afterAll calls
    loop.frameCount = (start.outcomes calls).countP ranFrame ∧
    (loop.error = none → loop.cpu.instructionCount = 10 * loop.frameCount) ∧
    (loop.error ≠ none → loop.running = false ∧
      10 * loop.frameCount ≤ loop.cpu.instructionCount ∧
      loop.cpu.instructionCount ≤ 10 * loop.frameCount + 9) ∧
    (loop.running = false → FrameLoop.runFrame loop = .ok false loop ∧
      ∀ call, (loop.after call).running = false) ∧
    loop.log.countP isStopReport = if loop.running then 0 else 1 := by
  intro start loop
  have reachable : start.cpu.Reachable :=
    .event (.load program) (.start random) fun halted => by cases halted
  have arrived : loop.cpu.Reachable := afterAll_reachable reachable calls
  have fresh : start.cpu.instructionCount = 0 :=
    congrArg Processor.instructionCount (Cpu.after_load (Cpu.ofBus { random := random }) program)
  have account : Account loop := Account.afterAll (.going rfl rfl rfl fresh) reachable calls
  have counted : loop.frameCount = (start.outcomes calls).countP ranFrame :=
    (frameCount_afterAll reachable calls).trans (Nat.zero_add _)
  refine ⟨counted, account.of_fine, account.of_error, ?stays, account.stopReports⟩
  case stays =>
      intro stopped
      refine ⟨runFrame_of_stopped stopped, ?_⟩
      intro call
      exact ((turn arrived call).stopped stopped).1

end FrameLoop

end Chip8
