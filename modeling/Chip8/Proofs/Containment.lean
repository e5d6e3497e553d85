import Chip8.Proofs.FrameLoop
import Chip8.Proofs.Loading
import Chip8.Proofs.Settings

namespace Chip8

namespace Config

/-- Settings as a start-up uses them: those of a file or of a document, or the usual ones. -/
inductive Loaded (config : Config) : Prop where
  | file {files : String → Except FileTree.Refusal ByteArray} {path : String} :
      ofFile files path = .ok config → Loaded config
  | value {value : Yaml.Value} : ofValue value = .ok config → Loaded config
  | usual : config = {} → Loaded config

theorem Loaded.onKeypad {config : Config} (loaded : config.Loaded) : config.keyMap.OnKeypad := by
  cases loaded with
  | file read => exact ofFile_onKeypad read
  | value read => exact ofValue_onKeypad read
  | usual same =>
      rw [same]
      exact KeyMap.default_onKeypad

end Config

namespace FrameLoop

def escaped : Except Fault Answer → Bool
  | .ok _ => false
  | .error _ => true

variable {loop next : FrameLoop} {call : Call} {outcome : Except Fault Answer}

/-- A fault that escapes is fatal, comes from a frame, and is the loop's error from then on. -/
theorem Turn.of_escape {fault : Fault} (turn : Turn loop call (.error fault) next)
    (keys : loop.keyMap.OnKeypad) :
    loop.running = true ∧ call = .runFrame ∧ fault.kind? ≠ none ∧ next.running = false ∧
      next.error = some fault := by
  cases turn with
  | failure running _ fatal =>
      refine ⟨running, rfl, ?_, rfl, rfl⟩
      rw [fatal]
      exact Option.some_ne_none _
  | unknown mapped outside => exact absurd (keys _ _ mapped) outside

theorem escaped_of_stopped (reachable : loop.cpu.Reachable) (keys : loop.keyMap.OnKeypad)
    (stopped : loop.running = false) (calls : List Call) :
    (loop.outcomes calls).countP escaped = 0 := by
  induction calls generalizing loop with
  | nil => rfl
  | cons call rest ih =>
      have turn := turn reachable call
      have still := (turn.stopped stopped).1
      have later := ih (after_reachable reachable call) (turn.settings.1 ▸ keys) still
      rw [outcomes, List.countP_cons, later]
      cases result : call.action.outcome loop with
      | ok answer => rfl
      | error fault =>
          rw [result] at turn
          have running := (turn.of_escape keys).1
          rw [running] at stopped
          cases stopped

theorem escaped_le_one (reachable : loop.cpu.Reachable) (keys : loop.keyMap.OnKeypad)
    (calls : List Call) : (loop.outcomes calls).countP escaped ≤ 1 := by
  induction calls generalizing loop with
  | nil => exact Nat.zero_le 1
  | cons call rest ih =>
      have turn := turn reachable call
      have arrived := after_reachable reachable call
      have same : (loop.after call).keyMap.OnKeypad := turn.settings.1 ▸ keys
      rw [outcomes, List.countP_cons]
      cases result : call.action.outcome loop with
      | ok answer => exact ih arrived same
      | error fault =>
          -- The fault has stopped the loop, and nothing escapes from a stopped one.
          rw [result] at turn
          have stopped := (turn.of_escape keys).2.2.2.1
          rw [escaped_of_stopped arrived same stopped rest]
          exact Nat.le_refl 1

/-- Whatever is asked of a loop as a start-up builds it, nothing but a fatal error of a frame
escapes. It escapes once, the loop keeps it as its error, and runs no frame afterwards. -/
theorem faults_contained {host : Host} {path : String} {log later : List Log.Record} {cpu : Cpu}
    {config : Config} (created : Startup.createCpu host path log = .ok cpu later)
    (loaded : config.Loaded) (calls : List Call) :
    let start : FrameLoop := { cpu, keyMap := config.keyMap, quitKey := config.quitKey }
    (start.outcomes calls).countP escaped ≤ 1 ∧
    ∀ (call : Call) (fault : Fault) (next : FrameLoop),
      call.action (start.afterAll calls) = .error fault next →
      call = .runFrame ∧
      fault.kind? ∈ [some .decode, some .stackUnderflow, some .memoryBounds, some .keyBounds] ∧
      next.running = false ∧ next.error = some fault ∧
      ∀ more, (next.afterAll more).running = false ∧ (next.afterAll more).error = some fault ∧
        FrameLoop.runFrame (next.afterAll more) = .ok false (next.afterAll more) := by
  intro start
  obtain ⟨program, same⟩ := Startup.createCpu_eq_ok created
  have reachable : start.cpu.Reachable := by
    change cpu.Reachable
    rw [same]
    exact .event (.load program) (.start host.random) fun halted => by cases halted
  refine ⟨escaped_le_one reachable loaded.onKeypad calls, ?_⟩
  intro call fault next refused
  have arrived := afterAll_reachable reachable calls
  have keys : (start.afterAll calls).keyMap.OnKeypad := by
    rw [afterAll_keyMap reachable calls]
    exact loaded.onKeypad
  have turn := turn arrived call
  rw [Action.outcome_of_error refused, FrameLoop.after, Action.after_of_error refused] at turn
  obtain ⟨-, frame, fatal, stopped, error⟩ := turn.of_escape keys
  refine ⟨frame, ?_, stopped, error, ?_⟩
  · cases fault with
    | unknownKey key => by_cases long : Numeral.Endless key <;> simp [Fault.kind?, long] at fatal ⊢
    | _ => simp [Fault.kind?] at fatal ⊢
  · intro more
    obtain ⟨still, kept⟩ := afterAll_stopped (turn.reachable arrived) stopped more
    exact ⟨still, kept.trans error, runFrame_of_stopped still⟩

theorem runFrame_of_refused {fault : Fault} {left : Cpu} (running : loop.running = true)
    (refused : Cpu.step (loop.cpu.after .tick) = .error fault left) :
    ∃ next, Call.runFrame.action loop = .error fault next := by
  have stopped : Action.times Cpu.step instructionsPerFrame (loop.cpu.after .tick) =
      .error fault left := Action.bind_of_error refused
  exact ⟨_, Action.bind_of_error (runFrame_of_error running stopped)⟩

def strayReturn : Host where
  configPath := none
  read _ := .ok ⟨#[0x00, 0xEE]⟩

theorem strayReturn_created : ∃ log, Startup.createCpu strayReturn "return.ch8" [] =
    .ok (Cpu.loaded [0x00, 0xEE]) log := by
  have read : Rom.ofFile strayReturn.read "return.ch8" = .ok ⟨[0x00, 0xEE]⟩ := by cbv
  exact Startup.createCpu_of_fits read (by decide) []

theorem step_strayReturn : ∃ left, Cpu.step ((Cpu.loaded [0x00, 0xEE]).after .tick) =
    .error (.emptyStack (some 0x200)) left := by
  have fetches : ((Cpu.loaded [0x00, 0xEE]).after .tick).Fetches 0x00EE .ret :=
    Cpu.fetches_of_loaded .default [0x00, 0xEE] rfl (by decide) 0 (by decide) rfl rfl
  have refused : ((Cpu.loaded [0x00, 0xEE]).after .tick).executing 0x00EE .ret =
      .error (.emptyStack (some 0x200)) ((Cpu.loaded [0x00, 0xEE]).after .tick).fetched :=
    Effect.ret_of_empty (some 0x200) rfl
  exact ⟨_, Cpu.step_of_refused fetches refused⟩

def oneMoreKey : Yaml.Value := .map [(.text "key_map", .map [(.text "space", .scalar (.int 5))])]

theorem faults_contained_return :
    ∃ config log, Config.ofValue oneMoreKey = .ok config ∧ config.keyMap.get? "space" = some 5 ∧
      Startup.createCpu strayReturn "return.ch8" [] = .ok (Cpu.loaded [0x00, 0xEE]) log ∧
      ∃ next, Call.runFrame.action
          { cpu := Cpu.loaded [0x00, 0xEE], keyMap := config.keyMap, quitKey := config.quitKey } =
            .error (.emptyStack (some 0x200)) next ∧
        next.error = some (.emptyStack (some 0x200)) ∧
        FrameLoop.runFrame next = .ok false next := by
  obtain ⟨log, created⟩ := strayReturn_created
  obtain ⟨config, read, mapped⟩ : ∃ config, Config.ofValue oneMoreKey = .ok config ∧
      config.keyMap.get? "space" = some 5 := ⟨_, rfl, by decide⟩
  obtain ⟨left, refused⟩ := step_strayReturn
  have running : FrameLoop.running
      { cpu := Cpu.loaded [0x00, 0xEE], keyMap := config.keyMap, quitKey := config.quitKey } := rfl
  obtain ⟨next, failed⟩ := runFrame_of_refused running refused
  obtain ⟨-, contained⟩ := faults_contained created (.value read) []
  obtain ⟨-, -, -, error, stays⟩ := contained .runFrame _ _ failed
  exact ⟨config, log, read, mapped, created, _, failed, error, (stays []).2.2⟩

end FrameLoop

end Chip8
