import Chip8.Memory
import Chip8.Processor

namespace Chip8.Probe

inductive Hook where
  | initial
  | fetch
  | advance
  | decode
  | execute
  deriving DecidableEq, Repr

def Hook.label : Hook → String
  | .initial => "state"
  | .fetch => "fetch"
  | .advance => "update_pc"
  | .decode => "decode"
  | .execute => "execute"

def Hook.ofLabel? (label : String) : Option Hook :=
  [initial, fetch, advance, decode, execute].find? fun hook => hook.label = label

inductive Refusal where
  | fault (fault : Fault)
  | refused (hook : Hook)

def Refusal.message : Refusal → String
  | .fault cause => cause.message
  | .refused hook => "failed in " ++ hook.label

structure Bus where
  memory : Memory
  failing : Option Hook
  calls : List Hook := []

def note (hook : Hook) : Action Refusal Bus Unit := do
  modify fun bus => { bus with calls := bus.calls ++ [hook] }
  if (← get).failing = some hook then throw (.refused hook)

def onBus {α : Type} (action : Action Refusal Bus α) : Action Refusal (Core Int Bus) α :=
  Action.within Core.bus (fun core bus => { core with bus := bus }) action

def hooks : Hooks Refusal Int Bus where
  initial := do
    note .initial
    return Memory.programStart
  pc := id
  fetch := do
    onBus (note .fetch)
    let core ← get
    Action.attempt ((core.bus.memory.readWord core.state).mapError .fault)
  advance := do
    onBus (note .advance)
    modify fun core => { core with state := core.state + 2 }
  decode word address := do
    onBus (note .decode)
    return { opcode := word, pattern := "TEST", mnemonic := "TEST", address := some address }
  execute _ := onBus (note .execute)

end Chip8.Probe
