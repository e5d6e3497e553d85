import Chip8.Action
import Chip8.Operation
/-!
The instruction cycle, for any machine: halt, fetch, advance, decode, execute. A machine fills in
these hooks; the cycle fixes their order, stops at the first refusal, and counts the instructions
that went through.
-/

namespace Chip8

structure Core (σ β : Type) where
  state : σ
  bus : β

structure Processor (σ β : Type) extends Core σ β where
  instructionCount : Nat

/-- `decode` gets the fetched word and the program counter as it was before `advance`. -/
structure Hooks (ε σ β : Type) where
  initial : Action ε β σ
  pc : σ → Int
  halt : Action ε (Core σ β) Unit := pure ()
  fetch : Action ε (Core σ β) Opcode
  advance : Action ε (Core σ β) Unit
  decode : Opcode → Int → Action ε (Core σ β) Operation
  execute : Operation → Action ε (Core σ β) Unit

namespace Hooks

variable {ε σ β : Type}

def cycle (hooks : Hooks ε σ β) : Action ε (Core σ β) Operation := do
  hooks.halt
  let address := hooks.pc (← get).state
  let word ← hooks.fetch
  hooks.advance
  let operation ← hooks.decode word address
  hooks.execute operation
  return operation

/-- One cycle. Only one that went through is counted. -/
def step (hooks : Hooks ε σ β) : Action ε (Processor σ β) Operation := fun processor =>
  match hooks.cycle processor.toCore with
  | .ok operation core => .ok operation ⟨core, processor.instructionCount + 1⟩
  | .error refusal core => .error refusal ⟨core, processor.instructionCount⟩

def build (hooks : Hooks ε σ β) (bus : β) : Except ε (Processor σ β) :=
  match hooks.initial bus with
  | .ok state bus => .ok ⟨⟨state, bus⟩, 0⟩
  | .error refusal _ => .error refusal

/-- Starts over. If the initial state is refused, state and count stay. -/
def reset (hooks : Hooks ε σ β) : Action ε (Processor σ β) Unit := fun processor =>
  match hooks.initial processor.bus with
  | .ok state bus => .ok () ⟨⟨state, bus⟩, 0⟩
  | .error refusal bus => .error refusal ⟨⟨processor.state, bus⟩, processor.instructionCount⟩

end Hooks

end Chip8
