import Chip8.Proofs.Effect

namespace Chip8

inductive Part where
  | numbered | index | counter | stack | delay | sound | halted
  | memory | display | keyboard | random
  deriving DecidableEq, Repr

namespace Part

def all : List Part :=
  [numbered, index, counter, stack, delay, sound, halted, memory, display, keyboard, random]

theorem mem_all (part : Part) : part ∈ all := by
  cases part <;> decide

def writers : Part → List Pattern
  | numbered =>
    [.loadByte, .addByte, .copy, .or, .and, .xor, .add, .sub, .shiftRight, .subFrom, .shiftLeft,
     .random, .draw, .readDelay, .waitKey, .restore]
  | index => [.loadIndex, .addIndex, .loadGlyph, .save, .restore]
  | counter =>
    [.ret, .jump, .call, .jumpOffset, .skipEqByte, .skipNeByte, .skipEq, .skipNe, .skipPressed,
     .skipReleased]
  | stack => [.call, .ret]
  | delay => [.setDelay]
  | sound => [.setSound]
  | halted | keyboard => [.waitKey]
  | memory => [.storeDecimal, .save]
  | display => [.clear, .draw]
  | random => [.random]

end Part

/-- A change to one part. Memory and screen keep their size. -/
inductive Changes : Part → Machine → Machine → Prop where
  | numbered (machine : Machine) (registers : Registers)
      (same : registers.control = machine.state.control) :
      Changes .numbered machine (machine.withState registers)
  | index (machine : Machine) (i : Int) :
      Changes .index machine (machine.withState { machine.state with i := i })
  | counter (machine : Machine) (pc : Int) :
      Changes .counter machine (machine.withState { machine.state with pc := pc })
  | stack (machine : Machine) (stack : List Int) :
      Changes .stack machine (machine.withState { machine.state with stack := stack })
  | delay (machine : Machine) (value : Int) :
      Changes .delay machine (machine.withState { machine.state with delayTimer := value })
  | sound (machine : Machine) (value : Int) :
      Changes .sound machine (machine.withState { machine.state with soundTimer := value })
  | halted (machine : Machine) (halted : Bool) :
      Changes .halted machine (machine.withState { machine.state with halted := halted })
  | memory (machine : Machine) (memory : Memory) (same : memory.size = machine.bus.memory.size) :
      Changes .memory machine (machine.withMemory memory)
  | display (machine : Machine) (display : Display)
      (same : display.size = machine.bus.display.size) :
      Changes .display machine (machine.withDisplay display)
  | keyboard (machine : Machine) (keyboard : Keyboard) :
      Changes .keyboard machine (machine.withKeyboard keyboard)
  | random (machine : Machine) (source : RandomSource) :
      Changes .random machine (machine.withRandom source)

def Ignores {γ : Type} (view : Machine → γ) (part : Part) : Prop :=
  ∀ before after, Changes part before after → view after = view before

def Part.Content : Part → Type
  | numbered => Vector Int 16
  | index | counter | delay | sound => Int
  | stack => List Int
  | halted => Bool
  | memory => Memory
  | display => Display
  | keyboard => Keyboard
  | random => RandomSource

def Part.content : (part : Part) → Machine → part.Content
  | numbered, machine => machine.state.v
  | index, machine => machine.state.i
  | counter, machine => machine.state.pc
  | stack, machine => machine.state.stack
  | delay, machine => machine.state.delayTimer
  | sound, machine => machine.state.soundTimer
  | halted, machine => machine.state.halted
  | memory, machine => machine.bus.memory
  | display, machine => machine.bus.display
  | keyboard, machine => machine.bus.keyboard
  | random, machine => machine.bus.random

theorem ignores_content {part other : Part} (differs : other ≠ part) :
    Ignores part.content other := by
  intro before after changed
  cases changed with
  | numbered _ registers same =>
      have kept {γ : Type} (field : Registers → γ) :
          field registers.control = field before.state.control := congrArg field same
      cases part with
      | numbered => exact absurd rfl differs
      | index => exact kept Registers.i
      | counter => exact kept Registers.pc
      | stack => exact kept Registers.stack
      | delay => exact kept Registers.delayTimer
      | sound => exact kept Registers.soundTimer
      | halted => exact kept Registers.halted
      | memory | display | keyboard | random => rfl
  | _ =>
      cases part <;> first
      | rfl
      | exact absurd rfl differs

namespace Effect

open Machine

variable {γ : Type} {view : Machine → γ}

theorem mapRegisters_preserves {change : Registers → Registers}
    (same : ∀ machine : Machine, view (machine.withState (change machine.state)) = view machine) :
    (mapRegisters change).Preserves view := same

theorem numbered_preserves (numbered : Ignores view .numbered) {change : Registers → Registers}
    (same : ∀ registers, (change registers).control = registers.control) :
    (mapRegisters change).Preserves view :=
  fun machine => numbered _ _ (.numbered machine _ (same machine.state))

theorem index_preserves (index : Ignores view .index) (value : Registers → Int) :
    (setIndex value).Preserves view :=
  fun machine => index _ _ (.index machine (value machine.state))

theorem counter_preserves (counter : Ignores view .counter) (target : Registers → Int) :
    (mapRegisters fun registers => { registers with pc := target registers }).Preserves view :=
  fun machine => counter _ _ (.counter machine (target machine.state))

theorem skipIf_preserves (counter : Ignores view .counter) (condition : Registers → Bool) :
    (skipIf condition).Preserves view := by
  intro machine
  change view (machine.withState (Registers.skipIf (condition machine.state) machine.state)) = _
  rw [Registers.skipIf]
  split
  · exact counter _ _ (.counter machine _)
  · rfl

theorem skipIfKey_preserves (counter : Ignores view .counter) (x : Fin 16) (down : Bool) :
    (skipIfKey x down).Preserves view :=
  Action.preserves_get_bind fun _ =>
    (Action.preserves_attempt _ _).bind fun pressed =>
      skipIf_preserves counter fun _ => pressed == down

theorem stack_preserves (counter : Ignores view .counter) (stack : Ignores view .stack)
    (target : Registers → Int) (entries : Registers → List Int) :
    (mapRegisters fun registers =>
      { registers with pc := target registers, stack := entries registers }).Preserves view := by
  intro machine
  have jumped := counter _ _ (.counter machine (target machine.state))
  exact (stack _ _ (.stack _ (entries machine.state))).trans jumped

theorem ret_preserves (counter : Ignores view .counter) (stack : Ignores view .stack)
    (address : Option Int) : (ret address).Preserves view := by
  refine Action.preserves_get_bind fun machine => ?_
  cases machine.state.stack.getLast? with
  | none => exact fun _ => rfl
  | some target =>
      exact stack_preserves counter stack (fun _ => target) fun registers =>
        registers.stack.dropLast

theorem waitKey_preserves (halted : Ignores view .halted) (keyboard : Ignores view .keyboard)
    (numbered : Ignores view .numbered) (x : Fin 16) : (waitKey x).Preserves view := by
  have waits : (mapRegisters fun registers => { registers with halted := true }).Preserves view :=
    fun machine => halted _ _ (.halted machine true)
  refine waits.bind fun _ => Action.preserves_get_bind fun machine => ?_
  cases machine.bus.keyboard.take with
  | mk lowest released =>
      cases lowest with
      | none => exact Action.preserves_pure _ _
      | some key =>
          have takes : (mapKeyboard fun _ => released).Preserves view :=
            fun later => keyboard _ _ (.keyboard later released)
          refine takes.bind fun _ => mapRegisters_preserves fun later => ?_
          have stored := numbered _ _ (.numbered later (later.state.set x key.val) rfl)
          exact (halted _ _ (.halted _ false)).trans stored

theorem random_preserves (random : Ignores view .random) (numbered : Ignores view .numbered)
    (x : Fin 16) (mask : Nat) : (Effect.random x mask).Preserves view := by
  have draws : randomByte.Preserves view := fun machine => random _ _ (.random machine _)
  exact draws.bind fun _ => numbered_preserves numbered fun _ => rfl

theorem draw_preserves (display : Ignores view .display) (numbered : Ignores view .numbered)
    (x y : Fin 16) (height : Nat) : (draw x y height).Preserves view := by
  refine Action.preserves_get_bind fun machine => ?_
  have draws : (onDisplay (Drawing.sprite machine.bus.memory (machine.state.get x) height
      machine.state.i (machine.state.get y))).Preserves view :=
    Action.preserves_within fun later =>
      display _ _ (.display later _ (Drawing.sprite_preserves_size _ _ _ _ _ _))
  exact draws.bind fun _ => numbered_preserves numbered fun _ => rfl

theorem store_preserves (memory : Ignores view .memory) (bytes : Registers → List Int) :
    (store bytes).Preserves view :=
  Action.preserves_get_bind fun _ => Action.preserves_within fun later =>
    memory _ _ (.memory later _ (Memory.load_preserves_size _ _ _))

theorem addIndex_preserves (index : Ignores view .index) (amount : Registers → Int) :
    (mapRegisters fun registers => registers.addIndex (amount registers)).Preserves view :=
  fun machine => index _ _ (.index machine _)

theorem save_preserves (memory : Ignores view .memory) (index : Ignores view .index)
    (x : Fin 16) : (save x).Preserves view :=
  (store_preserves memory _).bind fun _ => addIndex_preserves index fun _ => x.val + 1

theorem restore_preserves (numbered : Ignores view .numbered) (index : Ignores view .index)
    (x : Fin 16) : (restore x).Preserves view := by
  refine Action.preserves_get_bind fun machine => ?_
  have loads : (onRegisters (Registers.fill machine.bus.memory machine.state.i
      ((List.finRange 16).take (x.val + 1)))).Preserves view :=
    Action.preserves_within fun later =>
      numbered _ _ (.numbered later _ (Registers.fill_preserves_control _ _ _ _))
  exact loads.bind fun _ => addIndex_preserves index fun _ => x.val + 1

end Effect

namespace Pattern

open Effect

def parts : Pattern → List Part
  | clear => [.display]
  | ret | call => [.counter, .stack]
  | jump | jumpOffset | skipEqByte | skipNeByte | skipEq | skipNe | skipPressed | skipReleased =>
    [.counter]
  | loadByte | addByte | copy | or | and | xor | add | sub | shiftRight | subFrom | shiftLeft
  | readDelay => [.numbered]
  | loadIndex | addIndex | loadGlyph => [.index]
  | random => [.random, .numbered]
  | draw => [.display, .numbered]
  | waitKey => [.halted, .keyboard, .numbered]
  | setDelay => [.delay]
  | setSound => [.sound]
  | storeDecimal => [.memory]
  | save => [.memory, .index]
  | restore => [.numbered, .index]

theorem effect_preserves {γ : Type} {view : Machine → γ} (pattern : Pattern) (word : Opcode)
    (address : Option Int) (ignored : ∀ part ∈ pattern.parts, Ignores view part) :
    (pattern.effect word address).Preserves view := by
  cases pattern with
  | clear => exact fun machine => ignored .display (by decide) _ _ (.display machine _ rfl)
  | ret => exact ret_preserves (ignored .counter (by decide)) (ignored .stack (by decide)) address
  | call =>
      exact stack_preserves (ignored .counter (by decide)) (ignored .stack (by decide))
        (fun _ => word.nnn) fun registers => registers.stack ++ [registers.pc]
  | jump => exact counter_preserves (ignored .counter (by decide)) fun _ => word.nnn
  | jumpOffset =>
      exact counter_preserves (ignored .counter (by decide)) fun registers =>
        word.nnn + registers.get Registers.first
  | skipEqByte | skipNeByte | skipEq | skipNe =>
      exact skipIf_preserves (ignored .counter (by decide)) _
  | skipPressed => exact skipIfKey_preserves (ignored .counter (by decide)) word.x true
  | skipReleased => exact skipIfKey_preserves (ignored .counter (by decide)) word.x false
  | loadByte | addByte | copy | or | and | xor | add | sub | shiftRight | subFrom | shiftLeft
  | readDelay =>
      exact fun machine => ignored .numbered (by decide) _ _ (.numbered machine _ rfl)
  | loadIndex => exact index_preserves (ignored .index (by decide)) fun _ => word.nnn
  | addIndex =>
      exact addIndex_preserves (ignored .index (by decide)) fun registers => registers.get word.x
  | loadGlyph =>
      exact index_preserves (ignored .index (by decide)) fun registers =>
        registers.get word.x * Font.glyphSize
  | random =>
      exact random_preserves (ignored .random (by decide)) (ignored .numbered (by decide)) word.x
        word.nn
  | draw =>
      exact draw_preserves (ignored .display (by decide)) (ignored .numbered (by decide)) word.x
        word.y word.n
  | waitKey =>
      exact waitKey_preserves (ignored .halted (by decide)) (ignored .keyboard (by decide))
        (ignored .numbered (by decide)) word.x
  | setDelay => exact fun machine => ignored .delay (by decide) _ _ (.delay machine _)
  | setSound => exact fun machine => ignored .sound (by decide) _ _ (.sound machine _)
  | storeDecimal => exact store_preserves (ignored .memory (by decide)) (storeDecimal.stored word)
  | save =>
      exact save_preserves (ignored .memory (by decide)) (ignored .index (by decide)) word.x
  | restore =>
      exact restore_preserves (ignored .numbered (by decide)) (ignored .index (by decide)) word.x

theorem effect_keeps (part : Part) {pattern : Pattern} (untouched : part ∉ pattern.parts)
    (word : Opcode) (address : Option Int) :
    (pattern.effect word address).Preserves part.content :=
  effect_preserves pattern word address fun _ member =>
    ignores_content fun same => untouched (same ▸ member)

/-- The two tables, by instruction and by part, say the same. -/
theorem mem_parts {part : Part} {pattern : Pattern} :
    part ∈ pattern.parts ↔ pattern ∈ part.writers := by
  have tables : ∀ pattern ∈ all, ∀ part ∈ Part.all,
      (part ∈ pattern.parts ↔ pattern ∈ part.writers) := by
    decide +kernel
  exact tables pattern (mem_all pattern) part (Part.mem_all part)

theorem effect_keeps_of_other {part : Part} {pattern : Pattern} (other : pattern ∉ part.writers)
    (word : Opcode) (address : Option Int) :
    (pattern.effect word address).Preserves part.content :=
  effect_keeps part (mt mem_parts.mp other) word address

end Pattern

def Machine.shape (machine : Machine) : Nat × (Int × Int) :=
  (machine.bus.memory.size, machine.bus.display.size)

theorem ignores_shape (part : Part) : Ignores Machine.shape part := by
  intro before after changed
  cases changed with
  | memory _ _ same | display _ _ same => simp [Machine.shape, Machine.withMemory,
      Machine.withDisplay, same]
  | _ => rfl

end Chip8
