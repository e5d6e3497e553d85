import Chip8.Proofs.Digits
import Chip8.Proofs.Effect
/-!
The ranges that registers stay in. Instructions mask some results and not others; what keeps the
others small is that they are computed from bytes, from twelve-bit addresses and from a program
counter that has just been fetched from.
-/

namespace Chip8

def IsByte (value : Int) : Prop := 0 ≤ value ∧ value < 256

instance (value : Int) : Decidable (IsByte value) :=
  inferInstanceAs (Decidable (0 ≤ value ∧ value < 256))

theorem isByte_emod (value : Int) : IsByte (value % 256) :=
  ⟨Int.emod_nonneg value (by decide), Int.emod_lt_of_pos value (by decide)⟩

theorem isByte_toNat (byte : UInt8) : IsByte byte.toNat :=
  ⟨Int.natCast_nonneg _, Int.ofNat_lt.mpr byte.toNat_lt⟩

theorem isByte_natCast (value : Nat) (small : value < 256) : IsByte value :=
  ⟨Int.natCast_nonneg value, Int.ofNat_lt.mpr small⟩

theorem IsByte.half {value : Int} (byte : IsByte value) : IsByte (value / 2) := by
  obtain ⟨low, high⟩ := byte
  exact ⟨by omega, by omega⟩

theorem IsByte.exists_nat {value : Int} (byte : IsByte value) :
    ∃ small : Nat, small < 256 ∧ value = small :=
  ⟨value.toNat, by have := byte.2; omega, (Int.toNat_of_nonneg byte.1).symm⟩

theorem IsByte.not_endless {value : Int} (byte : IsByte value) : ¬Numeral.Endless value := by
  obtain ⟨low, high⟩ := byte
  exact Numeral.not_endless_of_lt (by omega)

theorem Drawing.placed_of_bytes {x y : Int} (column : IsByte x) (row : IsByte y) : Placed x y := by
  obtain ⟨left, narrow⟩ := column
  obtain ⟨top, low⟩ := row
  refine ⟨left, ?_, top, ?_⟩ <;> rw [Index.wordLimit] <;> omega

theorem isByte_or {left right : Int} (first : IsByte left) (second : IsByte right) :
    IsByte (Bitwise.or left right) := by
  obtain ⟨m, small, rfl⟩ := first.exists_nat
  obtain ⟨n, short, rfl⟩ := second.exists_nat
  rw [Bitwise.or_natCast]
  exact isByte_natCast _ (@Nat.or_lt_two_pow m n 8 small short)

theorem isByte_and {left right : Int} (first : IsByte left) (second : IsByte right) :
    IsByte (Bitwise.and left right) := by
  obtain ⟨m, small, rfl⟩ := first.exists_nat
  obtain ⟨n, short, rfl⟩ := second.exists_nat
  rw [Bitwise.and_natCast]
  exact isByte_natCast _ (@Nat.and_lt_two_pow m n 8 short)

theorem isByte_xor {left right : Int} (first : IsByte left) (second : IsByte right) :
    IsByte (Bitwise.xor left right) := by
  obtain ⟨m, small, rfl⟩ := first.exists_nat
  obtain ⟨n, short, rfl⟩ := second.exists_nat
  rw [Bitwise.xor_natCast]
  exact isByte_natCast _ (@Nat.xor_lt_two_pow m n 8 small short)

namespace Registers

structure InRange (registers : Registers) : Prop where
  bytes : ∀ index, IsByte (registers.get index)
  index : 0 ≤ registers.i ∧ registers.i < 0x10000
  counter : 0 ≤ registers.pc ∧ registers.pc ≤ 0x10FE
  returns : ∀ target ∈ registers.stack, 2 ≤ target ∧ target ≤ 0x1000
  delay : IsByte registers.delayTimer
  sound : IsByte registers.soundTimer

variable {registers : Registers}

theorem initial_inRange : InRange {} where
  bytes := by decide
  index := by decide
  counter := by decide
  returns := by decide
  delay := by decide
  sound := by decide

theorem InRange.sixteenBits (range : registers.InRange) :
    0 ≤ registers.pc ∧ registers.pc < 0x10000 :=
  ⟨range.counter.1, Int.lt_of_le_of_lt range.counter.2 (by decide)⟩

theorem InRange.set (range : registers.InRange) (index : Fin 16) {value : Int}
    (byte : IsByte value) : (registers.set index value).InRange where
  bytes := by
    intro other
    rw [get_set]
    split
    · exact byte
    · exact range.bytes other
  index := range.index
  counter := range.counter
  returns := range.returns
  delay := range.delay
  sound := range.sound

theorem InRange.setFlag (range : registers.InRange) (value : Int) :
    (registers.setFlag value).InRange :=
  range.set flag (isByte_emod value)

theorem InRange.goto (range : registers.InRange) {target : Int} (low : 0 ≤ target)
    (high : target ≤ 0x10FE) : InRange { registers with pc := target } :=
  { range with counter := ⟨low, high⟩ }

theorem InRange.pointTo (range : registers.InRange) {index : Int} (low : 0 ≤ index)
    (high : index < 0x10000) : InRange { registers with i := index } :=
  { range with index := ⟨low, high⟩ }

theorem InRange.addIndex (range : registers.InRange) (amount : Int) :
    (registers.addIndex amount).InRange :=
  range.pointTo (Int.emod_nonneg _ (by decide)) (Int.emod_lt_of_pos _ (by decide))

theorem InRange.skipIf (range : registers.InRange) (condition : Bool) (low : 0 ≤ registers.pc)
    (high : registers.pc ≤ 0x1000) : (skipIf condition registers).InRange := by
  rw [Registers.skipIf]
  split
  · exact range.goto (Int.emod_nonneg _ (by decide)) (by rw [instructionLength]; omega)
  · exact range

theorem InRange.tick (range : registers.InRange) : registers.tick.InRange := by
  rw [Registers.tick]
  split
  · have below := range.delay.2
    have lower : IsByte (registers.delayTimer - 1) := ⟨by omega, by omega⟩
    exact { range with delay := lower }
  · exact range

theorem InRange.fill (range : registers.InRange) (memory : Memory) (address : Int)
    (indices : List (Fin 16)) : ((fill memory address indices).after registers).InRange := by
  induction indices generalizing address registers with
  | nil => exact range
  | cons index rest ih =>
      cases found : memory.read address with
      | error fault =>
          rw [Action.after_of_error (fill_cons_of_missing found index rest registers)]
          exact range
      | ok byte =>
          rw [after_fill_cons found]
          exact ih (range.set index (isByte_toNat byte)) (address + 1)

end Registers

namespace Effect

open Machine

variable {machine : Machine}

theorem ret_inRange (range : machine.state.InRange) (address : Option Int) :
    ((ret address).after machine).state.InRange := by
  rcases List.eq_nil_or_concat machine.state.stack with empty | ⟨older, target, called⟩
  · rw [Action.after_of_error (ret_of_empty address empty)]
    exact range
  · rw [List.concat_eq_append] at called
    rw [Action.after_of_ok (ret_of_call address called)]
    have latest : target ∈ machine.state.stack := by simp [called]
    have bounds := range.returns target latest
    have olderRange : ∀ other ∈ older, 2 ≤ other ∧ other ≤ 0x1000 := by
      intro other member
      exact range.returns other (by simp [called, member])
    have counter : 0 ≤ target ∧ target ≤ 0x10FE := by omega
    exact { range with counter := counter, returns := olderRange }

theorem call_inRange (range : machine.state.InRange) (low : 2 ≤ machine.state.pc)
    (high : machine.state.pc ≤ 0x1000) (word : Opcode) :
    ((call word.nnn).after machine).state.InRange := by
  have short := word.nnn_lt
  have returns : ∀ target ∈ machine.state.stack ++ [machine.state.pc],
      2 ≤ target ∧ target ≤ 0x1000 := by
    intro target member
    rcases List.mem_append.mp member with older | latest
    · exact range.returns target older
    · rw [List.mem_singleton.mp latest]
      exact ⟨low, high⟩
  have counter : 0 ≤ (word.nnn : Int) ∧ (word.nnn : Int) ≤ 0x10FE := by omega
  exact { range with counter := counter, returns := returns }

theorem skipIfKey_inRange (range : machine.state.InRange) (low : 0 ≤ machine.state.pc)
    (high : machine.state.pc ≤ 0x1000) (x : Fin 16) (down : Bool) :
    ((skipIfKey x down).after machine).state.InRange := by
  by_cases known : 0 ≤ machine.state.get x ∧ machine.state.get x < 16
  · obtain ⟨pressed, -, went⟩ := skipIfKey_of_key x down known.1 known.2
    rw [Action.after_of_ok went]
    exact range.skipIf _ low high
  · rw [Action.after_of_error (skipIfKey_of_unknown x down known)]
    exact range

theorem waitKey_inRange (range : machine.state.InRange) (x : Fin 16) :
    ((waitKey x).after machine).state.InRange := by
  cases lowest : machine.bus.keyboard.pressed.head? with
  | none =>
      rw [Action.after_of_ok (waitKey_of_released x lowest)]
      exact { range with }
  | some key =>
      rw [Action.after_of_ok (waitKey_of_pressed x lowest)]
      have stored := range.set x (isByte_natCast key.val (by omega))
      exact { stored with }

theorem random_inRange (range : machine.state.InRange) (x : Fin 16) (mask : Nat) :
    ((random x mask).after machine).state.InRange := by
  rw [Action.after_of_ok (random_apply x mask)]
  exact range.set x (isByte_natCast _ (Nat.lt_of_le_of_lt Nat.and_le_left (UInt8.toNat_lt _)))

theorem draw_inRange (range : machine.state.InRange) (x y : Fin 16) (height : Nat) :
    ((draw x y height).after machine).state.InRange := by
  cases result : Drawing.sprite machine.bus.memory (machine.state.get x) height machine.state.i
      (machine.state.get y) machine.bus.display with
  | ok erased drawn =>
      rw [Action.after_of_ok (draw_of_drawn x y height result)]
      exact range.setFlag _
  | error fault drawn =>
      rw [Action.after_of_error (draw_of_refused x y height result)]
      exact range

theorem store_inRange (range : machine.state.InRange) (bytes : Registers → List Int) :
    ((store bytes).after machine).state.InRange := by
  rw [after_store]
  exact range

theorem save_inRange (range : machine.state.InRange) (x : Fin 16) :
    ((save x).after machine).state.InRange := by
  cases result : Memory.load machine.state.i (machine.state.firstValues x) machine.bus.memory with
  | ok value memory =>
      rw [Action.after_of_ok (save_of_loaded x result)]
      exact range.addIndex _
  | error fault memory =>
      rw [Action.after_of_error (save_of_refused x result)]
      exact range

theorem restore_inRange (range : machine.state.InRange) (x : Fin 16) :
    ((restore x).after machine).state.InRange := by
  have filled := range.fill machine.bus.memory machine.state.i (Registers.upTo x)
  cases result : Registers.fill machine.bus.memory machine.state.i (Registers.upTo x)
      machine.state with
  | ok value registers =>
      rw [Action.after_of_ok result] at filled
      rw [Action.after_of_ok (restore_of_filled x result)]
      exact filled.addIndex _
  | error fault registers =>
      rw [Action.after_of_error result] at filled
      rw [Action.after_of_error (restore_of_refused x result)]
      exact filled

end Effect

/-- What an instruction leaves in the registers, refused or not, after it has been fetched. -/
theorem Pattern.effect_inRange (pattern : Pattern) (word : Opcode) (address : Option Int)
    {machine : Machine} (range : machine.state.InRange) (low : 2 ≤ machine.state.pc)
    (high : machine.state.pc ≤ 0x1000) :
    ((pattern.effect word address).after machine).state.InRange := by
  have short := word.nnn_lt
  have target : 0 ≤ (word.nnn : Int) ∧ (word.nnn : Int) < 0x1000 := by omega
  have byte := isByte_natCast word.nn word.nn_lt
  have vx := range.bytes word.x
  have vy := range.bytes word.y
  have reach : 0 ≤ machine.state.pc := by omega
  cases pattern with
  | clear => exact range
  | ret => exact Effect.ret_inRange range address
  | jump => exact range.goto target.1 (by omega)
  | call => exact Effect.call_inRange range low high word
  | skipEqByte | skipNeByte | skipEq | skipNe => exact range.skipIf _ reach high
  | loadByte => exact range.set word.x byte
  | addByte => exact range.set word.x (isByte_emod _)
  | copy => exact range.set word.x vy
  | or => exact range.set word.x (isByte_or vx vy)
  | and => exact range.set word.x (isByte_and vx vy)
  | xor => exact range.set word.x (isByte_xor vx vy)
  | add | sub | subFrom | shiftLeft => exact (range.set word.x (isByte_emod _)).setFlag _
  | shiftRight => exact (range.set word.x vy.half).setFlag _
  | loadIndex =>
      have index : (word.nnn : Int) < 0x10000 := by omega
      exact range.pointTo target.1 index
  | jumpOffset =>
      -- From the last address that a word can name, the largest byte further.
      have offset := range.bytes Registers.first
      have counter : 0 ≤ word.nnn + machine.state.get Registers.first ∧
          word.nnn + machine.state.get Registers.first ≤ 0x10FE := by
        rw [IsByte] at offset
        omega
      exact range.goto counter.1 counter.2
  | random => exact Effect.random_inRange range word.x word.nn
  | draw => exact Effect.draw_inRange range word.x word.y word.n
  | skipPressed => exact Effect.skipIfKey_inRange range reach high word.x true
  | skipReleased => exact Effect.skipIfKey_inRange range reach high word.x false
  | readDelay => exact range.set word.x range.delay
  | waitKey => exact Effect.waitKey_inRange range word.x
  | setDelay => exact { range with delay := vx }
  | setSound => exact { range with sound := vx }
  | addIndex => exact range.addIndex _
  | loadGlyph =>
      have glyph : 0 ≤ machine.state.get word.x * Font.glyphSize ∧
          machine.state.get word.x * Font.glyphSize < 0x10000 := by
        rw [IsByte] at vx
        rw [Font.glyphSize]
        omega
      exact range.pointTo glyph.1 glyph.2
  | storeDecimal =>
      exact Effect.store_inRange range fun registers =>
        Registers.decimalDigits (registers.get word.x)
  | save => exact Effect.save_inRange range word.x
  | restore => exact Effect.restore_inRange range word.x

end Chip8
