import Chip8.Proofs.Parity
import Chip8.Proofs.Replay
import Chip8.Proofs.SaveRestore
/-!
Showing a number: its decimal digits are stored, read back into the first registers, and drawn with
the glyphs of the font. The digits must not be stored over the font, and a program that never stores
there has the font for ever.
-/

namespace Chip8

open Drawing (HasCells spot)

namespace Font

def row (digit line : Nat) : UInt8 := byteAt (digit * glyphSize + line)

def hits (size : Int × Int) (x y : Int) (digit : Nat) (cell : Int × Int) : Nat :=
  (List.range glyphSize ×ˢ List.range 8).countP fun (line, place) =>
    (row digit line).toNat.testBit (7 - place) &&
      decide (((x + place) % size.1, (y + line) % 256 % size.2) = cell)

end Font

theorem Memory.HoldsFont.read_row {memory : Memory} (font : memory.HoldsFont) {digit line : Nat}
    (small : digit ≤ 15) (inside : line < Font.glyphSize) :
    memory.read (digit * Font.glyphSize + line : Nat) = .ok (Font.row digit line) := by
  apply font
  rw [Font.glyphSize] at inside
  rw [Font.glyphSize, Font.size]
  omega

theorem Memory.holdsFont_default : Memory.default.HoldsFont :=
  Memory.holdsFont_ofSize (by decide)

theorem Memory.HoldsFont.room {memory : Memory} (font : memory.HoldsFont) :
    Font.size ≤ memory.size := by
  have last := Memory.inside_of_read (font (Font.size - 1) (by decide))
  rw [Font.size] at last ⊢
  omega

namespace Registers

def digits (value : Int) : Registers :=
  { v := .ofFn fun index => (decimalDigits value).getD index.val 0 }

theorem get_digits (value : Int) (index : Fin 16) :
    (digits value).get index = (decimalDigits value).getD index.val 0 :=
  Vector.getElem_ofFn index.isLt

theorem digits_of_byte {value : Int} (byte : IsByte value) (index : Fin 16) :
    0 ≤ (digits value).get index ∧ (digits value).get index ≤ 9 := by
  obtain ⟨low, high⟩ := byte
  have hundreds : 0 ≤ value / 100 ∧ value / 100 ≤ 9 := by omega
  have tens : 0 ≤ value / 10 % 10 ∧ value / 10 % 10 ≤ 9 := by omega
  have ones : 0 ≤ value % 10 ∧ value % 10 ≤ 9 := by omega
  rw [get_digits, decimalDigits]
  match index with
  | 0 => exact hundreds
  | 1 => exact tens
  | 2 => exact ones
  | ⟨place + 3, _⟩ => simp

theorem sum_digits (value : Int) :
    100 * (digits value).get 0 + 10 * (digits value).get 1 + (digits value).get 2 = value := by
  simp [get_digits, decimalDigits]
  omega

end Registers

variable {machine : Machine} {x : Fin 16} {value address : Int}

theorem Memory.holds_digits {memory done : Memory} (byte : IsByte value) (low : 0 ≤ address)
    (went : load address (Registers.decimalDigits value) memory = .ok () done) :
    done.Holds address (Registers.digits value) 2 := by
  intro index within
  have first : index.val < 3 := Nat.lt_succ_of_le within
  have place : (address + index.val - address).toNat = index.val := by omega
  have length : (Registers.decimalDigits value).length = 3 := rfl
  have found : done.read (address + index.val) = _ :=
    read_of_loaded went low (by omega) (by omega)
  have digit := Registers.digits_of_byte byte index
  rw [place, ← Registers.get_digits] at found
  refine ⟨_, found, ?_⟩
  rw [toNat_lowByte, Int.emod_eq_of_lt digit.1 (by omega)]

namespace Machine

def pointingAt (machine : Machine) (address : Int) : Machine :=
  machine.withState { machine.state with i := address }

/-- The decimal digits of what `x` held are in the first three registers, and in the cells from the
index register on. -/
structure Splits (before : Machine) (x : Fin 16) (after : Machine) : Prop where
  digits : ∀ index ≤ 2, 0 ≤ after.state.get index ∧ after.state.get index ≤ 9
  value : 100 * after.state.get 0 + 10 * after.state.get 1 + after.state.get 2 =
    before.state.get x
  others : ∀ index, 2 < index → after.state.get index = before.state.get index
  stored : after.bus.memory.Holds before.state.i after.state 2
  cells : ∀ place, place < before.state.i ∨ before.state.i + 2 < place →
    after.bus.memory.read place = before.bus.memory.read place
  rest : after = (before.withMemory after.bus.memory).withState
    { before.state with v := after.state.v, i := before.state.i + 3 }

structure PointsAtGlyph (machine : Machine) (digit : Nat) : Prop where
  low : 0 ≤ machine.state.i
  high : machine.state.i + Font.glyphSize ≤ machine.bus.memory.size
  rows : ∀ line < Font.glyphSize,
    machine.bus.memory.read (machine.state.i + line) = .ok (Font.row digit line)

/-- The glyph for a digit is on the screen, its upper left corner at `(x, y)`: each cell is flipped
as often as lit pixels come to it. On the standard screen this means that the rows of the glyph are
combined with the cells that were there by exclusive or, and that the other cells are as before. -/
structure DrawsGlyph (before : Machine) (digit : Nat) (x y : Int) (after : Machine) : Prop where
  drawn : Stamp.Drawn before.bus (Font.hits before.bus.display.size x y digit) after.bus
  pixels : before.bus.display.size = (64, 32) →
    ∀ line < Font.glyphSize, ∀ place : Nat, place < 8 →
    ∃ old, before.bus.display.get ((x + place) % 64) ((y + line) % 32) = .ok old ∧
      after.bus.display.get ((x + place) % 64) ((y + line) % 32) =
        .ok (old ^^ (Font.row digit line).toNat.testBit (7 - place))
  others : before.bus.display.size = (64, 32) → ∀ column row : Int,
    0 ≤ column → column < 64 → 0 ≤ row → row < 32 →
    (∀ line < Font.glyphSize, ∀ place < 8, (column, row) ≠ spot x y line place) →
      after.bus.display.get column row = before.bus.display.get column row

theorem splits_of_restores {filled : Machine} {memory : Memory}
    (byte : IsByte (machine.state.get x)) (low : 0 ≤ machine.state.i)
    (went : Memory.load machine.state.i (Registers.decimalDigits (machine.state.get x))
      machine.bus.memory = .ok () memory)
    (restores : ((machine.withMemory memory).pointingAt machine.state.i).Restores 2
      (Registers.digits (machine.state.get x)) filled) :
    machine.Splits x filled := by
  have same : filled.bus.memory = memory := restores.memory_eq
  refine ⟨?digits, ?value, restores.others, ?stored, ?cells, ?rest⟩
  case digits =>
    intro index first
    rw [restores.block index first]
    exact Registers.digits_of_byte byte index
  case value =>
    rw [restores.block 0 (by decide), restores.block 1 (by decide), restores.block 2 (by decide),
      Registers.sum_digits]
  case stored =>
    intro index first
    rw [same, restores.block index first]
    exact Memory.holds_digits byte low went index first
  case cells =>
    intro place beside
    have length : (Registers.decimalDigits (machine.state.get x)).length = 3 := rfl
    rw [same, ← Action.after_of_ok went]
    apply Memory.read_after_load_of_beside
    omega
  case rest =>
    have behind : machine.state.i + ((2 : Fin 16).val : Int) + 1 = machine.state.i + 3 := by omega
    have rest := restores.rest
    change filled = ((machine.withMemory memory).pointingAt machine.state.i).withState
      { machine.state with v := filled.state.v, i := machine.state.i + (2 : Fin 16).val + 1 }
        at rest
    rw [behind] at rest
    rw [same]
    exact rest

theorem Splits.bytes {after : Machine} (splits : machine.Splits x after)
    (bytes : ∀ index, IsByte (machine.state.get index)) (index : Fin 16) :
    IsByte (after.state.get index) := by
  by_cases first : index ≤ 2
  · obtain ⟨low, high⟩ := splits.digits index first
    exact ⟨low, by omega⟩
  · rw [splits.others index (Fin.not_le.mp first)]
    exact bytes index

theorem Splits.font {after : Machine} (splits : machine.Splits x after)
    (font : machine.bus.memory.HoldsFont) (behind : Font.size ≤ machine.state.i) :
    after.bus.memory.HoldsFont := by
  intro place inside
  rw [splits.cells place (.inl (by omega))]
  exact font place inside

theorem pointsAtGlyph_of_font (font : machine.bus.memory.HoldsFont) {digit : Nat}
    (small : digit ≤ 15) :
    (machine.pointingAt (digit * Font.glyphSize : Nat)).PointsAtGlyph digit where
  low := Int.natCast_nonneg _
  high := by
    have room := font.room
    change ((digit * Font.glyphSize : Nat) : Int) + Font.glyphSize ≤ machine.bus.memory.size
    rw [Font.glyphSize]
    rw [Font.size] at room
    omega
  rows := by
    intro line inside
    exact font.read_row small inside

theorem PointsAtGlyph.hits {digit : Nat} (points : machine.PointsAtGlyph digit) (size : Int × Int)
    (x y : Int) :
    Drawing.hits size machine.bus.memory x y machine.state.i Font.glyphSize =
      Font.hits size x y digit := by
  funext cell
  apply List.countP_congr
  intro (line, place) member
  have inside := List.mem_range.mp (List.mem_product.mp member).1
  simp only [Drawing.rowByte_of_read (points.rows line inside)]

theorem PointsAtGlyph.draws {digit : Nat} (points : machine.PointsAtGlyph digit) {x y : Int}
    {erased : Bool} {after : Machine}
    (flips : Display.Flips (Drawing.spriteDots machine.bus.display.size machine.bus.memory x y
      machine.state.i Font.glyphSize) machine.bus.display erased after.bus.display)
    (rest : after.bus = { machine.bus with display := after.bus.display }) :
    machine.DrawsGlyph digit x y after := by
  have short : Font.glyphSize ≤ 32 := by decide
  have distinct := Drawing.nodup_spriteDots machine.bus.memory x y machine.state.i short
  have masks := Drawing.masks_spriteDots machine.bus.memory x y machine.state.i short points.low
    points.high
  refine ⟨⟨rest, flips.size, ?cells⟩, ?pixels, ?others⟩
  case cells =>
    intro cell
    rw [← points.hits, ← Drawing.count_spriteDots]
    exact flips.cells cell
  case pixels =>
    -- No two places of the glyph are the same cell here, so that each is flipped once at most.
    intro screen line inside place narrow
    obtain ⟨byte, present, bit⟩ := masks.bit line inside place narrow
    cases present.symm.trans (points.rows line inside)
    have shown : machine.bus.display.Shows (spot x y line place) := by
      rw [Display.shows_iff_of_standard screen, spot]
      omega
    rw [screen] at flips
    obtain ⟨old, found, flipped⟩ := flips.get_of_nodup distinct shown
    rw [bit] at flipped
    exact ⟨old, found, flipped⟩
  case others =>
    intro screen column row left right top bottom apart
    have shown : machine.bus.display.Shows (column, row) := by
      rw [Display.shows_iff_of_standard screen]
      exact ⟨left, right, top, bottom⟩
    rw [screen] at flips
    obtain ⟨old, found, flipped⟩ := flips.get_of_nodup distinct shown
    rw [masks.dark _ apart, Bool.xor_false] at flipped
    exact flipped.trans found.symm

end Machine

namespace Operation

theorem execute_storeDecimal {decimal : Operation} (named : decimal.pattern = "FX33")
    (low : 0 ≤ machine.state.i) (high : machine.state.i + 3 ≤ machine.bus.memory.size) :
    ∃ memory, Memory.load machine.state.i
        (Registers.decimalDigits (machine.state.get decimal.opcode.x)) machine.bus.memory =
          .ok () memory ∧
      decimal.execute machine = .ok () (machine.withMemory memory) := by
  have fits : machine.state.i +
      (Registers.decimalDigits (machine.state.get decimal.opcode.x)).length ≤
        machine.bus.memory.size := high
  obtain ⟨memory, went⟩ := machine.bus.memory.load_of_fits machine.state.i low fits
  refine ⟨memory, went, ?_⟩
  rw [Cpu.execute_of_text .storeDecimal named]
  exact Effect.store_of_loaded
    (fun registers => Registers.decimalDigits (registers.get decimal.opcode.x)) went

theorem execute_splits {decimal restore : Operation} (named : decimal.pattern = "FX33")
    (namedToo : restore.pattern = "FX65") (three : restore.opcode.x = 2)
    (byte : IsByte (machine.state.get decimal.opcode.x))
    (standard : machine.bus.memory.size = 4096) (low : 0 ≤ machine.state.i)
    (high : machine.state.i ≤ 0xFFD) :
    ∃ stored filled, decimal.execute machine = .ok () stored ∧
      restore.execute (stored.pointingAt machine.state.i) = .ok () filled ∧
      machine.Splits decimal.opcode.x filled := by
  obtain ⟨memory, went, executed⟩ := execute_storeDecimal named low (by omega)
  have size : memory.size = 4096 := by
    rw [← Action.after_of_ok went, ← standard]
    exact Memory.load_preserves_size _ _ _
  have held := Memory.holds_digits byte low went
  rw [← three] at held
  obtain ⟨filled, refilled, restores⟩ :
      ∃ filled, restore.execute ((machine.withMemory memory).pointingAt machine.state.i) =
        .ok () filled ∧
      Machine.Restores _ restore.opcode.x (Registers.digits _) filled :=
    execute_restores namedToo size held
  rw [three] at restores
  exact ⟨_, filled, executed, refilled, Machine.splits_of_restores byte low went restores⟩

theorem execute_loadGlyph {glyph : Operation} (named : glyph.pattern = "FX29") :
    glyph.execute machine =
      .ok () (machine.pointingAt (machine.state.get glyph.opcode.x * Font.glyphSize)) := by
  rw [Cpu.execute_of_text .loadGlyph named]
  rfl

theorem execute_loadIndex {back : Operation} (named : back.pattern = "ANNN") :
    back.execute machine = .ok () (machine.pointingAt back.opcode.nnn) := by
  rw [Cpu.execute_of_text .loadIndex named]
  rfl

theorem execute_drawsGlyph {sprite : Operation} {digit : Nat} (named : sprite.pattern = "DXYN")
    (tall : sprite.opcode.n = 5) (points : machine.PointsAtGlyph digit)
    (column : IsByte (machine.state.get sprite.opcode.x))
    (line : IsByte (machine.state.get sprite.opcode.y)) (cells : HasCells machine.bus.display) :
    ∃ drawn, sprite.execute machine = .ok () drawn ∧
      machine.DrawsGlyph digit (machine.state.get sprite.opcode.x)
        (machine.state.get sprite.opcode.y) drawn := by
  let stamp : Stamp := ⟨machine.state, sprite⟩
  have height : stamp.height = Font.glyphSize := congrArg Fin.val tall
  have fits : stamp.Fits machine.bus := by
    refine ⟨named, column, line, points.low, ?_⟩
    rw [height]
    exact points.high
  obtain ⟨erased, screen, flips, executed⟩ := Stamp.executes fits cells
  rw [Stamp.dots, height] at flips
  exact ⟨_, executed, points.draws flips rfl⟩

end Operation

namespace Cpu

variable {cpu : Cpu} {event : Event}

theorem font_after_step (font : cpu.bus.memory.HoldsFont)
    (behind : ∀ pattern, cpu.next? = some pattern → pattern ∈ Part.memory.writers →
      Font.size ≤ cpu.state.i) :
    (cpu.after .step).bus.memory.HoldsFont := by
  by_cases writes : ∃ pattern ∈ Part.memory.writers, cpu.next? = some pattern
  · -- The step may be refused half way: what it stored is behind the font all the same.
    obtain ⟨pattern, writer, tried⟩ := writes
    obtain ⟨word, fetches⟩ := fetches_of_next tried
    have stored : (cpu.after .step).bus.memory = _ :=
      (congrArg (fun machine => machine.bus.memory) (after_step_of_fetches fetches)).trans
        (pattern.memory_after_effect word (some cpu.fetching.pc) cpu.fetched)
    rw [stored, fetched_index]
    exact font.after_load (behind pattern tried writer) _
  · have kept : (cpu.after .step).bus.memory = cpu.bus.memory :=
      memory_after nofun fun pattern tried writer => writes ⟨pattern, writer, tried⟩
    rw [kept]
    exact font

/-- Programs are loaded behind the font, so that it is only hurt by a step that stores there. -/
theorem font_after (font : cpu.bus.memory.HoldsFont)
    (behind : event = .step → ∀ pattern, cpu.next? = some pattern →
      pattern ∈ Part.memory.writers → Font.size ≤ cpu.state.i) :
    (cpu.after event).bus.memory.HoldsFont := by
  cases event with
  | step => exact font_after_step font (behind rfl)
  | load program =>
      rw [after_load]
      exact font.after_load (by decide) _
  | press key | release key =>
      simp only [after_press, after_release]
      exact font
  | tick | reset => exact font

/-- By induction on the run: each event finds the font as the ones before it have left it. -/
theorem font_afterAll {events : List Event} (font : cpu.bus.memory.HoldsFont)
    (behind : ∀ done later, events = done ++ .step :: later → ∀ pattern,
      (cpu.afterAll done).next? = some pattern → pattern ∈ Part.memory.writers →
        Font.size ≤ (cpu.afterAll done).state.i) :
    (cpu.afterAll events).bus.memory.HoldsFont := by
  induction events generalizing cpu with
  | nil => exact font
  | cons event rest ih =>
      apply ih
      · apply font_after font
        intro step
        exact behind [] rest (congrArg (· :: rest) step)
      · intro done later split
        exact behind (event :: done) later (congrArg (event :: ·) split)

/-- Digits that are stored behind the font and read back are the digits of the number, and each of
them is drawn with its glyph. The font stays as long as nothing is stored below its end; a store
that is refused half way is no exception. -/
theorem digits_have_glyphs :
    (∀ (decimal restore : Operation) (machine : Machine),
      decimal.pattern = "FX33" → restore.pattern = "FX65" → restore.opcode.x = 2 →
      (∀ index, IsByte (machine.state.get index)) → machine.bus.memory.size = 4096 →
      machine.bus.memory.HoldsFont → 0x50 ≤ machine.state.i → machine.state.i ≤ 0xFFD →
      ∃ stored filled, decimal.execute machine = .ok () stored ∧
        (∀ back : Operation, back.pattern = "ANNN" → back.opcode.nnn = machine.state.i →
          back.execute stored = .ok () (stored.pointingAt machine.state.i)) ∧
        restore.execute (stored.pointingAt machine.state.i) = .ok () filled ∧
        machine.Splits decimal.opcode.x filled ∧ filled.bus.memory.HoldsFont ∧
        ∀ glyph : Operation, glyph.pattern = "FX29" → glyph.opcode.x ≤ 2 →
        ∃ digit ≤ 9, filled.state.get glyph.opcode.x = (digit : Nat) ∧
          let aimed := filled.pointingAt (digit * Font.glyphSize : Nat)
          glyph.execute filled = .ok () aimed ∧ aimed.PointsAtGlyph digit ∧
          ∀ sprite : Operation, sprite.pattern = "DXYN" → sprite.opcode.n = 5 →
            HasCells machine.bus.display →
          ∃ drawn, sprite.execute aimed = .ok () drawn ∧
            aimed.DrawsGlyph digit (filled.state.get sprite.opcode.x)
              (filled.state.get sprite.opcode.y) drawn) ∧
    ∀ (random : RandomSource) (events : List Event),
      let start := ofBus { random := random }
      (∀ done later, events = done ++ .step :: later → ∀ pattern,
        (start.afterAll done).next? = some pattern → pattern = .storeDecimal ∨ pattern = .save →
          0x50 ≤ (start.afterAll done).state.i) →
      (start.afterAll events).bus.memory.HoldsFont := by
  constructor
  · intro decimal restore machine decimals restores three bytes standard font low high
    obtain ⟨stored, filled, executed, refilled, splits⟩ :=
      Operation.execute_splits decimals restores three (bytes _) standard (by omega) high
    have intact := splits.font font low
    have bytesAfter := splits.bytes bytes
    refine ⟨stored, filled, executed, ?_, refilled, splits, intact, ?_⟩
    · intro back backs same
      rw [Operation.execute_loadIndex backs, same]
    · intro glyph glyphs first
      obtain ⟨natural, small⟩ := splits.digits glyph.opcode.x first
      obtain ⟨digit, same⟩ := Int.eq_ofNat_of_zero_le natural
      have aims : glyph.execute filled = _ := Operation.execute_loadGlyph glyphs
      rw [same] at aims small
      have points := Machine.pointsAtGlyph_of_font intact (show digit ≤ 15 by omega)
      refine ⟨digit, by omega, same, aims, points, ?_⟩
      intro sprite sprites tall cells
      have display : filled.bus.display = machine.bus.display :=
        congrArg (fun machine => machine.bus.display) splits.rest
      rw [← display] at cells
      exact Operation.execute_drawsGlyph sprites tall points (bytesAfter _) (bytesAfter _) cells
  · intro random events start behind
    have font : start.bus.memory.HoldsFont := Memory.holdsFont_default
    apply font_afterAll font
    intro done later split pattern tried writer
    apply behind done later split pattern tried
    simpa [Part.writers] using writer

def scoring : Machine where
  state := Registers.set { i := 0x300 } Registers.first 254
  bus := {}

def storeAtEnd : List Int := [0xAF, 0xFF, 0xF0, 0x33]

/-- The tens of 254 are drawn at the upper left. The store that is refused at the end of the memory
leaves the font alone. -/
theorem digits_have_glyphs_254 :
    (∃ stored filled drawn,
      (Operation.ofPattern .storeDecimal 0xF033 none).execute scoring = .ok () stored ∧
      (Operation.ofPattern .restore 0xF265 none).execute (stored.pointingAt 0x300) =
        .ok () filled ∧
      100 * filled.state.get 0 + 10 * filled.state.get 1 + filled.state.get 2 = 254 ∧
      (Operation.ofPattern .loadGlyph 0xF129 none).execute filled =
        .ok () (filled.pointingAt 25) ∧
      (Operation.ofPattern .draw 0xDEE5 none).execute (filled.pointingAt 25) = .ok () drawn ∧
      (filled.pointingAt 25).DrawsGlyph 5 0 0 drawn) ∧
    ((ofBus {}).afterAll [.load storeAtEnd, .step, .step]).bus.memory.HoldsFont := by
  constructor
  · have bytes : ∀ index, IsByte (scoring.state.get index) := by decide
    obtain ⟨stored, filled, executed, -, refilled, splits, -, glyphs⟩ :=
      digits_have_glyphs.1 (.ofPattern .storeDecimal 0xF033 none)
        (.ofPattern .restore 0xF265 none) scoring rfl rfl rfl bytes rfl
        Memory.holdsFont_default (by decide) (by decide)
    obtain ⟨digit, -, tens, aims, -, draws⟩ :=
      glyphs (.ofPattern .loadGlyph 0xF129 none) rfl (by decide)
    have value : 100 * filled.state.get 0 + 10 * filled.state.get 1 + filled.state.get 2 = 254 :=
      splits.value
    have five : digit = 5 := by
      have hundreds := splits.digits 0 (by decide)
      have middle := splits.digits 1 (by decide)
      have ones := splits.digits 2 (by decide)
      change filled.state.get 1 = digit at tens
      omega
    subst five
    obtain ⟨drawn, went, shown⟩ :=
      draws (.ofPattern .draw 0xDEE5 none) rfl rfl ⟨by decide, by decide⟩
    have corner : filled.state.get 14 = 0 := splits.others 14 (by decide)
    change Machine.DrawsGlyph _ 5 (filled.state.get 14) (filled.state.get 14) drawn at shown
    rw [corner] at shown
    exact ⟨stored, filled, drawn, executed, refilled, value, aims, went, shown⟩
  · let start := (ofBus {}).after (.load storeAtEnd)
    have first : start.Fetches 0xAFFF .loadIndex :=
      fetches_of_loaded .default storeAtEnd rfl (by decide) 0 (by decide) rfl rfl
    have pointed : (start.after .step).state.i = 0xFFF :=
      congrArg (fun cpu => cpu.state.i) (after_step_of_executed first rfl)
    refine digits_have_glyphs.2 (.cycling []) [.load storeAtEnd, .step, .step] ?_
    intro done later split pattern tried writer
    rcases done with - | ⟨event, - | ⟨next, - | ⟨last, rest⟩⟩⟩
    · cases split
    · cases split
      rw [afterAll_cons, afterAll_nil, next_of_fetches first] at tried
      cases tried
      simp at writer
    · cases split
      rw [afterAll_cons, afterAll_cons, afterAll_nil, pointed]
      decide
    · simp at split

end Cpu

end Chip8
