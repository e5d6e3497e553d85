import Chip8.Proofs.Cycle
import Chip8.Proofs.Effect
import Chip8.Proofs.Flips

namespace Chip8

namespace Drawing

open Display (Flips)

theorem mem_rowDots {size : Int × Int} {x y : Int} {lights : List Bool} {cell : Int × Int} :
    cell ∈ rowDots size x y lights ↔
      ∃ place : Nat, lights.getD place false = true ∧
        cell = ((x + place) % size.1, y % size.2) := by
  simp only [rowDots, List.mem_map, List.mem_filter, List.mem_range]
  constructor
  · rintro ⟨place, ⟨-, lit⟩, rfl⟩
    exact ⟨place, lit, rfl⟩
  · rintro ⟨place, lit, rfl⟩
    have inside : place < lights.length := by
      by_contra beyond
      rw [List.getD_eq_getElem?_getD, List.getElem?_eq_none (by omega)] at lit
      cases lit
    exact ⟨place, ⟨inside, lit⟩, rfl⟩

theorem getD_bits (byte : UInt8) (place : Nat) :
    (bits byte).getD place false = (decide (place < 8) && byte.toNat.testBit (7 - place)) := by
  match place with
  | 0 | 1 | 2 | 3 | 4 | 5 | 6 | 7 => simp [bits]
  | place + 8 =>
      have beyond : ¬place + 8 < 8 := by omega
      simp [bits, beyond]

def spot (x y : Int) (line place : Nat) : Int × Int := ((x + place) % 64, (y + line) % 32)

theorem spot_inj {x y : Int} {line other : Nat} {place second : Nat} (short : line < 32)
    (otherShort : other < 32) (narrow : place < 8) (secondNarrow : second < 8)
    (same : spot x y line place = spot x y other second) : line = other ∧ place = second := by
  obtain ⟨column, row⟩ := Prod.mk.inj same
  omega

theorem mem_spriteDots {memory : Memory} {x y address : Int} {height : Nat} {cell : Int × Int} :
    cell ∈ spriteDots (64, 32) memory x y address height ↔
      ∃ line < height, ∃ place < 8, (rowByte memory address line).toNat.testBit (7 - place) = true ∧
        cell = spot x y line place := by
  simp only [spriteDots, List.mem_flatMap, List.mem_range, mem_rowDots, getD_bits,
    Bool.and_eq_true, decide_eq_true_eq, spot]
  have lines : ∀ line : Nat, (y + line) % 256 % 32 = (y + line) % 32 := by
    intro line
    omega
  simp only [lines]
  constructor
  · rintro ⟨line, inside, place, ⟨narrow, lit⟩, same⟩
    exact ⟨line, inside, place, narrow, lit, same⟩
  · rintro ⟨line, inside, place, narrow, lit, same⟩
    exact ⟨line, inside, place, ⟨narrow, lit⟩, same⟩

theorem nodup_rowDots (x y : Int) {lights : List Bool} (narrow : lights.length ≤ 64) :
    (rowDots (64, 32) x y lights).Nodup := by
  apply List.Nodup.map_on
  · intro first firstInside second secondInside same
    have firstNarrow := List.mem_range.mp (List.mem_of_mem_filter firstInside)
    have secondNarrow := List.mem_range.mp (List.mem_of_mem_filter secondInside)
    have column : (x + first) % 64 = (x + second) % 64 := congrArg Prod.fst same
    omega
  · exact List.nodup_range.filter _

/-- On the standard screen no two pixels of a sprite come to the same cell. -/
theorem nodup_spriteDots (memory : Memory) (x y address : Int) {height : Nat}
    (short : height ≤ 32) : (spriteDots (64, 32) memory x y address height).Nodup := by
  rw [spriteDots, List.nodup_flatMap]
  constructor
  · intro line inside
    exact nodup_rowDots _ _ (by simp [bits])
  · apply List.pairwise_lt_range.imp_of_mem
    intro line other lineInside otherInside above cell inLine inOther
    obtain ⟨place, -, here⟩ := mem_rowDots.mp inLine
    obtain ⟨second, -, there⟩ := mem_rowDots.mp inOther
    have lineShort := List.mem_range.mp lineInside
    have otherShort := List.mem_range.mp otherInside
    -- Less than 32 lines apart, two rows of the sprite are two rows of the screen.
    have row : (y + line) % 256 % 32 = (y + other) % 256 % 32 :=
      congrArg Prod.snd (here.symm.trans there)
    omega

/-- What a sprite puts on the standard screen: each of its pixels has a cell of its own, which gets
the pixel's bit; the other cells get nothing. -/
structure Masks (memory : Memory) (x y address : Int) (height : Nat) (mask : Int × Int → Bool) :
    Prop where
  apart : ∀ line < height, ∀ place < 8, ∀ other < height, ∀ second < 8,
    spot x y line place = spot x y other second → line = other ∧ place = second
  bit : ∀ line < height, ∀ place < 8, ∃ byte, memory.read (address + line) = .ok byte ∧
    mask (spot x y line place) = byte.toNat.testBit (7 - place)
  dark : ∀ cell, (∀ line < height, ∀ place < 8, cell ≠ spot x y line place) → mask cell = false

theorem masks_spriteDots (memory : Memory) (x y address : Int) {height : Nat}
    (short : height ≤ 32) (start : 0 ≤ address) (fits : address + height ≤ memory.size) :
    Masks memory x y address height
      fun cell => decide (cell ∈ spriteDots (64, 32) memory x y address height) where
  apart := by
    intro line inside place narrow other otherInside second secondNarrow same
    exact spot_inj (by omega) (by omega) narrow secondNarrow same
  bit := by
    intro line inside place narrow
    obtain ⟨byte, present⟩ := memory.read_of_inside (address + line) (by omega) (by omega)
    refine ⟨byte, present, ?_⟩
    rw [← rowByte_of_read present, Bool.eq_iff_iff, decide_eq_true_eq, mem_spriteDots]
    constructor
    · rintro ⟨other, otherInside, second, secondNarrow, lit, same⟩
      obtain ⟨rfl, rfl⟩ := spot_inj (by omega) (by omega) narrow secondNarrow same
      exact lit
    · intro lit
      exact ⟨line, inside, place, narrow, lit, rfl⟩
  dark := by
    intro cell apart
    rw [decide_eq_false_iff_not, mem_spriteDots]
    rintro ⟨line, inside, place, narrow, -, same⟩
    exact apart line inside place narrow same

theorem sprite_on_standard_screen {before : Display} {memory : Memory} {x y address : Int}
    {height : Nat} (screen : before.size = (64, 32)) (column : IsByte x) (row : IsByte y)
    (start : 0 ≤ address) (fits : address + height ≤ memory.size) :
    ∃ erased drawn, sprite memory x height address y before = .ok erased drawn ∧
      Flips (spriteDots (64, 32) memory x y address height) before erased drawn := by
  have cells : HasCells before := by
    obtain ⟨width, height⟩ := Prod.mk.inj screen
    exact ⟨by omega, by omega⟩
  obtain ⟨erased, drawn, went⟩ :=
    sprite_draws memory height address y cells (placed_of_bytes column row) start fits
  have flips := sprite_flips cells row went
  rw [screen] at flips
  exact ⟨erased, drawn, went, flips⟩

end Drawing

namespace Operation

open Drawing

variable {machine : Machine}

/-- A sprite on the standard screen. Every cell is combined with the sprite's bit for it by
exclusive or, and the flag register says whether a bit met a lit cell; nothing else changes. -/
theorem draw_on_standard_screen {operation : Operation} (matched : operation.pattern = "DXYN")
    (bytes : ∀ index, IsByte (machine.state.get index))
    (screen : machine.bus.display.size = (64, 32)) (size : machine.bus.memory.size = 4096)
    (start : 0 ≤ machine.state.i) (fits : machine.state.i + operation.opcode.n.val ≤ 4096) :
    ∃ next mask, operation.execute machine = .ok () next ∧
      Masks machine.bus.memory (machine.state.get operation.opcode.x)
        (machine.state.get operation.opcode.y) machine.state.i operation.opcode.n mask ∧
      (∀ column row, 0 ≤ column → column < 64 → 0 ≤ row → row < 32 →
        ∃ old, machine.bus.display.get column row = .ok old ∧
          next.bus.display.get column row = .ok (old ^^ mask (column, row))) ∧
      (next.state.vf = 0 ∨ next.state.vf = 1) ∧
      (next.state.vf = 1 ↔ ∃ column row, machine.bus.display.get column row = .ok true ∧
        mask (column, row) = true ∧ 0 ≤ column ∧ column < 64 ∧ 0 ≤ row ∧ row < 32) ∧
      next.bus = { machine.bus with display := next.bus.display } ∧
      next.bus.display.size = (64, 32) ∧
      next.state.control = machine.state.control ∧
      ∀ index ≠ Registers.flag, next.state.get index = machine.state.get index := by
  have inside : machine.state.i + operation.opcode.n.val ≤ machine.bus.memory.size := by
    rw [size]
    exact fits
  have short : operation.opcode.n.val ≤ 32 := by omega
  obtain ⟨erased, drawn, went, flips⟩ := sprite_on_standard_screen screen
    (bytes operation.opcode.x) (bytes operation.opcode.y) start inside
  have distinct := nodup_spriteDots machine.bus.memory (machine.state.get operation.opcode.x)
    (machine.state.get operation.opcode.y) machine.state.i short
  have executed : operation.execute machine = .ok () ((machine.withDisplay drawn).withState
      (machine.state.setFlag (if erased then 1 else 0))) := by
    rw [Cpu.execute_of_text .draw matched]
    exact Effect.draw_of_drawn _ _ _ went
  have flag := machine.state.vf_setFlag erased
  refine ⟨_, _, executed, masks_spriteDots _ _ _ _ short start inside, ?combined, ?bit, ?collision,
    rfl, flips.size.trans screen, rfl, ?others⟩
  case combined =>
      intro column row left right top bottom
      have shown := (Display.shows_iff_of_standard screen (column, row)).mpr
        ⟨left, right, top, bottom⟩
      exact flips.get_of_nodup distinct shown
  case bit =>
      cases erased with
      | false => exact .inl flag
      | true => exact .inr flag
  case collision =>
      have answer : Registers.vf (machine.state.setFlag (if erased then 1 else 0)) = 1 ↔
          erased = true := by
        rw [flag]
        cases erased <;> decide
      apply answer.trans
      rw [flips.erased_iff distinct]
      constructor
      · rintro ⟨cell, member, lit⟩
        have shown := (Display.shows_iff_of_standard screen cell).mp (flips.shown cell member)
        exact ⟨cell.1, cell.2, lit, decide_eq_true member, shown⟩
      · rintro ⟨column, row, lit, masked, -⟩
        exact ⟨(column, row), of_decide_eq_true masked, lit⟩
  case others =>
      intro index apart
      exact Registers.get_set_other _ _ apart.symm

/-- The corner of a sprite lies near the lower right corner of the screen, and a cell on the left
edge is lit. The flag register holds the column. -/
def nearTheCorner : Machine where
  state := (Registers.set {} 0 31).set Registers.flag 62
  bus := { display := (Display.set 0 31 1).after .default }

theorem draw_on_standard_screen_round_the_edge :
    decode 0xDF01 none = .ok (ofPattern .draw 0xDF01 none) ∧
    ∃ next, (ofPattern .draw 0xDF01 none).execute nearTheCorner = .ok () next ∧
      next.bus.display.get 63 31 = .ok true ∧ next.bus.display.get 0 31 = .ok false ∧
      next.state.vf = 1 := by
  have screen : nearTheCorner.bus.display.size = (64, 32) :=
    Display.set_preserves_size 0 31 1 .default
  have bytes : ∀ index, IsByte (nearTheCorner.state.get index) := by decide
  have matched : (ofPattern .draw 0xDF01 none).pattern = "DXYN" := rfl
  obtain ⟨next, mask, executed, masks, combined, -, collision, -⟩ :=
    @draw_on_standard_screen nearTheCorner (ofPattern .draw 0xDF01 none) matched bytes screen rfl
      (by decide) (by decide)
  have glyph : nearTheCorner.bus.memory.read 0 = .ok 0xF0 :=
    Memory.read_ofSize 4096 (by decide) (by decide)
  have light : mask (63, 31) = true ∧ mask (0, 31) = true := by
    obtain ⟨byte, present, second⟩ := masks.bit 0 (by decide) 1 (by decide)
    obtain ⟨again, same, third⟩ := masks.bit 0 (by decide) 2 (by decide)
    cases present.symm.trans glyph
    cases same.symm.trans glyph
    exact ⟨second, third⟩
  obtain ⟨dark, before, after⟩ := combined 63 31 (by decide) (by decide) (by decide) (by decide)
  obtain ⟨lit, met, out⟩ := combined 0 31 (by decide) (by decide) (by decide) (by decide)
  have wasDark : nearTheCorner.bus.display.get 63 31 = .ok false := rfl
  have wasLit : nearTheCorner.bus.display.get 0 31 = .ok true := rfl
  cases before.symm.trans wasDark
  cases met.symm.trans wasLit
  rw [light.1] at after
  rw [light.2] at out
  exact ⟨rfl, next, executed, after, out, collision.mpr ⟨0, 31, wasLit, light.2, by decide⟩⟩

end Operation

end Chip8
