import Mathlib.Algebra.GroupWithZero.Nat
import Mathlib.Data.List.Perm.Basic
import Mathlib.Data.List.ProdSigma
import Chip8.Proofs.Sprite
/-!
Drawing on a screen of any size. A sprite may be folded onto itself there, so that a cell is flipped
as often as pixels come to it, and only the parity of their number counts. So drawing the same again
takes it back, and sprites may be drawn in any order.
-/

namespace Chip8

namespace Display

/-- A screen is determined by its size and by which cells are lit. -/
theorem ext_lit {first second : Display} (size : first.size = second.size)
    (same : ∀ cell, first.lit cell = second.lit cell) : first = second := by
  obtain ⟨width, height, cells⟩ := first
  obtain ⟨otherWidth, otherHeight, others⟩ := second
  obtain ⟨rfl, rfl⟩ := Prod.mk.inj size
  congr 1
  apply Vector.ext
  intro row below
  apply Vector.ext
  intro column left
  have inside (grid) : Inside ⟨width, height, grid⟩ (column, row) :=
    ⟨⟨Int.natCast_nonneg column, Int.lt_toNat.mp left⟩,
      Int.natCast_nonneg row, Int.lt_toNat.mp below⟩
  have atRow : (⟨row, below⟩ : Fin height.toNat).val = (row : Int).toNat := rfl
  have atColumn : (⟨column, left⟩ : Fin width.toNat).val = (column : Int).toNat := rfl
  have here (grid) : lit ⟨width, height, grid⟩ (column, row) = grid[row][column] :=
    lit_of_inside grid (inside grid) atRow atColumn
  rw [← here, ← here]
  exact same (column, row)

end Display

namespace Drawing

def hits (size : Int × Int) (memory : Memory) (x y address : Int) (height : Nat)
    (cell : Int × Int) : Nat :=
  (List.range height ×ˢ List.range 8).countP fun (line, place) =>
    (rowByte memory address line).toNat.testBit (7 - place) &&
      decide (((x + place) % size.1, (y + line) % 256 % size.2) = cell)

theorem count_rowDots (size : Int × Int) (x y : Int) (byte : UInt8) (cell : Int × Int) :
    (rowDots size x y (bits byte)).count cell =
      (List.range 8).countP fun place =>
        byte.toNat.testBit (7 - place) && decide (((x + place) % size.1, y % size.2) = cell) := by
  rw [rowDots, List.count, List.countP_map, List.countP_filter]
  have length : (bits byte).length = 8 := rfl
  rw [length]
  apply List.countP_congr
  intro place inside
  have narrow := List.mem_range.mp inside
  have bit := getD_bits byte place
  rw [decide_eq_true narrow, Bool.true_and] at bit
  simp only [bit, Function.comp_apply, beq_iff_eq, Bool.and_eq_true, decide_eq_true_eq, and_comm]

theorem count_spriteDots (size : Int × Int) (memory : Memory) (x y address : Int) (height : Nat)
    (cell : Int × Int) :
    (spriteDots size memory x y address height).count cell =
      hits size memory x y address height cell := by
  have pixels : List.range height ×ˢ List.range 8 =
      (List.range height).flatMap fun line => (List.range 8).map (Prod.mk line) := rfl
  rw [spriteDots, hits, pixels, List.count_flatMap, List.countP_flatMap]
  congr 2
  funext line
  rw [Function.comp_apply, Function.comp_apply, count_rowDots, List.countP_map]
  rfl

end Drawing

structure Stamp where
  registers : Registers
  operation : Operation

namespace Stamp

open Drawing (HasCells hits rowByte spriteDots)

def x (stamp : Stamp) : Int := stamp.registers.get stamp.operation.opcode.x

def y (stamp : Stamp) : Int := stamp.registers.get stamp.operation.opcode.y

def height (stamp : Stamp) : Nat := stamp.operation.opcode.n

structure Fits (stamp : Stamp) (bus : Bus) : Prop where
  matched : stamp.operation.pattern = "DXYN"
  column : IsByte stamp.x
  row : IsByte stamp.y
  start : 0 ≤ stamp.registers.i
  bytes : stamp.registers.i + stamp.height ≤ bus.memory.size

def hits (stamp : Stamp) (bus : Bus) (cell : Int × Int) : Nat :=
  Drawing.hits bus.display.size bus.memory stamp.x stamp.y stamp.registers.i stamp.height cell

def dots (stamp : Stamp) (bus : Bus) : List (Int × Int) :=
  spriteDots bus.display.size bus.memory stamp.x stamp.y stamp.registers.i stamp.height

def draw (stamp : Stamp) : Action Fault Bus Unit :=
  Action.within (Core.mk stamp.registers) (fun _ machine => machine.bus) stamp.operation.execute

variable {stamp : Stamp} {bus later : Bus}

theorem executes (fits : stamp.Fits bus) (cells : HasCells bus.display) :
    ∃ erased drawn, Display.Flips (stamp.dots bus) bus.display erased drawn ∧
      stamp.operation.execute ⟨stamp.registers, bus⟩ =
        .ok () ⟨stamp.registers.setFlag (if erased then 1 else 0),
          { bus with display := drawn }⟩ := by
  obtain ⟨erased, drawn, went⟩ := Drawing.sprite_draws bus.memory stamp.height stamp.registers.i
    stamp.y cells (Drawing.placed_of_bytes fits.column fits.row) fits.start fits.bytes
  refine ⟨erased, drawn, Drawing.sprite_flips cells fits.row went, ?_⟩
  rw [Cpu.execute_of_text .draw fits.matched]
  exact Effect.draw_of_drawn _ _ _ went

theorem hits_eq_count (stamp : Stamp) (bus : Bus) (cell : Int × Int) :
    stamp.hits bus cell = (stamp.dots bus).count cell :=
  (Drawing.count_spriteDots _ _ _ _ _ _ cell).symm

/-- What a drawing leaves: only the screen differs, and each of its cells is flipped as often as
pixels come to it. -/
structure Drawn (bus : Bus) (flips : Int × Int → Nat) (later : Bus) : Prop where
  rest : later = { bus with display := later.display }
  size : later.display.size = bus.display.size
  cells : ∀ cell, later.display.lit cell = (bus.display.lit cell ^^ (flips cell).bodd)

namespace Drawn

variable {flips more : Int × Int → Nat} {last : Bus}

theorem refl (bus : Bus) : Drawn bus (fun _ => 0) bus where
  rest := rfl
  size := rfl
  cells _ := (Bool.xor_false _).symm

theorem trans (first : Drawn bus flips later) (second : Drawn later more last) :
    Drawn bus (fun cell => flips cell + more cell) last where
  rest := by
    rw [second.rest, first.rest]
  size := second.size.trans first.size
  cells cell := by
    rw [second.cells, first.cells, Nat.bodd_add, Bool.xor_assoc]

theorem unique (first : Drawn bus flips later) (second : Drawn bus more last)
    (parity : ∀ cell, (flips cell).bodd = (more cell).bodd) : later = last := by
  have screen : later.display = last.display := by
    apply Display.ext_lit
    · exact first.size.trans second.size.symm
    · intro cell
      rw [first.cells, second.cells, parity]
  rw [first.rest, second.rest, screen]

theorem memory (drawn : Drawn bus flips later) : later.memory = bus.memory := by
  rw [drawn.rest]

theorem dots (drawn : Drawn bus flips later) (stamp : Stamp) :
    stamp.dots later = stamp.dots bus := by
  rw [Stamp.dots, drawn.size, drawn.memory, Stamp.dots]

theorem hits (drawn : Drawn bus flips later) (stamp : Stamp) :
    stamp.hits later = stamp.hits bus := by
  funext cell
  rw [hits_eq_count, drawn.dots, hits_eq_count]

theorem fits (drawn : Drawn bus flips later) (fits : stamp.Fits bus) : stamp.Fits later :=
  { fits with bytes := drawn.memory ▸ fits.bytes }

theorem hasCells (drawn : Drawn bus flips later) (cells : HasCells bus.display) :
    HasCells later.display :=
  Drawing.hasCells_of_size drawn.size cells

end Drawn

theorem drawn_of_flips {erased : Bool} {drawn : Display}
    (flips : Display.Flips (stamp.dots bus) bus.display erased drawn) :
    Drawn bus (stamp.hits bus) { bus with display := drawn } where
  rest := rfl
  size := flips.size
  cells cell := by
    rw [hits_eq_count]
    exact flips.cells cell

theorem draws_all {stamps : List Stamp} (fits : ∀ stamp ∈ stamps, stamp.Fits bus)
    (cells : HasCells bus.display) :
    ∃ final, stamps.forM draw bus = .ok () final ∧
      Drawn bus (fun cell => (stamps.map fun stamp => stamp.hits bus cell).sum) final := by
  induction stamps generalizing bus with
  | nil => exact ⟨bus, rfl, .refl bus⟩
  | cons stamp rest ih =>
      obtain ⟨here, others⟩ := List.forall_mem_cons.mp fits
      obtain ⟨erased, screen, flips, executed⟩ := executes here cells
      have drawn := drawn_of_flips flips
      obtain ⟨final, went, more⟩ :=
        ih (fun stamp member => drawn.fits (others stamp member)) (drawn.hasCells cells)
      have first : stamp.draw bus = .ok () { bus with display := screen } :=
        Action.within_of_ok executed
      refine ⟨final, (Action.bind_of_ok first).trans went, ?_⟩
      have whole := drawn.trans more
      simp only [drawn.hits] at whole
      exact whole

/-- The same sprite at the same place; the other registers may differ. -/
structure Repeats (again stamp : Stamp) : Prop where
  operation : again.operation = stamp.operation
  column : again.x = stamp.x
  row : again.y = stamp.y
  address : again.registers.i = stamp.registers.i

namespace Repeats

variable {again : Stamp} (repeats : again.Repeats stamp)

include repeats

theorem height : again.height = stamp.height := by
  rw [Stamp.height, repeats.operation, Stamp.height]

theorem fits (fits : stamp.Fits bus) : again.Fits bus where
  matched := repeats.operation ▸ fits.matched
  column := repeats.column ▸ fits.column
  row := repeats.row ▸ fits.row
  start := repeats.address ▸ fits.start
  bytes := by
    rw [repeats.address, repeats.height]
    exact fits.bytes

theorem dots (bus : Bus) : again.dots bus = stamp.dots bus := by
  rw [Stamp.dots, repeats.column, repeats.row, repeats.address, repeats.height, Stamp.dots]

theorem hits (bus : Bus) : again.hits bus = stamp.hits bus := by
  funext cell
  rw [hits_eq_count, repeats.dots, hits_eq_count]

end Repeats

/-- Where no cell is flipped twice, the second time tells of the cells that were dark. -/
theorem erased_again {dots : List (Int × Int)} {before middle after : Display} {one other : Bool}
    (first : Display.Flips dots before one middle) (second : Display.Flips dots middle other after)
    (distinct : dots.Nodup) :
    other = true ↔ ∃ cell ∈ dots, before.get cell.1 cell.2 = .ok false := by
  rw [second.erased_iff distinct]
  apply exists_congr
  intro cell
  apply and_congr_right
  intro member
  obtain ⟨old, found, flipped⟩ := first.get_of_nodup distinct (first.shown cell member)
  rw [found, flipped, decide_eq_true member]
  cases old <;> decide

theorem erased_again_on_standard_screen {one other : Bool} {middle last : Display}
    (screen : bus.display.size = (64, 32))
    (first : Display.Flips (stamp.dots bus) bus.display one middle)
    (second : Display.Flips (stamp.dots bus) middle other last) :
    other = true ↔ ∃ line < stamp.height, ∃ place < 8,
      (rowByte bus.memory stamp.registers.i line).toNat.testBit (7 - place) = true ∧
        bus.display.get ((stamp.x + place) % 64) ((stamp.y + line) % 32) = .ok false := by
  have short : stamp.height ≤ 32 := by
    rw [height]
    omega
  rw [dots, screen] at first second
  rw [erased_again first second (Drawing.nodup_spriteDots _ _ _ _ short)]
  constructor
  · rintro ⟨cell, member, dark⟩
    obtain ⟨line, inside, place, narrow, lit, rfl⟩ := Drawing.mem_spriteDots.mp member
    exact ⟨line, inside, place, narrow, lit, dark⟩
  · rintro ⟨line, inside, place, narrow, lit, dark⟩
    exact ⟨_, Drawing.mem_spriteDots.mpr ⟨line, inside, place, narrow, lit, rfl⟩, dark⟩

/-- On a screen with cells, a drawing flips each cell as often as lit pixels of the sprite come to
it, so that the same once more restores the screen. On the standard screen the flag then says
whether a lit pixel came to a cell that had been dark. Several drawings leave the same behind in any
order. -/
theorem drawing_counts_parity {bus : Bus} (cells : HasCells bus.display) :
    (∀ stamp : Stamp, stamp.Fits bus → ∃ next,
      stamp.operation.execute ⟨stamp.registers, bus⟩ = .ok () next ∧
      Drawn bus (stamp.hits bus) next.bus ∧
      ∀ again : Stamp, again.Repeats stamp → ∃ last,
        again.operation.execute ⟨again.registers, next.bus⟩ = .ok () last ∧
        last.bus = bus ∧
        (bus.display.size = (64, 32) → (last.state.vf = 0 ∨ last.state.vf = 1) ∧
          (last.state.vf = 1 ↔ ∃ line < stamp.height, ∃ place < 8,
            (rowByte bus.memory stamp.registers.i line).toNat.testBit (7 - place) = true ∧
              bus.display.get ((stamp.x + place) % 64) ((stamp.y + line) % 32) =
                .ok false))) ∧
    ∀ stamps : List Stamp, (∀ stamp ∈ stamps, stamp.Fits bus) → ∃ final,
      ∀ others : List Stamp, others.Perm stamps → others.forM draw bus = .ok () final := by
  refine ⟨?twice, ?anyOrder⟩
  case twice =>
    intro stamp fits
    obtain ⟨erased, middle, flips, executed⟩ := executes fits cells
    have drawn := drawn_of_flips flips
    refine ⟨_, executed, drawn, ?_⟩
    intro again repeats
    obtain ⟨other, screen, flipsAgain, executedAgain⟩ :=
      executes (repeats.fits (drawn.fits fits)) (drawn.hasCells cells)
    have both := drawn.trans (drawn_of_flips flipsAgain)
    rw [repeats.hits, drawn.hits] at both
    have restored := both.unique (.refl bus) fun cell => by
      rw [Nat.bodd_add, Bool.xor_self, Nat.bodd_zero]
    refine ⟨_, executedAgain, restored, ?_⟩
    intro standard
    have flag := again.registers.vf_setFlag other
    have told : Registers.vf (again.registers.setFlag (if other then 1 else 0)) = 1 ↔
        other = true := by
      rw [flag]
      cases other <;> decide
    rw [repeats.dots, drawn.dots] at flipsAgain
    refine ⟨?_, told.trans (erased_again_on_standard_screen standard flips flipsAgain)⟩
    cases other with
    | false => exact .inl flag
    | true => exact .inr flag
  case anyOrder =>
    intro stamps fits
    obtain ⟨final, -, drawn⟩ := draws_all fits cells
    refine ⟨final, ?_⟩
    intro others order
    obtain ⟨done, went, drawnToo⟩ :=
      draws_all (fun stamp member => fits stamp (order.mem_iff.mp member)) cells
    have same : done = final := by
      apply drawnToo.unique drawn
      intro cell
      -- The number of pixels that come to a cell does not depend on the order.
      exact congrArg Nat.bodd (order.map fun stamp => stamp.hits bus cell).sum_nat
    rw [went, same]

def small : Bus := { display := .blank 5 3 }

def zero : Stamp := ⟨{ v := .replicate 16 2 }, .ofPattern .draw 0xD015 none⟩

def one : Stamp := ⟨{ i := 5 }, .ofPattern .draw 0xD015 none⟩

theorem drawing_counts_parity_small :
    HasCells small.display ∧ zero.Fits small ∧ one.Fits small ∧
    (∃ next last, zero.operation.execute ⟨zero.registers, small⟩ = .ok () next ∧
      zero.operation.execute ⟨zero.registers, next.bus⟩ = .ok () last ∧ last.bus = small) ∧
    ∃ final, [zero, one].forM draw small = .ok () final ∧
      [one, zero].forM draw small = .ok () final := by
  have cells : HasCells small.display := ⟨by decide, by decide⟩
  have zeroFits : zero.Fits small :=
    ⟨rfl, ⟨by decide, by decide⟩, ⟨by decide, by decide⟩, by decide, by decide⟩
  have oneFits : one.Fits small :=
    ⟨rfl, ⟨by decide, by decide⟩, ⟨by decide, by decide⟩, by decide, by decide⟩
  obtain ⟨twice, anyOrder⟩ := drawing_counts_parity cells
  obtain ⟨next, first, -, again⟩ := twice zero zeroFits
  obtain ⟨last, second, restored, -⟩ := again zero ⟨rfl, rfl, rfl, rfl⟩
  have both : ∀ stamp ∈ [zero, one], stamp.Fits small := by
    simp only [List.forall_mem_cons, List.not_mem_nil, false_implies, implies_true, and_true]
    exact ⟨zeroFits, oneFits⟩
  obtain ⟨final, drawn⟩ := anyOrder [zero, one] both
  exact ⟨cells, zeroFits, oneFits, ⟨next, last, first, second, restored⟩, final, drawn _ (.refl _),
    drawn _ (.swap zero one [])⟩

end Stamp

end Chip8
