import Mathlib.Data.List.Sort
import Chip8.Proofs.Memory
/-!
Dumps of any range of a memory. A range is shown as reading it address by address gives it, and
what lies behind the memory is cut off. What lies in front of it is not always: the start is raised
to 0 before the end is worked out, so that a range from below is shown in its full length; and an
end below 0 counts from the end of the store, as far as that goes.
-/

namespace Chip8.Memory

def addresses (size : Nat) (start length : Int) : List Nat :=
  (List.range size).filter fun address => decide (start ≤ address ∧ address < start + length)

/-- What reading a range address by address gives, where its part outside of the memory is cut
off. -/
def reads (memory : Memory) (start length : Int) : List (Except Fault UInt8) :=
  (addresses memory.size start length).map fun address : Nat => memory.read address

def covered (size : Nat) (start length : Int) : Nat :=
  (min (start + length) size - max 0 start).toNat

section Reads

variable {memory : Memory} {start length : Int}

theorem addresses_eq_range' (size : Nat) (start length : Int) :
    addresses size start length = List.range' (max 0 start).toNat (covered size start length) := by
  have sorted : (addresses size start length).Pairwise (· < ·) :=
    List.pairwise_lt_range.sublist List.filter_sublist
  refine sorted.eq_of_mem_iff List.pairwise_lt_range' fun address => ?_
  rw [addresses, List.mem_filter, List.mem_range, List.mem_range'_1, decide_eq_true_eq, covered]
  omega

theorem reads_eq_window (memory : Memory) (start length : Int) :
    memory.reads start length =
      ((memory.toList.drop (max 0 start).toNat).take (covered memory.size start length)).map
        .ok := by
  rw [reads, addresses_eq_range']
  apply List.ext_getElem?
  intro place
  rw [List.getElem?_map, List.getElem?_map, List.getElem?_take, List.getElem?_drop]
  by_cases inside : place < covered memory.size start length
  · have low : (0 : Int) ≤ ((max 0 start).toNat + place : Nat) := Int.natCast_nonneg _
    have high : (((max 0 start).toNat + place : Nat) : Int) < memory.size := by
      rw [covered] at inside
      omega
    obtain ⟨byte, found⟩ := memory.read_of_inside _ low high
    rw [if_pos inside, ← read_toOption, List.getElem?_range' inside, Nat.one_mul, Option.map_some,
      found]
    rfl
  · rw [if_neg inside, List.getElem?_eq_none (by rw [List.length_range']; omega)]
    rfl

theorem length_reads (memory : Memory) (start length : Int) :
    (memory.reads start length).length = covered memory.size start length := by
  rw [reads, List.length_map, addresses_eq_range', List.length_range']

/-- An end in the memory or behind it: as many bytes as are asked for, cut off behind the memory. -/
theorem dump_of_end_nonneg (memory : Memory) (ends : 0 ≤ max 0 start + length) :
    memory.dump start length =
      (memory.toList.drop (max 0 start).toNat).take length.toNat := by
  rw [dump, slice, if_neg (by omega), toList, List.take_drop, List.take_take]
  by_cases empty : length < 0
  · rw [List.drop_eq_nil_of_le (by rw [List.length_take]; omega),
      List.drop_eq_nil_of_le (by rw [List.length_take]; omega)]
  · congr 2
    omega

/-- An end in front of the memory is looked for in the store, counted from the end. -/
theorem dump_of_end_neg (memory : Memory) (ends : max 0 start + length < 0) :
    memory.dump start length =
      (memory.cells.toList.drop (max 0 start).toNat).take
        (length + (max memory.size Font.size : Nat)).toNat := by
  have negative : min (max 0 start + length) (memory.size : Int) < 0 := by omega
  rw [dump, slice, if_pos negative, List.take_drop]
  by_cases far : length + (max memory.size Font.size : Nat) < 0
  · rw [List.drop_eq_nil_of_le (by rw [List.length_take]; omega),
      List.drop_eq_nil_of_le (by rw [List.length_take]; omega)]
  · congr 2
    omega

theorem map_ok_inj {first second : List UInt8} :
    (first.map .ok : List (Except Fault UInt8)) = second.map .ok ↔ first = second :=
  List.map_inj_right fun _ _ same => Except.ok.inj same

theorem dump_eq_reads_iff_of_end_nonneg (ends : 0 ≤ max 0 start + length) :
    (memory.dump start length).map .ok = memory.reads start length ↔
      min length.toNat (memory.size - (max 0 start).toNat) = covered memory.size start length := by
  rw [reads_eq_window, dump_of_end_nonneg memory ends, map_ok_inj, List.take_eq_take_iff,
    List.length_drop, length_toList, covered]
  omega

theorem dump_eq_reads_iff_of_end_neg (ends : max 0 start + length < 0) :
    (memory.dump start length).map .ok = memory.reads start length ↔
      length ≤ -(max memory.size Font.size : Nat) := by
  have none : covered memory.size start length = 0 := by
    rw [covered]
    omega
  rw [reads_eq_window, none, List.take_zero, map_ok_inj, dump_of_end_neg memory ends,
    ← List.length_eq_zero_iff, List.length_take, List.length_drop, Vector.length_toList]
  omega

theorem dump_ne_reads
    (apart : (memory.dump start length).length ≠ covered memory.size start length) :
    (memory.dump start length).map .ok ≠ memory.reads start length := by
  intro same
  have lengths := congrArg List.length same
  rw [length_reads, List.length_map] at lengths
  exact apart lengths

end Reads

/-- A range, of whatever start and length, over a memory with whatever contents. It is shown as
reading it gives it, with the part outside of the memory cut off, in exactly these cases: it starts
in the memory or behind it and does not end in front of it; it starts in front of the memory and is
empty or reaches to the end of it; or it goes back further than the store is long. In any other case
the start is raised to 0 first; the range from there on is shown, unless it ends in front of the
memory. Then its end counts from the end of the store. -/
theorem dump_of_any_range (memory : Memory) (positive : 0 < memory.size) (start length : Int) :
    ((memory.dump start length).map .ok = memory.reads start length ↔
      (0 ≤ start ∧ 0 ≤ start + length) ∨
      (start < 0 ∧ (length = 0 ∨ memory.size ≤ start + length)) ∨
      length ≤ -(max memory.size 80 : Nat)) ∧
    (0 ≤ max 0 start + length →
      (memory.dump start length).map .ok = memory.reads (max 0 start) length) ∧
    (max 0 start + length < 0 → memory.dump start length =
      (memory.cells.toList.drop (max 0 start).toNat).take
        (length + (max memory.size 80 : Nat)).toNat) := by
  refine ⟨?exact, ?raised, dump_of_end_neg memory⟩
  case exact =>
    by_cases ends : 0 ≤ max 0 start + length
    · rw [dump_eq_reads_iff_of_end_nonneg ends, covered]
      omega
    · rw [dump_eq_reads_iff_of_end_neg (Int.not_le.mp ends), Font.size]
      omega
  case raised =>
    intro ends
    have raised : max 0 (max 0 start) = max 0 start := by omega
    rw [reads_eq_window, dump_of_end_nonneg memory ends, raised, map_ok_inj,
      List.take_eq_take_iff, List.length_drop, length_toList, covered]
    omega

theorem dump_of_any_range_small :
    ((ofSize 4).dump (-1) 2).map .ok = (ofSize 4).reads 0 2 ∧
    ((ofSize 4).dump 3 5).map .ok = (ofSize 4).reads 3 5 ∧
    ((ofSize 4).dump 0 (-1)).length = 79 := by
  obtain ⟨-, raised, -⟩ := dump_of_any_range (ofSize 4) (by decide) (-1) 2
  obtain ⟨agrees, -, -⟩ := dump_of_any_range (ofSize 4) (by decide) 3 5
  obtain ⟨-, -, back⟩ := dump_of_any_range (ofSize 4) (by decide) 0 (-1)
  refine ⟨raised (by decide), agrees.mpr (.inl (by decide)), ?_⟩
  rw [back (by decide), List.length_take, List.length_drop, Vector.length_toList]
  rfl

/-- Both are shown with bytes that the range does not have in the memory. -/
theorem dump_beside_the_range :
    ((ofSize 4).dump (-1) 2).map .ok ≠ (ofSize 4).reads (-1) 2 ∧
    ((ofSize 4).dump 0 (-1)).map .ok ≠ (ofSize 4).reads 0 (-1) := by
  constructor
  · exact dump_ne_reads (by decide)
  · exact dump_ne_reads (by decide)

end Chip8.Memory
