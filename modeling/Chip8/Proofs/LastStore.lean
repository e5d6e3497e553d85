import Chip8.Proofs.Loading

namespace Chip8.Memory

def hasCell (size : Nat) (address : Int) : Bool := decide (0 ≤ address ∧ address < size)

inductive Call where
  | write (address data : Int)
  | load (program : List Int) (start : Int)
  deriving DecidableEq, Repr

def placed (start : Int) : List Int → List (Int × Int)
  | [] => []
  | byte :: rest => (start, byte) :: placed (start + 1) rest

namespace Call

def action : Call → Action Fault Memory Unit
  | write address data => Memory.write address data
  | load program start => Memory.load start program

def requests : Call → List (Int × Int)
  | write address data => [(address, data)]
  | load program start => placed start program

/-- What is stored: the requests in front of the first one without a cell. -/
def stores (size : Nat) (call : Call) : List (Int × Int) :=
  call.requests.takeWhile fun request => hasCell size request.1

def refusal? (size : Nat) (call : Call) : Option Fault :=
  (call.requests.find? fun request => !hasCell size request.1).map fun request =>
    .outsideMemory request.1 size

end Call

def afterCalls (memory : Memory) (calls : List Call) : Memory :=
  calls.foldl (fun memory call => call.action.after memory) memory

def storeAll : List (Int × Int) → Action Fault Memory Unit
  | [] => pure ()
  | (address, data) :: rest => do
    write address data
    storeAll rest

theorem load_eq_storeAll (start : Int) (program : List Int) :
    load start program = storeAll (placed start program) := by
  induction program generalizing start with
  | nil => rfl
  | cons byte rest ih =>
      rw [load, placed, storeAll]
      congr 1
      funext _
      exact ih (start + 1)

theorem Call.action_eq_storeAll (call : Call) : call.action = storeAll call.requests := by
  cases call with
  | write address data =>
      funext memory
      rw [action, requests, storeAll, Action.bind_apply]
      cases Memory.write address data memory <;> rfl
  | load program start => exact load_eq_storeAll start program

/-- These stores, and nothing else, make the difference. -/
structure Stored (stores : List (Int × Int)) (before after : Memory) : Prop where
  size : after.size = before.size
  reads : ∀ address, after.read address =
    match stores.reverse.lookup address with
    | some data => .ok (lowByte data)
    | none => before.read address
  spare : after.spare = before.spare

variable {before middle after : Memory} {stores later : List (Int × Int)}

theorem Stored.refl (memory : Memory) : Stored [] memory memory where
  size := rfl
  reads _ := rfl
  spare := rfl

theorem Stored.trans (first : Stored stores before middle) (second : Stored later middle after) :
    Stored (stores ++ later) before after where
  size := second.size.trans first.size
  reads address := by
    rw [second.reads, first.reads, List.reverse_append, List.lookup_append]
    cases later.reverse.lookup address <;> rfl
  spare := second.spare.trans first.spare

theorem write_stored {memory : Memory} {address : Int} (data : Int)
    (inside : hasCell memory.size address = true) :
    ∃ done, write address data memory = .ok () done ∧ Stored [(address, data)] memory done := by
  obtain ⟨low, high⟩ := of_decide_eq_true inside
  obtain ⟨done, written, size, reads⟩ := memory.write_of_inside address data low high
  have spare := write_preserves_spare address data memory
  rw [Action.after_of_ok written] at spare
  refine ⟨done, written, size, fun other => ?_, spare⟩
  rw [reads other, List.reverse_singleton, List.lookup_cons]
  by_cases here : other = address
  · simp [here]
  · simp [here, beq_eq_false_iff_ne.mpr here]

/-- The step from one request to the next: a refusal ends the call and changes nothing. -/
theorem storeAll_stored (requests : List (Int × Int)) (memory : Memory) :
    Stored (requests.takeWhile fun request => hasCell memory.size request.1) memory
        ((storeAll requests).after memory) ∧
      (storeAll requests).refusal? memory =
        (requests.find? fun request => !hasCell memory.size request.1).map fun request =>
          .outsideMemory request.1 memory.size := by
  induction requests generalizing memory with
  | nil => exact ⟨.refl memory, rfl⟩
  | cons request rest ih =>
      obtain ⟨address, data⟩ := request
      cases inside : hasCell memory.size address with
      | true =>
          obtain ⟨next, written, stored⟩ := write_stored data inside
          have goesOn : storeAll ((address, data) :: rest) memory = storeAll rest next :=
            Action.bind_of_ok written
          obtain ⟨others, refusal⟩ := ih next
          rw [stored.size] at others refusal
          have head : ((address, data) :: rest).takeWhile
              (fun request => hasCell memory.size request.1) =
              [(address, data)] ++ rest.takeWhile fun request => hasCell memory.size request.1 := by
            simp [inside]
          rw [head, Action.after, Action.refusal?, goesOn]
          refine ⟨stored.trans others, refusal.trans ?_⟩
          simp [inside]
      | false =>
          have refused : storeAll ((address, data) :: rest) memory =
              .error (.outsideMemory address memory.size) memory :=
            Action.bind_of_error (memory.write_of_outside address data (of_decide_eq_false inside))
          have none : ((address, data) :: rest).takeWhile
              (fun request => hasCell memory.size request.1) = [] := by
            simp [inside]
          rw [none, Action.after_of_error refused, Action.refusal_of_error refused]
          refine ⟨.refl memory, ?_⟩
          simp [inside]

theorem Call.stored (call : Call) (memory : Memory) :
    Stored (call.stores memory.size) memory (call.action.after memory) := by
  rw [action_eq_storeAll]
  exact (storeAll_stored call.requests memory).1

theorem Call.refusal_action (call : Call) (memory : Memory) :
    call.action.refusal? memory = call.refusal? memory.size := by
  rw [action_eq_storeAll]
  exact (storeAll_stored call.requests memory).2

theorem afterCalls_stored (memory : Memory) (calls : List Call) :
    Stored (calls.flatMap (Call.stores memory.size)) memory (memory.afterCalls calls) := by
  induction calls generalizing memory with
  | nil => exact .refl memory
  | cons call rest ih =>
      have first := call.stored memory
      have others := ih (call.action.after memory)
      rw [first.size] at others
      rw [List.flatMap_cons]
      exact first.trans others

/-- A new memory, whatever is stored in it afterwards, in part or in full. Each address within the
size reads as the last value stored there, or as the font has it. The room behind the size, which is
kept for the font, stays as it is. -/
theorem last_store_is_read (size : Int) (positive : 0 < size) :
    ∃ memory, ofSize? size = some memory ∧ ∀ calls : List Call,
      (∀ address, (memory.afterCalls calls).read address =
          .error (.outsideMemory address size.toNat) ↔ address < 0 ∨ size ≤ address) ∧
      (∀ address, 0 ≤ address → address < size → (memory.afterCalls calls).read address =
        .ok (((calls.flatMap (Call.stores size.toNat)).reverse.lookup address).elim
          (Font.byteAt address.toNat) lowByte)) ∧
      (∀ call : Call,
        call.action.refusal? (memory.afterCalls calls) = call.refusal? size.toNat) ∧
      (memory.afterCalls calls).cells.toList.length = max size.toNat 80 ∧
      (memory.afterCalls calls).cells.toList.drop size.toNat =
        memory.cells.toList.drop size.toNat := by
  refine ⟨ofSize size.toNat, if_pos positive, fun calls => ?_⟩
  have stored : Stored (calls.flatMap (Call.stores size.toNat)) (ofSize size.toNat)
      ((ofSize size.toNat).afterCalls calls) :=
    afterCalls_stored (ofSize size.toNat) calls
  have kept : ((ofSize size.toNat).afterCalls calls).size = size.toNat := stored.size
  generalize (ofSize size.toNat).afterCalls calls = after at stored kept
  have spare : after.cells.toList.drop size.toNat = (ofSize size.toNat).spare :=
    (congrArg (fun start => after.cells.toList.drop start) kept.symm).trans stored.spare
  refine ⟨fun address => ⟨?beyond, ?refused⟩, ?last, ?calls, ?room, spare⟩
  case beyond =>
    intro refused
    refine Decidable.byContradiction fun within => ?_
    obtain ⟨byte, found⟩ := after.read_of_inside address (by omega) (by omega)
    cases found.symm.trans refused
  case refused =>
    intro outside
    rw [after.read_of_outside address (by omega), kept]
  case last =>
    intro address low high
    rw [stored.reads address]
    cases (calls.flatMap (Call.stores size.toNat)).reverse.lookup address with
    | some data => rfl
    | none => exact read_ofSize size.toNat low (by omega)
  case calls =>
    intro call
    rw [call.refusal_action, kept]
  case room =>
    rw [Vector.length_toList, kept]
    rfl

def fewCalls : List Call := [.write 2 0x1FF, .write (-1) 5, .load [1, 2, 3] 2, .write 4 9]

theorem last_store_is_read_small :
    ∃ memory, ofSize? 4 = some memory ∧
      (memory.afterCalls fewCalls).read 1 = .ok 0x90 ∧
      (memory.afterCalls fewCalls).read 2 = .ok 1 ∧
      (memory.afterCalls fewCalls).read 4 = .error (.outsideMemory 4 4) ∧
      (memory.afterCalls fewCalls).cells.toList.length = 80 := by
  obtain ⟨memory, made, afterAll⟩ := last_store_is_read 4 (by decide)
  obtain ⟨refused, last, -, room, -⟩ := afterAll fewCalls
  exact ⟨memory, made, last 1 (by decide) (by decide), last 2 (by decide) (by decide),
    (refused 4).mpr (.inr (by decide)), room⟩

end Chip8.Memory
