/-!
Bitwise operations on integers as infinite two's complement sequences: a negative integer is the
complement of a natural number.
-/

namespace Chip8.Bitwise

def without (m n : Nat) : Nat := m ^^^ (m &&& n)

def and : Int → Int → Int
  | .ofNat m, .ofNat n => .ofNat (m &&& n)
  | .ofNat m, .negSucc n => .ofNat (without m n)
  | .negSucc m, .ofNat n => .ofNat (without n m)
  | .negSucc m, .negSucc n => .negSucc (m ||| n)

def or : Int → Int → Int
  | .ofNat m, .ofNat n => .ofNat (m ||| n)
  | .ofNat m, .negSucc n => .negSucc (without n m)
  | .negSucc m, .ofNat n => .negSucc (without m n)
  | .negSucc m, .negSucc n => .negSucc (m &&& n)

def xor : Int → Int → Int
  | .ofNat m, .ofNat n => .ofNat (m ^^^ n)
  | .ofNat m, .negSucc n => .negSucc (m ^^^ n)
  | .negSucc m, .ofNat n => .negSucc (m ^^^ n)
  | .negSucc m, .negSucc n => .ofNat (m ^^^ n)

theorem and_natCast (m n : Nat) : and m n = (m &&& n : Nat) := rfl

theorem or_natCast (m n : Nat) : or m n = (m ||| n : Nat) := rfl

theorem xor_natCast (m n : Nat) : xor m n = (m ^^^ n : Nat) := rfl

end Chip8.Bitwise
