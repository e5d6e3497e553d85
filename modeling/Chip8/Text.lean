/-!
Text as a sequence of code points. Escapes can name the halves of surrogate pairs one by one, so a
text may hold halves, which are no characters.
-/

namespace Chip8

inductive CodePoint where
  | char (c : Char)
  | half (code : Nat) (isHalf : 0xD800 ≤ code ∧ code ≤ 0xDFFF)
  deriving DecidableEq, Repr

namespace CodePoint

def code : CodePoint → Nat
  | char c => c.toNat
  | half code _ => code

def ofNat? (code : Nat) : Option CodePoint :=
  if isHalf : 0xD800 ≤ code ∧ code ≤ 0xDFFF then some (half code isHalf)
  else if code ≤ 0x10FFFF then some (char (Char.ofNat code))
  else none

def char? : CodePoint → Option Char
  | char c => some c
  | half .. => none

end CodePoint

structure Text where
  points : List CodePoint
  deriving DecidableEq, Repr

namespace Text

def ofChars (chars : List Char) : Text := ⟨chars.map .char⟩

def ofString (text : String) : Text := ofChars text.toList

instance : Coe String Text := ⟨ofString⟩

instance : Append Text := ⟨fun left right => ⟨left.points ++ right.points⟩⟩

def chars? (text : Text) : Option (List Char) := text.points.mapM CodePoint.char?

def isAtMost (left right : Text) : Bool := go left.points right.points
where
  go : List CodePoint → List CodePoint → Bool
    | [], _ => true
    | _ :: _, [] => false
    | p :: ps, q :: qs => p.code < q.code || (p.code == q.code && go ps qs)

theorem points_append (left right : Text) : (left ++ right).points = left.points ++ right.points :=
  rfl

theorem ofChars_append (left right : List Char) :
    ofChars (left ++ right) = ofChars left ++ ofChars right := by
  simp only [ofChars, List.map_append]
  rfl

theorem chars?_ofChars (chars : List Char) : (ofChars chars).chars? = some chars := by
  induction chars with
  | nil => rfl
  | cons c rest ih =>
    simp only [chars?, ofChars, List.map_cons, List.mapM_cons, CodePoint.char?] at ih ⊢
    simp [ih]

end Text

end Chip8
