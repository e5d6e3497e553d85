namespace Chip8

/-- A code point that still lacks `missing` bytes; the next one lies between `low` and `high`. -/
structure Utf8 where
  missing : Nat := 0
  code : Nat := 0
  low : Nat := 0x80
  high : Nat := 0xBF

namespace Utf8

/-- The shortest writing only, no halves of surrogate pairs, and nothing beyond the last code
point. -/
def start? (byte : Nat) : Option Utf8 :=
  if byte < 0xC2 then none
  else if byte < 0xE0 then some { missing := 1, code := byte - 0xC0 }
  else if byte = 0xE0 then some { missing := 2, code := 0, low := 0xA0 }
  else if byte = 0xED then some { missing := 2, code := 0xD, high := 0x9F }
  else if byte < 0xF0 then some { missing := 2, code := byte - 0xE0 }
  else if byte = 0xF0 then some { missing := 3, code := 0, low := 0x90 }
  else if byte < 0xF4 then some { missing := 3, code := byte - 0xF0 }
  else if byte = 0xF4 then some { missing := 3, code := 4, high := 0x8F }
  else none

def next? (state : Utf8) (byte : Nat) : Option (Option Char × Utf8) :=
  match state.missing with
  | 0 =>
    if byte < 0x80 then some (some (Char.ofNat byte), {})
    else (start? byte).map fun started => (none, started)
  | missing + 1 =>
    if byte < state.low ∨ state.high < byte then none
    else
      let code := state.code * 64 + (byte - 0x80)
      if missing = 0 then some (some (Char.ofNat code), {})
      else some (none, { missing := missing, code := code })

def decode? (state : Utf8) (bytes : List UInt8) : Option (List Char × Utf8) :=
  bytes.foldlM
    (fun found byte => do
      let (found, state) := found
      let (char, state) ← state.next? byte.toNat
      return (char.toList ++ found, state))
    ([], state)

end Utf8

end Chip8
