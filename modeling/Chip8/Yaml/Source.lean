import Chip8.Text.Utf8
import Chip8.Yaml.Error
/-!
A file as it comes: bytes by the chunk, decoded, and characters by the block, checked. A chunk that
is no UTF-8, or a block with a character that is not allowed, is refused as a whole, but not before
the reading comes to it.
-/

namespace Chip8.Yaml

/-- The characters that can be read, and what stops the reading behind them; nothing stops it at
the end of the file. -/
structure Source where
  chars : List Char
  fault : Option Error

namespace Source

def uniform : List Char → List Char
  | '\r' :: '\n' :: rest => '\n' :: uniform rest
  | '\r' :: rest => '\n' :: uniform rest
  | c :: rest => c :: uniform rest
  | [] => []

def isAllowed (c : Char) : Bool :=
  let code := c.toNat
  code == 0x09 || code == 0x0A || (0x20 ≤ code && code ≤ 0x7E) || code == 0x85 ||
    (0xA0 ≤ code && code ≤ 0xFFFD) || 0x10000 ≤ code

def chunkSize : Nat := 8192

def blockSize : Nat := 4096

/-- The bytes to come, the code point and the carriage return that the last chunk broke off at,
the characters not handed out yet, and how many bytes and characters the last chunk had. -/
structure Feed where
  bytes : List UInt8
  decoder : Utf8 := {}
  heldReturn : Bool := false
  ready : List Char := []
  lastBytes : Nat := 0
  lastChars : Nat := 0

namespace Feed

def nextSize (feed : Feed) (wanted : Nat) : Nat :=
  if feed.lastChars = 0 then chunkSize
  else max chunkSize (wanted * max feed.lastBytes feed.lastChars / feed.lastChars)

def fill? (feed : Feed) (wanted : Nat) : Option (Bool × Feed) := do
  let size := feed.nextSize wanted
  let chunk := feed.bytes.take size
  let (found, decoder) ← feed.decoder.decode? chunk
  if chunk.isEmpty ∧ decoder.missing ≠ 0 then none
  let releases := feed.heldReturn && (chunk.isEmpty || !found.isEmpty)
  let holds := !chunk.isEmpty && found.head? == some '\r'
  let kept := (if holds then found.drop 1 else found).reverse
  let chars := uniform (if releases then '\r' :: kept else kept)
  return (!chunk.isEmpty || !chars.isEmpty,
    { bytes := feed.bytes.drop size
      decoder := decoder
      heldReturn := holds || (feed.heldReturn && !releases)
      ready := feed.ready ++ chars
      lastBytes := chunk.length
      lastChars := chars.length })

def block? (feed : Feed) : Nat → Option (List Char × Feed)
  | 0 => some (feed.ready, { feed with ready := [] })
  | fuel + 1 => do
    let count := feed.ready.length
    if blockSize ≤ count then
      return (feed.ready.take blockSize, { feed with ready := feed.ready.drop blockSize })
    let (isMore, feed) ← feed.fill? (blockSize - count)
    if isMore then feed.block? fuel else return (feed.ready, { feed with ready := [] })

def rest (feed : Feed) : Nat → Source
  | 0 => ⟨[], none⟩
  | fuel + 1 =>
    match feed.block? (feed.bytes.length + 2) with
    | none => ⟨[], some .notUnicode⟩
    | some (block, feed) =>
      if block.isEmpty then ⟨[], none⟩
      else if block.all isAllowed then
        let later := feed.rest fuel
        ⟨block ++ later.chars, later.fault⟩
      else ⟨[], some .malformed⟩

end Feed

/-- The first two blocks are checked together. -/
def ofBytes (bytes : List UInt8) : Source :=
  let fuel := bytes.length + 2
  let start : Feed := { bytes := bytes }
  let found := do
    let (first, feed) ← start.block? fuel
    let (second, feed) ← feed.block? fuel
    return (first ++ second, feed)
  match found with
  | none => ⟨[], some .notUnicode⟩
  | some (chars, feed) =>
    if chars.all isAllowed then
      let later := feed.rest fuel
      ⟨chars ++ later.chars, later.fault⟩
    else ⟨[], some .malformed⟩

end Source

end Chip8.Yaml
