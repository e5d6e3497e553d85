namespace Chip8

structure RandomSource where
  bytes : Nat → UInt8
  position : Nat

namespace RandomSource

def draw (source : RandomSource) : UInt8 × RandomSource :=
  (source.bytes source.position, { source with position := source.position + 1 })

/-- Answers the values over and over, each modulo 256; zeros if there are none. -/
def cycling (values : List Int) : RandomSource :=
  let values := values.toArray
  ⟨fun turn => UInt8.ofNat ((values[turn % values.size]?.getD 0) % 256).toNat, 0⟩

instance : Inhabited RandomSource := ⟨cycling []⟩

end RandomSource

end Chip8
