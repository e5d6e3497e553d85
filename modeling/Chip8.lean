import Chip8.FrameLoop
import Chip8.Main
import Chip8.Picture
import Chip8.Processor.Probe
import Chip8.Proofs.Decoding
import Chip8.Proofs.Footprint
import Chip8.Proofs.Replay
import Chip8.Proofs.Invariant
import Chip8.Proofs.Aftermath
import Chip8.Proofs.Faults
import Chip8.Proofs.Subroutine
import Chip8.Proofs.KeyWait
import Chip8.Proofs.Sprite
import Chip8.Proofs.Accounting
import Chip8.Proofs.Containment
import Chip8.Proofs.Diagnostic
import Chip8.Proofs.Listing
import Chip8.Proofs.Timers
import Chip8.Proofs.Acceptance
import Chip8.Proofs.Keys
import Chip8.Proofs.Influence
import Chip8.Proofs.Parity
import Chip8.Proofs.StraightLine
import Chip8.Proofs.ControlFlow
import Chip8.Proofs.SaveRestore
import Chip8.Proofs.Arithmetic
import Chip8.Proofs.Glyphs
import Chip8.Proofs.Hooks
import Chip8.Proofs.Overlay
import Chip8.Proofs.Draws
import Chip8.Proofs.RegisterLine
import Chip8.Proofs.Painting
import Chip8.Proofs.LastStore
import Chip8.Proofs.CellParity
import Chip8.Proofs.Dump
import Chip8.Proofs.Numeral
