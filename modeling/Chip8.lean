import Chip8.Main
import Chip8.Proofs.Calls
import Chip8.Proofs.Stopped
import Chip8.Proofs.Tracing
import Chip8.Proofs.Commuting
import Chip8.Proofs.Entries
import Chip8.Proofs.Timers
import Chip8.Proofs.Pace
import Chip8.Proofs.DecodeTable
import Chip8.Proofs.Presenting
import Chip8.Proofs.Keys
import Chip8.Proofs.Endings
import Chip8.Proofs.ByteMap
import Chip8.Proofs.FarJumps
import Chip8.Proofs.Speaker
import Chip8.Proofs.Indifference
import Chip8.Proofs.Acceptance
import Chip8.Proofs.Arithmetic
import Chip8.Proofs.Shifts
import Chip8.Proofs.Parity
import Chip8.Proofs.Transfers
import Chip8.Proofs.Branching
import Chip8.Proofs.Waiting
import Chip8.Proofs.Picture
import Chip8.Proofs.Registration
import Chip8.Proofs.History
import Chip8.Proofs.Diagnostics
import Chip8.Proofs.Glyphs
import Chip8.Proofs.Lines
