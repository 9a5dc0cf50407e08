import Chip8.Screen.Blit
import Chip8.Device.Recorder
import Chip8.Device.Script
import Chip8.Device.Faulty
import Chip8.Main
import Chip8.Proofs.Traps
import Chip8.Proofs.Loading
import Chip8.Proofs.Frames
import Chip8.Proofs.Calls
import Chip8.Proofs.Suspension
import Chip8.Proofs.Showing
import Chip8.Proofs.Standstill
import Chip8.Proofs.Sounding
import Chip8.Proofs.HeldKeys
import Chip8.Proofs.Quitting
import Chip8.Proofs.Footprint
import Chip8.Proofs.Retention
import Chip8.Proofs.Indexing
import Chip8.Proofs.Packing
import Chip8.Proofs.Reporting
import Chip8.Proofs.FontBytes
import Chip8.Proofs.Tracing
import Chip8.Proofs.Countdown
import Chip8.Proofs.RandomNumbers
import Chip8.Proofs.Splitting
import Chip8.Proofs.Shifting
import Chip8.Proofs.KeyHistory
import Chip8.Proofs.Failing
import Chip8.Proofs.Drawing
import Chip8.Proofs.ExactArithmetic
import Chip8.Proofs.Overlaying
import Chip8.Proofs.HoldTimes
import Chip8.Proofs.Overwriting
import Chip8.Proofs.RegisterBlocks
import Chip8.Proofs.Unpacking
import Chip8.Proofs.Painting
import Chip8.Proofs.Forms
import Chip8.Proofs.KeyCodes
