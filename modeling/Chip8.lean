import Chip8.CommandLine.Session
import Chip8.Instruction.Lemmas
import Chip8.Keypad.Lemmas
import Chip8.Listing.Sink
import Chip8.Main
import Chip8.Memory.Lemmas
import Chip8.Proofs.Action
import Chip8.Proofs.AwaitKey
import Chip8.Proofs.Calls
import Chip8.Proofs.Circling
import Chip8.Proofs.Console
import Chip8.Proofs.Drawing
import Chip8.Proofs.Execute
import Chip8.Proofs.ExitKey
import Chip8.Proofs.Failure
import Chip8.Proofs.Faults
import Chip8.Proofs.FirstKey
import Chip8.Proofs.InPlace
import Chip8.Proofs.Step
import Chip8.Proofs.Stints
import Chip8.Proofs.Table
import Chip8.Proofs.Tick
import Chip8.Proofs.Timetable
import Chip8.Proofs.CatchUp
import Chip8.Proofs.Gap
import Chip8.Proofs.Tickets
import Chip8.Proofs.Emulator
import Chip8.Proofs.Repaint
import Chip8.Proofs.Shown
import Chip8.Proofs.Loading
import Chip8.Proofs.Contents
import Chip8.Proofs.Listing
import Chip8.Proofs.CutShort
import Chip8.Proofs.GivenBack
import Chip8.Proofs.Timers
import Chip8.Proofs.Assembler
import Chip8.Proofs.RandomBytes
import Chip8.Proofs.Rig
import Chip8.Proofs.Bounds
import Chip8.Proofs.DeadKeyboard
import Chip8.Proofs.Accounts
import Chip8.Proofs.Footprint
import Chip8.Proofs.Independence
import Chip8.Proofs.Interleaving
import Chip8.Proofs.Reassembly
import Chip8.Proofs.HeldKeys
import Chip8.Proofs.SinceClear
import Chip8.Proofs.Starvation
import Chip8.Proofs.Waiting
import Chip8.Proofs.TypedKeys
import Chip8.Proofs.StoreLoad
