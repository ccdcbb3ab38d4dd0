import Microbus.Address
import Microbus.Alu
import Microbus.Assembly.Line
import Microbus.Assembly.Literal
import Microbus.Assembly.Operand
import Microbus.Assembly.Problem
import Microbus.Assembly.Program
import Microbus.Assembly.Reader
import Microbus.Assembly.Statement
import Microbus.Bus
import Microbus.BusPart
import Microbus.CommandLine
import Microbus.Console
import Microbus.ControlWord
import Microbus.Datapath
import Microbus.Emulator.Basic
import Microbus.Emulator.History
import Microbus.Emulator.Run
import Microbus.Fault
import Microbus.Files
import Microbus.FlagRegister
import Microbus.Flags
import Microbus.Instruction.Basic
import Microbus.Instruction.Encoding
import Microbus.Instruction.Text
import Microbus.Journal
import Microbus.Machine.Basic
import Microbus.Machine.Cycle
import Microbus.Machine.Run
import Microbus.Main
import Microbus.Memory.Basic
import Microbus.Memory.Image
import Microbus.Memory.Ram
import Microbus.Microcode
import Microbus.Node
import Microbus.Output.Device
import Microbus.Output.Panel
import Microbus.Output.Port
import Microbus.Proofs.Assembly.Commands
import Microbus.Proofs.Assembly.Execution
import Microbus.Proofs.Assembly.Folding
import Microbus.Proofs.Assembly.Formatting
import Microbus.Proofs.Assembly.Grammar
import Microbus.Proofs.Assembly.Lines
import Microbus.Proofs.Assembly.Operands
import Microbus.Proofs.Assembly.Overflow
import Microbus.Proofs.Assembly.Positions
import Microbus.Proofs.Assembly.Printed
import Microbus.Proofs.Assembly.Readers
import Microbus.Proofs.Assembly.RoundTrip
import Microbus.Proofs.Assembly.Scan
import Microbus.Proofs.Assembly.Source
import Microbus.Proofs.Assembly.Variants
import Microbus.Proofs.Calls
import Microbus.Proofs.Cycle.AnyWord
import Microbus.Proofs.Cycle.Clash
import Microbus.Proofs.Cycle.Core
import Microbus.Proofs.Cycle.Halves
import Microbus.Proofs.Cycle.Outcomes
import Microbus.Proofs.Cycle.Progress
import Microbus.Proofs.Cycle.Sequence
import Microbus.Proofs.Cycle.Whole
import Microbus.Proofs.Cycle.Word
import Microbus.Proofs.Datapath.Contents
import Microbus.Proofs.Datapath.Resolution
import Microbus.Proofs.Datapath.Transfer
import Microbus.Proofs.Displays
import Microbus.Proofs.Emulator.Breakpoints
import Microbus.Proofs.Emulator.History
import Microbus.Proofs.Emulator.Outcomes
import Microbus.Proofs.Emulator.Termination
import Microbus.Proofs.Emulator.Trajectory
import Microbus.Proofs.Files
import Microbus.Proofs.Instruction.Correctness
import Microbus.Proofs.Instruction.Fetch
import Microbus.Proofs.Instruction.Meaning
import Microbus.Proofs.Instruction.Termination
import Microbus.Proofs.Instruction.Words
import Microbus.Proofs.Marks
import Microbus.Proofs.Memory.ImageText
import Microbus.Proofs.Memory.Loading
import Microbus.Proofs.Memory.Tokens
import Microbus.Proofs.QueuedFlags
import Microbus.Proofs.Reset
import Microbus.Proofs.SharedBus.Calls
import Microbus.Proofs.SharedBus.Parts
import Microbus.Proofs.SharedBus.WriteOnce
import Microbus.Proofs.ShortCircuit
import Microbus.Proofs.SourceAndImage
import Microbus.Proofs.Stack.Bounds
import Microbus.Proofs.Stack.Lifo
import Microbus.Proofs.Stack.Region
import Microbus.Proofs.Trace
import Microbus.RegName
import Microbus.Register
import Microbus.Text.CharClass
import Microbus.Text.Cluster
import Microbus.Text.ClusterClass
import Microbus.Text.Decimal
import Microbus.Text.DecimalInput
import Microbus.Text.Hex
import Microbus.Text.Lowercase
import Microbus.Text.Numeral
import Microbus.Text.Quoted
import Microbus.Text.WordChar
import Microbus.Text.Words
import Microbus.Transfer
