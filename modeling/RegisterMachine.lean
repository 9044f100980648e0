import RegisterMachine.Word
import RegisterMachine.Register
import RegisterMachine.Capacity
import RegisterMachine.Text.Blank
import RegisterMachine.Text.Tokens
import RegisterMachine.Text.Lines
import RegisterMachine.Text.Fields
import RegisterMachine.Numeral
import RegisterMachine.Opcode
import RegisterMachine.Instruction
import RegisterMachine.Instruction.Decode
import RegisterMachine.Program
import RegisterMachine.Status
import RegisterMachine.Event
import RegisterMachine.Dialogue
import RegisterMachine.Console
import RegisterMachine.Host
import RegisterMachine.Console.Script
import RegisterMachine.Console.Reading
import RegisterMachine.Console.Terminal
import RegisterMachine.Machine
import RegisterMachine.Machine.Step
import RegisterMachine.Session
import RegisterMachine.CommandLine.Options
import RegisterMachine.CommandLine
import RegisterMachine.Main
import RegisterMachine.Proofs.Outcome
import RegisterMachine.Proofs.Execution
import RegisterMachine.Proofs.Unseen
import RegisterMachine.Proofs.History
import RegisterMachine.Proofs.Operands
import RegisterMachine.Proofs.Sound
import RegisterMachine.Proofs.Checked
import RegisterMachine.Proofs.Safety
import RegisterMachine.Proofs.StopCause
import RegisterMachine.Proofs.Literal
import RegisterMachine.Proofs.Tokens
import RegisterMachine.Proofs.Grammar
import RegisterMachine.Proofs.WrittenForm
import RegisterMachine.Proofs.Lines
import RegisterMachine.Proofs.Source
import RegisterMachine.Proofs.Layout
import RegisterMachine.Proofs.Concatenation
import RegisterMachine.Proofs.Annotated
import RegisterMachine.Proofs.Vocabulary
import RegisterMachine.Proofs.Simulation
import RegisterMachine.Proofs.Tracing
import RegisterMachine.Proofs.Transcript
import RegisterMachine.Proofs.TypedInput
import RegisterMachine.Proofs.ConsoleAgreement
import RegisterMachine.Proofs.Answers
import RegisterMachine.Proofs.Loading
import RegisterMachine.Proofs.Rewinding
import RegisterMachine.Proofs.Memory
import RegisterMachine.Proofs.HiddenCapacity
import RegisterMachine.Proofs.LineReading
import RegisterMachine.Proofs.StepAccount
import RegisterMachine.Proofs.LastNotice
import RegisterMachine.Proofs.LogEntries
import RegisterMachine.Proofs.Logging
import RegisterMachine.Proofs.Chronicle
import RegisterMachine.Proofs.FailingOutput
import RegisterMachine.Proofs.Running
import RegisterMachine.Proofs.Wrapping
import RegisterMachine.Proofs.Effects
import RegisterMachine.Proofs.StopConditions
import RegisterMachine.Proofs.RegisterResults
import RegisterMachine.Proofs.ForwardControl
import RegisterMachine.Proofs.NextCounter
import RegisterMachine.Proofs.IgnoredOperands
import RegisterMachine.Proofs.Inspection
import RegisterMachine.Proofs.FirstDefect
import RegisterMachine.Proofs.Delivery
import RegisterMachine.Proofs.Factorial
import RegisterMachine.Proofs.RegisterColumns
import RegisterMachine.Proofs.Slicing
import RegisterMachine.Proofs.Arguments
import RegisterMachine.Proofs.WholeRun
