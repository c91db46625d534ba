import WatText.Instr.Decode
import WatText.Node.Printer
import WatText.Node.Reader
import WatText.Workspace
import WatText.Cli.Machine
import WatText.Cli.World
import WatText.Proofs.Node.Tokens
import WatText.Proofs.Node.ReadBack
import WatText.Proofs.Signature.Params
import WatText.Proofs.Func.Runs
import WatText.Proofs.Module.History
import WatText.Proofs.Instr.Words
import WatText.Proofs.Recorder
import WatText.Proofs.Func.Restore
import WatText.Proofs.Module.Lossless
import WatText.Proofs.Signature.InOrder
import WatText.Proofs.Signature.Positions
import WatText.Proofs.Func.Counting
import WatText.Proofs.Recorder.Exact
import WatText.Proofs.Workspace.Questions
import WatText.Proofs.Module.Rendering
import WatText.Proofs.Func.Answers
import WatText.Proofs.Workspace.Inspections
import WatText.Proofs.Node.Flat
import WatText.Proofs.Node.LineEnds
import WatText.Proofs.Node.Indentation
import WatText.Proofs.Node.Counter
import WatText.Proofs.Text.Delimited
import WatText.Proofs.Instr.Acceptance
import WatText.Proofs.Instr.Decoding
import WatText.Proofs.Recorder.Unambiguous
import WatText.Proofs.Module.Lines
import WatText.Proofs.Func.Limits
import WatText.Proofs.Module.Log
import WatText.Proofs.Func.Growth
import WatText.Proofs.Workspace.History
import WatText.Proofs.Workspace.Copies
import WatText.Proofs.Module.WellFormed
import WatText.Proofs.Workspace.WellFormed
import WatText.Proofs.Func.Alike
import WatText.Proofs.Func.Reordering
import WatText.Proofs.Signature.Agreement
import WatText.Proofs.Module.Exchange
import WatText.Proofs.Module.Paths
import WatText.Proofs.Demo
import WatText.Proofs.Cli.Arguments
import WatText.Proofs.Cli.World
import WatText.Proofs.Cli.Program
