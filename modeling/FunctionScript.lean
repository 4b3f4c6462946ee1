import FunctionScript.Argument
import FunctionScript.Batch
import FunctionScript.Binary64.Arithmetic
import FunctionScript.Binary64.Basic
import FunctionScript.Binary64.Nearest
import FunctionScript.Binary64.Order
import FunctionScript.Command
import FunctionScript.CommandLine
import FunctionScript.Decimal.Digits
import FunctionScript.Decimal.Fixed
import FunctionScript.Decimal.Layout
import FunctionScript.Decimal.Literal
import FunctionScript.Decimal.Quotient
import FunctionScript.Decimal.Shortest
import FunctionScript.Effect
import FunctionScript.Environment.Bindings
import FunctionScript.Environment.Frames
import FunctionScript.ErrorChain
import FunctionScript.Evaluation
import FunctionScript.EventLine
import FunctionScript.Failure
import FunctionScript.FileTree
import FunctionScript.Function
import FunctionScript.Json.Basic
import FunctionScript.Json.Compact
import FunctionScript.Json.Fault
import FunctionScript.Json.NumberReader
import FunctionScript.Json.Reader
import FunctionScript.Json.StringReader
import FunctionScript.Machine
import FunctionScript.Main
import FunctionScript.Numeral
import FunctionScript.OsText
import FunctionScript.Script
import FunctionScript.Session
import FunctionScript.Sink
import FunctionScript.Table
import FunctionScript.Text.ControlSequence
import FunctionScript.Text.Printable
import FunctionScript.Text.Quoted
import FunctionScript.Text.Similarity
import FunctionScript.Text.Utf8
import FunctionScript.Proofs.Chain
import FunctionScript.Proofs.Shape
import FunctionScript.Proofs.Evaluation
import FunctionScript.Proofs.View
import FunctionScript.Proofs.Simulation
import FunctionScript.Proofs.Inlining
import FunctionScript.Proofs.Effects
import FunctionScript.Proofs.ErrorChains
import FunctionScript.Proofs.Locality
import FunctionScript.Proofs.Closedness
import FunctionScript.Proofs.CallPath
import FunctionScript.Proofs.Sinks
import FunctionScript.Proofs.FullSink
import FunctionScript.Proofs.DispatchTrace
import FunctionScript.Proofs.CallGraph
import FunctionScript.Proofs.Termination
import FunctionScript.Proofs.WellFormed
import FunctionScript.Proofs.Balance
import FunctionScript.Proofs.Footprint
import FunctionScript.Proofs.ScriptGrammar
import FunctionScript.Proofs.Layers
import FunctionScript.Proofs.CallStack
import FunctionScript.Proofs.FailurePath
import FunctionScript.Proofs.NearestMagnitude
import FunctionScript.Proofs.ShortestDigits
import FunctionScript.Proofs.RangeCheck
import FunctionScript.Proofs.NumeralText
import FunctionScript.Proofs.ShortestText
import FunctionScript.Proofs.ArithmeticScripts
import FunctionScript.Proofs.UnreachedFunctions
import FunctionScript.Proofs.ByteOrder
import FunctionScript.Proofs.MemberOrder
import FunctionScript.Proofs.FirstFault
import FunctionScript.Proofs.Batches
import FunctionScript.Proofs.BufferedOutput
import FunctionScript.Proofs.OneLineMessages
import FunctionScript.Json.Equality
import FunctionScript.Proofs.Arena
import FunctionScript.Proofs.ArgumentBinding
import FunctionScript.Proofs.BuiltinFailures
import FunctionScript.Proofs.NetEffect
import FunctionScript.Proofs.Assignment
import FunctionScript.Proofs.Deletion
import FunctionScript.Proofs.IndependentNames
import FunctionScript.Proofs.ClosestMagnitude
import FunctionScript.Proofs.StableNumerals
import FunctionScript.Proofs.CorrectRounding
import FunctionScript.Proofs.DecimalGrid
import FunctionScript.Proofs.LosslessStorage
import FunctionScript.Proofs.ShortestReadBack
import FunctionScript.Proofs.NumeralGrammar
import FunctionScript.Proofs.NumeralReading
import FunctionScript.Proofs.DocumentNumbers
import FunctionScript.Proofs.CommandLineRuns
