import ScriptHost.Text.Ranges
import ScriptHost.Text.Blank
import ScriptHost.Text.Digit
import ScriptHost.Text.Word
import ScriptHost.Text.Printable
import ScriptHost.Text.LetterTable
import ScriptHost.Text.Letter
import ScriptHost.Text.Search
import ScriptHost.Text.GbkTable
import ScriptHost.Text.Gbk
import ScriptHost.Text.Charset
import ScriptHost.Text.Quoted
import ScriptHost.Number.Binary
import ScriptHost.Number.Complex
import ScriptHost.Number.Shortest
import ScriptHost.Number.Reading
import ScriptHost.Calendar.Date
import ScriptHost.Calendar.Moment
import ScriptHost.Calendar.Span
import ScriptHost.Calendar.Pattern
import ScriptHost.Random.Twister
import ScriptHost.Fault
import ScriptHost.Value.Basic
import ScriptHost.World.Disk
import ScriptHost.World.PathText
import ScriptHost.World.Basic
import ScriptHost.Value.Arithmetic
import ScriptHost.Value.Slice
import ScriptHost.Builtin.Signature
import ScriptHost.Builtin.TextFunction
import ScriptHost.Builtin.NumberFunction
import ScriptHost.Builtin.DateFunction
import ScriptHost.Builtin.ListFunction
import ScriptHost.World.Storage
import ScriptHost.Builtin.Dialog
import ScriptHost.Builtin.RandomFunction
import ScriptHost.Builtin.Routine
import ScriptHost.Object.Dictionary
import ScriptHost.Object.Reader
import ScriptHost.Object.Stream
import ScriptHost.Object.Registry
import ScriptHost.Object.Command
import ScriptHost.Object.Shell
import ScriptHost.Object.FileSystem
import ScriptHost.Object.Automation
import ScriptHost.Object.Creation
import ScriptHost.Object.HostObject
import ScriptHost.Object.Member
import ScriptHost.World.AnsiFile
import ScriptHost.Builtin.Catalog
import ScriptHost.World.Start
import ScriptHost.Formula.Token
import ScriptHost.Formula.Tree
import ScriptHost.Formula.Function
import ScriptHost.Formula.Evaluate
import ScriptHost.Script.Constant
import ScriptHost.Script.Argument
import ScriptHost.Script.Shape
import ScriptHost.Script.Expression
import ScriptHost.Script.Scene
import ScriptHost.Script.Statement
import ScriptHost.Script.Runner
import ScriptHost.Script.Library
import ScriptHost.Script.Demonstration
import ScriptHost.Json.Basic
import ScriptHost.Json.Reading
import ScriptHost.Measure.Sha256
import ScriptHost.Measure.Datum
import ScriptHost.Measure.Fingerprint
import ScriptHost.Measure.Profile
import ScriptHost.Measure.Suite
import ScriptHost.Measure.SemanticCheck
import ScriptHost.Measure.TimeShare
import ScriptHost.Text.LineBreak
import ScriptHost.Json.Conversion
import ScriptHost.Measure.CoverageRun
import ScriptHost.Measure.CoverageTable
import ScriptHost.Measure.Verdict
import ScriptHost.Measure.History
import ScriptHost.Measure.Round
import ScriptHost.Workload.Basic
import ScriptHost.Workload.Functions
import ScriptHost.Workload.Interpreter
import ScriptHost.Workload.Catalog
import ScriptHost.Workload.Tour
import ScriptHost.Main
import ScriptHost.Proofs.Acts
import ScriptHost.Proofs.AnsiRoundTrip
import ScriptHost.Proofs.Arguments
import ScriptHost.Proofs.Arithmetic
import ScriptHost.Proofs.ArithmeticTree
import ScriptHost.Proofs.BaseNumerals
import ScriptHost.Proofs.Calls
import ScriptHost.Proofs.CommaPlaces
import ScriptHost.Proofs.Comparisons
import ScriptHost.Proofs.Composition
import ScriptHost.Proofs.Concatenation
import ScriptHost.Proofs.Conditionals
import ScriptHost.Proofs.ConstantPasses
import ScriptHost.Proofs.Counting
import ScriptHost.Proofs.DateRecognition
import ScriptHost.Proofs.DateSpans
import ScriptHost.Proofs.DayNumbers
import ScriptHost.Proofs.Dependence
import ScriptHost.Proofs.Dialects
import ScriptHost.Proofs.Dictionaries
import ScriptHost.Proofs.DirectEvaluation
import ScriptHost.Proofs.ErrorMode
import ScriptHost.Proofs.ExactNumbers
import ScriptHost.Proofs.FailedSave
import ScriptHost.Proofs.FileTree
import ScriptHost.Proofs.Filtering
import ScriptHost.Proofs.Fingerprints
import ScriptHost.Proofs.FirstOccurrence
import ScriptHost.Proofs.FloorDivision
import ScriptHost.Proofs.FolderSizes
import ScriptHost.Proofs.GbkCodec
import ScriptHost.Proofs.Isolation
import ScriptHost.Proofs.Literals
import ScriptHost.Proofs.MakingFolders
import ScriptHost.Proofs.Members
import ScriptHost.Proofs.MessageBoxes
import ScriptHost.Proofs.Mirror
import ScriptHost.Proofs.NestedConditionals
import ScriptHost.Proofs.NoOverwrite
import ScriptHost.Proofs.Numerals
import ScriptHost.Proofs.OppositeDifferences
import ScriptHost.Proofs.Parentheses
import ScriptHost.Proofs.PathRoutes
import ScriptHost.Proofs.Plateaus
import ScriptHost.Proofs.QuotedStatements
import ScriptHost.Proofs.RandomNumbers
import ScriptHost.Proofs.Readers
import ScriptHost.Proofs.Refusals
import ScriptHost.Proofs.ReplacedPieces
import ScriptHost.Proofs.Replacement
import ScriptHost.Proofs.ReplacingLoop
import ScriptHost.Proofs.SameValues
import ScriptHost.Proofs.SavedScript
import ScriptHost.Proofs.Scanning
import ScriptHost.Proofs.ShellFolders
import ScriptHost.Proofs.SingleLine
import ScriptHost.Proofs.Spelling
import ScriptHost.Proofs.SplitAndJoin
import ScriptHost.Proofs.StaleSpellings
import ScriptHost.Proofs.StreamLines
import ScriptHost.Proofs.Substitution
import ScriptHost.Proofs.Substrings
import ScriptHost.Proofs.ThenElse
import ScriptHost.Proofs.Traces
import ScriptHost.Proofs.Trail
import ScriptHost.Proofs.Turns
import ScriptHost.Proofs.VariableStore
import ScriptHost.Proofs.WholeDoubles
import ScriptHost.Proofs.WholeRounding
import ScriptHost.Proofs.Writes
import ScriptHost.Proofs.WrittenDates
