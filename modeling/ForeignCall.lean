import ForeignCall.Buffer
import ForeignCall.Bytes
import ForeignCall.Call
import ForeignCall.CommandLine
import ForeignCall.Files.Path
import ForeignCall.Files.Tree
import ForeignCall.Frame
import ForeignCall.Frame.Registers
import ForeignCall.Frame.Stack
import ForeignCall.Kind
import ForeignCall.Loader
import ForeignCall.Log.Directive
import ForeignCall.Log.Event
import ForeignCall.Log.Filter
import ForeignCall.Log.Level
import ForeignCall.Log.Line
import ForeignCall.Log.Setup
import ForeignCall.Main
import ForeignCall.Marshal
import ForeignCall.Memory
import ForeignCall.Native.Access
import ForeignCall.Native.CLibrary
import ForeignCall.Native.Probe
import ForeignCall.Native.System
import ForeignCall.Number.Binary
import ForeignCall.Number.Decimal
import ForeignCall.Number.Layout
import ForeignCall.Number.Numeral
import ForeignCall.Number.Rounding
import ForeignCall.Number.Shortest
import ForeignCall.Outcome
import ForeignCall.Pattern
import ForeignCall.Pattern.Atom
import ForeignCall.Pattern.Class
import ForeignCall.Pattern.Reader
import ForeignCall.Pattern.Search
import ForeignCall.Plan
import ForeignCall.Program
import ForeignCall.Reference
import ForeignCall.Report
import ForeignCall.Report.Json
import ForeignCall.Routine
import ForeignCall.Settings
import ForeignCall.Slot
import ForeignCall.Status
import ForeignCall.Text.Ascii
import ForeignCall.Text.Blank
import ForeignCall.Text.Category
import ForeignCall.Text.Folding
import ForeignCall.Text.Ranges
import ForeignCall.Text.Utf8
import ForeignCall.Token
import ForeignCall.Toml.Bare
import ForeignCall.Toml.Document
import ForeignCall.Toml.Item
import ForeignCall.Toml.Quoted
import ForeignCall.Trap
import ForeignCall.Value
import ForeignCall.Variable
import ForeignCall.Writeback
import ForeignCall.Proofs.Outputs
import ForeignCall.Proofs.Landing
import ForeignCall.Proofs.Stages
import ForeignCall.Proofs.CallLog
import ForeignCall.Proofs.Rejection
import ForeignCall.Proofs.Defects
import ForeignCall.Proofs.Verdict
import ForeignCall.Proofs.Spellings
import ForeignCall.Proofs.Isolation
import ForeignCall.Proofs.Decoding
import ForeignCall.Proofs.DeclaredOrder
import ForeignCall.Proofs.LoaderHistory
import ForeignCall.Proofs.RoundTrip
import ForeignCall.Proofs.Encoding
import ForeignCall.Proofs.TokenGrammar
import ForeignCall.Proofs.ReturnTokens
import ForeignCall.Proofs.NumeralGrammar
import ForeignCall.Proofs.Scripts
import ForeignCall.Proofs.NumeralRange
import ForeignCall.Proofs.UntouchedTexts
import ForeignCall.Proofs.OwnBuffers
import ForeignCall.Proofs.ReferenceGrammar
import ForeignCall.Proofs.Addresses
import ForeignCall.Proofs.NullAddress
import ForeignCall.Proofs.SymbolSearch
import ForeignCall.Proofs.RealDeclarations
import ForeignCall.Proofs.Capacity
import ForeignCall.Proofs.CommandLines
import ForeignCall.Proofs.ShortestDecimals
import ForeignCall.Proofs.JsonTexts
import ForeignCall.Proofs.JsonReports
import ForeignCall.Proofs.Reservation
import ForeignCall.Proofs.StatusTexts
import ForeignCall.Proofs.PassedAgain
import ForeignCall.Proofs.Terminators
