import StageThree.Adapter
import StageThree.Base64
import StageThree.Calendar
import StageThree.Coercion
import StageThree.CommandLine.Arguments
import StageThree.CommandLine.LogLevel
import StageThree.CommandLine.Program
import StageThree.CommandLine.World
import StageThree.Config
import StageThree.Decimal128
import StageThree.Double.Basic
import StageThree.Double.Numeral
import StageThree.Double.Rounding
import StageThree.Double.Shortest
import StageThree.Double.Text
import StageThree.Executor
import StageThree.Fields
import StageThree.FileName
import StageThree.Filter.Basic
import StageThree.Filter.Form
import StageThree.Filter.Native
import StageThree.Filter.Where
import StageThree.Json.Basic
import StageThree.Json.Lexer
import StageThree.Json.Literal
import StageThree.Json.Parser
import StageThree.Json.Printer
import StageThree.Json.Structure
import StageThree.Native.Basic
import StageThree.Native.Display
import StageThree.Native.ExtendedJson
import StageThree.Native.Reading
import StageThree.ObjectId
import StageThree.Options
import StageThree.Plan
import StageThree.Proofs.Comparison
import StageThree.Proofs.Compilation
import StageThree.Proofs.CreateFind
import StageThree.Proofs.Equality
import StageThree.Proofs.EqualityClause
import StageThree.Proofs.FilterMeaning
import StageThree.Proofs.LikePattern
import StageThree.Proofs.NamedFields
import StageThree.Proofs.Nesting
import StageThree.Proofs.Recursion
import StageThree.Proofs.Runnable
import StageThree.Proofs.ScalarValues
import StageThree.Proofs.StoreHistory
import StageThree.Proofs.Writing
import StageThree.Query
import StageThree.Reader
import StageThree.Record
import StageThree.Reduction
import StageThree.Regex.Basic
import StageThree.Regex.Bracket
import StageThree.Regex.CharSet
import StageThree.Regex.Escape
import StageThree.Regex.Pattern
import StageThree.Schema
import StageThree.Store.Basic
import StageThree.Store.Error
import StageThree.Store.Order
import StageThree.Store.Pipeline
import StageThree.Store.Predicate
import StageThree.Text.Blank
import StageThree.Text.Folding
import StageThree.Text.Word
import StageThree.Toml.Basic
import StageThree.Toml.Document
import StageThree.Toml.Scalar
import StageThree.Toml.Text
import StageThree.Toml.Tree
import StageThree.WordRange
import StageThree.Yaml.Node
import StageThree.Yaml.Scalar
import StageThree.Yaml.Token
import StageThree.Main
import StageThree.Proofs.Reductions
import StageThree.Proofs.Accumulation
import StageThree.Proofs.AdapterHistory
import StageThree.Proofs.StoredKey
import StageThree.Proofs.IntegerDoubles
import StageThree.Proofs.Sessions
import StageThree.Proofs.KeyLookup
import StageThree.Proofs.Conversion
import StageThree.Proofs.Policies
import StageThree.Proofs.IdentifierText
import StageThree.Proofs.EncodedText
import StageThree.Proofs.RoundTrip
import StageThree.Proofs.Resaving
import StageThree.Proofs.ConfiguredKey
import StageThree.Proofs.RegexLanguage
import StageThree.Proofs.Wildcards
import StageThree.Proofs.ClauseGrammar
import StageThree.Proofs.Commands
import StageThree.Proofs.Faults
import StageThree.Proofs.OperandTable
import StageThree.Proofs.ClauseTests
import StageThree.Proofs.SetOperators
import StageThree.Proofs.OrderingOperators
import StageThree.Proofs.EqualityLaws
import StageThree.Proofs.Groups
import StageThree.Proofs.GroupingOrder
import StageThree.Proofs.Extrema
import StageThree.Proofs.ExactSums
import StageThree.Proofs.ReturnedKey
import StageThree.Proofs.Respelling
import StageThree.Proofs.NumberWidths
import StageThree.Proofs.WidthBlindness
