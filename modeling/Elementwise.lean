import Elementwise.Command.Check
import Elementwise.Command.Docs
import Elementwise.Command.Error
import Elementwise.Command.Invocation
import Elementwise.Command.Manual
import Elementwise.Command.Run
import Elementwise.Command.Stream
import Elementwise.Decimal.Arithmetic
import Elementwise.Decimal.Basic
import Elementwise.Decimal.Binary
import Elementwise.Decimal.Reading
import Elementwise.Eval.Arguments
import Elementwise.Eval.Arithmetic
import Elementwise.Eval.Conversion
import Elementwise.Eval.Dates
import Elementwise.Eval.Fault
import Elementwise.Eval.Library
import Elementwise.Eval.Mathematics
import Elementwise.Eval.Query
import Elementwise.Eval.Strings
import Elementwise.Eval.Term
import Elementwise.Expr.Basic
import Elementwise.Expr.Parser
import Elementwise.Guid
import Elementwise.Json.Basic
import Elementwise.Json.Number
import Elementwise.Json.Printer
import Elementwise.Json.Reader
import Elementwise.Library.Builtin
import Elementwise.Library.Catalog
import Elementwise.Library.Instance
import Elementwise.Library.Member
import Elementwise.Library.Query
import Elementwise.Library.Standard
import Elementwise.Main
import Elementwise.Number.Basic
import Elementwise.Number.Binary
import Elementwise.Number.Kind
import Elementwise.Number.Layout
import Elementwise.Number.Reading
import Elementwise.Number.Rounding
import Elementwise.Number.Shortest
import Elementwise.Operator
import Elementwise.Proofs.Binder
import Elementwise.Proofs.Bounds.Calendar
import Elementwise.Proofs.Bounds.Evaluation
import Elementwise.Proofs.Bounds.Value
import Elementwise.Proofs.Calls
import Elementwise.Proofs.Command.Diagnostics
import Elementwise.Proofs.Command.Lines
import Elementwise.Proofs.Command.Stream
import Elementwise.Proofs.Construction.Literal
import Elementwise.Proofs.Convertible.Branches
import Elementwise.Proofs.Convertible.Overload
import Elementwise.Proofs.Exact.Arithmetic
import Elementwise.Proofs.Exact.Coercion
import Elementwise.Proofs.Exact.Conversion
import Elementwise.Proofs.Exact.Date
import Elementwise.Proofs.Exact.Double
import Elementwise.Proofs.Exact.Number
import Elementwise.Proofs.Exact.Operator
import Elementwise.Proofs.Exact.Reading
import Elementwise.Proofs.Exact.Rounding
import Elementwise.Proofs.Exact.Span
import Elementwise.Proofs.Exact.Sum
import Elementwise.Proofs.Exact.Total
import Elementwise.Proofs.Exact.Widening
import Elementwise.Proofs.Framing.Fault
import Elementwise.Proofs.Framing.Text
import Elementwise.Proofs.Hereditary.Binding
import Elementwise.Proofs.Hereditary.Operator
import Elementwise.Proofs.Layout.Lexer
import Elementwise.Proofs.Layout.Stage
import Elementwise.Proofs.LetterCase.Lexer
import Elementwise.Proofs.LetterCase.Stage
import Elementwise.Proofs.LetterCase.Text
import Elementwise.Proofs.Library.AllowList
import Elementwise.Proofs.Library.Builder
import Elementwise.Proofs.Library.Catalog
import Elementwise.Proofs.Library.TypeNames
import Elementwise.Proofs.Nullable.Binding
import Elementwise.Proofs.Nullable.Conversion
import Elementwise.Proofs.Nullable.Operator
import Elementwise.Proofs.Nullable.Relational
import Elementwise.Proofs.Number.Arithmetic
import Elementwise.Proofs.Number.Binary
import Elementwise.Proofs.Number.Comparison
import Elementwise.Proofs.Number.Digits
import Elementwise.Proofs.Number.Layout
import Elementwise.Proofs.Number.Machine
import Elementwise.Proofs.Number.Nearest
import Elementwise.Proofs.Number.Shortest
import Elementwise.Proofs.Order.Rank
import Elementwise.Proofs.Order.Sorting
import Elementwise.Proofs.Outcome
import Elementwise.Proofs.Pervasive.Character
import Elementwise.Proofs.Pervasive.Evaluation
import Elementwise.Proofs.Pervasive.Function
import Elementwise.Proofs.Pervasive.Query
import Elementwise.Proofs.Pervasive.Value
import Elementwise.Proofs.Propagation.Binding
import Elementwise.Proofs.Propagation.Chain
import Elementwise.Proofs.Query.Predicate
import Elementwise.Proofs.Query.Selection
import Elementwise.Proofs.Relabelling.Parser
import Elementwise.Proofs.Relabelling.Typing
import Elementwise.Proofs.Renaming.Binding
import Elementwise.Proofs.Renaming.Context
import Elementwise.Proofs.Simulation.Member
import Elementwise.Proofs.Simulation.Outcome
import Elementwise.Proofs.Simulation.Query
import Elementwise.Proofs.Simulation.Term
import Elementwise.Proofs.Soundness.Binding
import Elementwise.Proofs.Soundness.Builtin
import Elementwise.Proofs.Soundness.Conversion
import Elementwise.Proofs.Soundness.Dates
import Elementwise.Proofs.Soundness.Mathematics
import Elementwise.Proofs.Soundness.Operator
import Elementwise.Proofs.Soundness.Outcome
import Elementwise.Proofs.Soundness.Query
import Elementwise.Proofs.Soundness.Stage
import Elementwise.Proofs.Soundness.Strings
import Elementwise.Proofs.Soundness.Term
import Elementwise.Proofs.Soundness.Typing.Conversion
import Elementwise.Proofs.Soundness.Typing.Operator
import Elementwise.Proofs.Soundness.Typing.Query
import Elementwise.Proofs.Soundness.Value
import Elementwise.Proofs.Substitution.Binding
import Elementwise.Proofs.Substitution.Expr
import Elementwise.Proofs.Substitution.Select
import Elementwise.Proofs.Substitution.Term
import Elementwise.Proofs.Substitution.Typing
import Elementwise.Proofs.Syntax.Accepting
import Elementwise.Proofs.Syntax.Levels
import Elementwise.Proofs.Syntax.Nesting
import Elementwise.Proofs.Syntax.Reading
import Elementwise.Proofs.Syntax.Rendering
import Elementwise.Proofs.Syntax.RoundTrip
import Elementwise.Proofs.Syntax.Spelling
import Elementwise.Proofs.Text.Display
import Elementwise.Proofs.Text.Numeral
import Elementwise.Proofs.Text.Positions
import Elementwise.Proofs.Time.Calendar
import Elementwise.Proofs.Time.Grammar
import Elementwise.Proofs.Time.Reading
import Elementwise.Proofs.Time.Span
import Elementwise.Proofs.Time.Ticks
import Elementwise.Proofs.Time.Years
import Elementwise.Proofs.Tokens.Integer
import Elementwise.Proofs.Tokens.Literal
import Elementwise.Proofs.Tokens.Reading
import Elementwise.Proofs.Tokens.Real
import Elementwise.Proofs.Tokens.Tiling
import Elementwise.Proofs.Value.Decimals
import Elementwise.Proofs.Value.Decoding
import Elementwise.Proofs.Value.Equality
import Elementwise.Proofs.Value.Guid
import Elementwise.Proofs.Value.Numbers
import Elementwise.Proofs.Value.Places
import Elementwise.Proofs.Value.RoundTrip
import Elementwise.Proofs.Value.Scalars
import Elementwise.Regex.Basic
import Elementwise.Regex.Matching
import Elementwise.Regex.Parser
import Elementwise.Regex.Program
import Elementwise.Regex.Replacement
import Elementwise.Stage
import Elementwise.Term
import Elementwise.Text.Case
import Elementwise.Text.Char
import Elementwise.Text.Numeral
import Elementwise.Text.Search
import Elementwise.Text.Unicode.CaseMap
import Elementwise.Text.Unicode.Cased
import Elementwise.Text.Unicode.Letter
import Elementwise.Text.Unicode.Mark
import Elementwise.Text.Unicode.Number
import Elementwise.Time.Calendar
import Elementwise.Time.DateTime
import Elementwise.Time.Reading
import Elementwise.Time.Span
import Elementwise.Time.Text
import Elementwise.Token.Basic
import Elementwise.Token.Lexer
import Elementwise.Ty
import Elementwise.Typing.Binding
import Elementwise.Typing.Conversion
import Elementwise.Typing.Error
import Elementwise.Typing.Operator
import Elementwise.Typing.Overload
import Elementwise.Typing.Query
import Elementwise.Value.Basic
import Elementwise.Value.DayOfWeek
import Elementwise.Value.Decoding
import Elementwise.Value.Json
import Elementwise.Value.Order
import Elementwise.Value.Text
