import BindingLang.Binary64.Exact
import BindingLang.Binary64.Numeral
import BindingLang.Binary64.Shortest
import BindingLang.Binary64.Whole
import BindingLang.Command.Arguments
import BindingLang.Command.Basic
import BindingLang.Command.Run
import BindingLang.Dict
import BindingLang.Eval.Basic
import BindingLang.Eval.Error
import BindingLang.Eval.Host
import BindingLang.Eval.Operator
import BindingLang.Expr.Basic
import BindingLang.Expr.Builder
import BindingLang.Expr.Cursor
import BindingLang.Expr.Document
import BindingLang.Expr.Names
import BindingLang.Expr.ParseError
import BindingLang.Expr.Parser
import BindingLang.Integer
import BindingLang.Json.Basic
import BindingLang.Json.Convert
import BindingLang.Json.Reader
import BindingLang.Json.Writer
import BindingLang.Main
import BindingLang.Operator
import BindingLang.Pattern.Basic
import BindingLang.Pattern.Bracket
import BindingLang.Pattern.Escape
import BindingLang.Pattern.Match
import BindingLang.Pattern.Meaning
import BindingLang.Pattern.Place
import BindingLang.Pattern.Reader
import BindingLang.Power
import BindingLang.Proofs.Binary64.Integer
import BindingLang.Proofs.Binary64.Numeral
import BindingLang.Proofs.Binary64.Position
import BindingLang.Proofs.Binary64.Unpacked
import BindingLang.Proofs.Command.Document
import BindingLang.Proofs.Dict
import BindingLang.Proofs.Eval.Calls
import BindingLang.Proofs.Eval.Closed
import BindingLang.Proofs.Eval.Dependencies
import BindingLang.Proofs.Eval.Faults
import BindingLang.Proofs.Eval.Path
import BindingLang.Proofs.Eval.RepeatedKeys
import BindingLang.Proofs.Eval.Rules
import BindingLang.Proofs.Expr.Document
import BindingLang.Proofs.Expr.Entries
import BindingLang.Proofs.Expr.Grouping
import BindingLang.Proofs.Expr.Homomorphism
import BindingLang.Proofs.Expr.Marks
import BindingLang.Proofs.Expr.NameOrder
import BindingLang.Proofs.Expr.Numeral
import BindingLang.Proofs.Expr.Print
import BindingLang.Proofs.Expr.Words
import BindingLang.Proofs.Json.Reading
import BindingLang.Proofs.Json.RoundTrip
import BindingLang.Proofs.Json.Same
import BindingLang.Proofs.Parser.Adequacy
import BindingLang.Proofs.Parser.Chain
import BindingLang.Proofs.Parser.Conservation
import BindingLang.Proofs.Parser.Cursor
import BindingLang.Proofs.Parser.Enclosing
import BindingLang.Proofs.Parser.Ending
import BindingLang.Proofs.Parser.Extension
import BindingLang.Proofs.Parser.Faults
import BindingLang.Proofs.Parser.Finishing
import BindingLang.Proofs.Parser.Locality
import BindingLang.Proofs.Parser.Marks
import BindingLang.Proofs.Parser.NameOrder
import BindingLang.Proofs.Parser.Operand
import BindingLang.Proofs.Parser.RoundTrip
import BindingLang.Proofs.Parser.Run
import BindingLang.Proofs.Parser.Settled
import BindingLang.Proofs.Parser.Sign
import BindingLang.Proofs.Parser.Simulation
import BindingLang.Proofs.Parser.Termination
import BindingLang.Proofs.Parser.WellFormed
import BindingLang.Proofs.Scaled.Accuracy
import BindingLang.Proofs.Scaled.Reading
import BindingLang.Proofs.Scaled.Rounding
import BindingLang.Proofs.Scope.Evaluation
import BindingLang.Proofs.Scope.Frozen
import BindingLang.Proofs.Scope.Made
import BindingLang.Proofs.Scope.Mentions
import BindingLang.Proofs.Scope.Session
import BindingLang.Proofs.Scope.Sharing
import BindingLang.Proofs.Scope.This
import BindingLang.Proofs.Scope.View
import BindingLang.Proofs.Text.Search
import BindingLang.Proofs.Text.Split
import BindingLang.Proofs.Token.Progress
import BindingLang.Proofs.Token.Quotation
import BindingLang.Proofs.Token.Rank
import BindingLang.Proofs.Token.RoundTrip
import BindingLang.Proofs.Token.Spelling
import BindingLang.Proofs.Token.Tiling
import BindingLang.Proofs.Token.Valid
import BindingLang.Proofs.Token.Walk
import BindingLang.Proofs.Value.Equality
import BindingLang.Proofs.Value.Integers
import BindingLang.Proofs.Value.LooseEquality
import BindingLang.Proofs.Value.Mixed
import BindingLang.Proofs.Value.Order
import BindingLang.Proofs.Value.Positions
import BindingLang.Proofs.Value.Same
import BindingLang.Proofs.Value.Split
import BindingLang.Scaled.Arithmetic
import BindingLang.Scaled.Basic
import BindingLang.Scaled.Convert
import BindingLang.Scaled.Division
import BindingLang.Scope.Basic
import BindingLang.Scope.Workspace
import BindingLang.Symbol
import BindingLang.Text.Blank
import BindingLang.Text.Case
import BindingLang.Text.CaseTable
import BindingLang.Text.Category
import BindingLang.Text.Digit
import BindingLang.Text.Folding
import BindingLang.Text.Property
import BindingLang.Text.Ranges
import BindingLang.Text.Script
import BindingLang.Text.Search
import BindingLang.Token.Basic
import BindingLang.Token.Scanner
import BindingLang.Value.Access
import BindingLang.Value.Arithmetic
import BindingLang.Value.Basic
import BindingLang.Value.Builtin
import BindingLang.Value.Equality
import BindingLang.Value.Text
