import ListMarkup.Arguments
import ListMarkup.Builtin.Conditional
import ListMarkup.Builtin.LongForm
import ListMarkup.Builtin.ShortForm
import ListMarkup.CommandLine
import ListMarkup.Configuration.Basic
import ListMarkup.Configuration.Reader
import ListMarkup.Expansion
import ListMarkup.FunctionTable
import ListMarkup.Json.Fault
import ListMarkup.Json.Number
import ListMarkup.Json.Reader
import ListMarkup.Json.String
import ListMarkup.Json.Value
import ListMarkup.Keyword
import ListMarkup.Main
import ListMarkup.Markup.Fence
import ListMarkup.Markup.Matcher
import ListMarkup.Markup.Node
import ListMarkup.Markup.Token
import ListMarkup.Number.Binary64
import ListMarkup.Number.Numeral
import ListMarkup.Number.Ratio
import ListMarkup.Number.Shortest
import ListMarkup.Operator
import ListMarkup.Output
import ListMarkup.PairOperator
import ListMarkup.Pattern
import ListMarkup.Proofs.Markup.Lossless
import ListMarkup.Proofs.Markup.MatcherOffsets
import ListMarkup.Proofs.Markup.Matching
import ListMarkup.Proofs.Markup.Offsets
import ListMarkup.Proofs.Markup.Reading
import ListMarkup.Proofs.Markup.Tree
import ListMarkup.Proofs.Markup.Writing
import ListMarkup.Proofs.Merge.Cached
import ListMarkup.Proofs.Merge.Fixpoint
import ListMarkup.Proofs.Merge.Forest
import ListMarkup.Proofs.Merge.Plain
import ListMarkup.Proofs.Text.Offsets
import ListMarkup.Site
import ListMarkup.Stages
import ListMarkup.Text.Basic
import ListMarkup.Text.Case
import ListMarkup.Text.Escaped
import ListMarkup.Text.Integer
import ListMarkup.Text.Quoted
import ListMarkup.Text.Separator
import ListMarkup.Text.Slice
import ListMarkup.Unicode.CaseMapping
import ListMarkup.Unicode.Cased
import ListMarkup.Unicode.CodePoint
import ListMarkup.Unicode.DecimalDigit
import ListMarkup.Unicode.Unprintable
import ListMarkup.Unicode.WhiteSpace
import ListMarkup.ValueList.Basic
import ListMarkup.ValueList.Distinct
import ListMarkup.ValueList.Membership
import ListMarkup.ValueList.Merge
import ListMarkup.ValueList.Order
import ListMarkup.ValueList.Position
import ListMarkup.Proofs.Markup.Tokens
import ListMarkup.Proofs.Markup.Locality
import ListMarkup.Proofs.Site.Rendering
import ListMarkup.Proofs.Markup.Composition
import ListMarkup.Proofs.Text.Escaped
import ListMarkup.Proofs.Text.Separator
import ListMarkup.Proofs.Text.Trimming
import ListMarkup.Proofs.ValueList.RoundTrip
import ListMarkup.Proofs.Markup.Inert
import ListMarkup.Proofs.Site.EscapedArgument
import ListMarkup.Proofs.Markup.Cascade
import ListMarkup.Proofs.Site.Lockstep
import ListMarkup.Proofs.Site.Counting
import ListMarkup.Proofs.Site.Nesting
import ListMarkup.Proofs.Site.DepthLimit
import ListMarkup.Proofs.Site.Answers
import ListMarkup.Proofs.Site.NestedCalls
import ListMarkup.Proofs.ValueList.Sorting
import ListMarkup.Proofs.ValueList.Distinct
import ListMarkup.Proofs.Arguments.Reading
import ListMarkup.Proofs.Builtin.Forms
import ListMarkup.Proofs.Arguments.Arrangement
import ListMarkup.Proofs.FunctionTable.Forms
import ListMarkup.Proofs.Builtin.Stripping
import ListMarkup.Proofs.FunctionTable.Registration
import ListMarkup.Proofs.ValueList.Normal
import ListMarkup.Proofs.ValueList.Membership
import ListMarkup.Proofs.Arguments.Order
import ListMarkup.Proofs.Markup.UnmarkedParts
import ListMarkup.Proofs.Site.TemplateCalls
import ListMarkup.Proofs.Text.Replacement
import ListMarkup.Proofs.Pattern.Substitution
import ListMarkup.Proofs.ValueList.Stability
import ListMarkup.Proofs.Merge.Grouping
import ListMarkup.Proofs.Merge.JoinedFields
import ListMarkup.Proofs.Text.EscapedForm
import ListMarkup.Proofs.Site.EscapedText
import ListMarkup.Proofs.Text.Named
import ListMarkup.Proofs.Site.Bindings
import ListMarkup.Proofs.Markup.Fragments
import ListMarkup.Proofs.Site.BoundText
import ListMarkup.Proofs.ValueList.FirstPlaces
import ListMarkup.Proofs.ValueList.Fields
import ListMarkup.Proofs.ValueList.Positions
import ListMarkup.Proofs.ValueList.Window
import ListMarkup.Proofs.Operator.WholeValue
import ListMarkup.Proofs.Builtin.Branches
import ListMarkup.Proofs.Site.Recursion
import ListMarkup.Proofs.Text.UpperCase
import ListMarkup.Proofs.Site.TemplateNames
import ListMarkup.Proofs.Number.Value
import ListMarkup.Proofs.ValueList.Comparison
import ListMarkup.Proofs.Text.Shape
import ListMarkup.Proofs.Number.Rounding
import ListMarkup.Proofs.Number.Numeral
import ListMarkup.Proofs.Number.Decimal
import ListMarkup.Proofs.Number.Leading
