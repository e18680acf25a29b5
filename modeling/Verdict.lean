import Verdict.Evaluation.Evaluate
import Verdict.Logging.Line
import Verdict.Pattern.Language
import Verdict.Proofs.Evaluation.Locality
import Verdict.Proofs.Sentence.Basic
import Verdict.Rule.Basic
import Verdict.Rule.Limits
import Verdict.Settings.Basic
import Verdict.Proofs.Sentence.Legible
import Verdict.Proofs.Sentence.Reader
import Verdict.Proofs.Sentence.Leaves
import Verdict.Proofs.Sentence.ReadBack
import Verdict.Proofs.Evaluation.Inequality
import Verdict.Proofs.Sentence.Grouping
import Verdict.Proofs.Sentence.Unambiguous
import Verdict.Proofs.Datum.Shape
import Verdict.Proofs.Document.RoundTrip
import Verdict.Proofs.Rule.RoundTrip
import Verdict.Proofs.Evaluation.Chain
import Verdict.Proofs.Evaluation.Standing
import Verdict.Proofs.Evaluation.Provenance
import Verdict.Proofs.Document.Spelling
import Verdict.Proofs.Document.Significand
import Verdict.Proofs.Document.Magnitude
import Verdict.Proofs.Document.Grammar
import Verdict.Proofs.Document.Reading
import Verdict.Proofs.Document.Spelled
import Verdict.Proofs.Document.Blanks
import Verdict.Proofs.Datum.Order
import Verdict.Proofs.Rule.Canonical
import Verdict.Proofs.Rule.Entry
import Verdict.Proofs.Rule.Agreement
import Verdict.Proofs.Rule.Position
import Verdict.Proofs.Evaluation.Visits
import Verdict.Proofs.Evaluation.Invocations
import Verdict.Proofs.Sentence.Inequality
import Verdict.Proofs.Datum.Equality
import Verdict.Proofs.Evaluation.Values
import Verdict.Proofs.Evaluation.Membership
import Verdict.Proofs.Rule.Acceptance
import Verdict.Proofs.Text.Bytes
import Verdict.Proofs.Evaluation.WriteOnce
import Verdict.Proofs.Rule.Surroundings
import Verdict.Proofs.Evaluation.Composition
import Verdict.Proofs.Evaluation.Budget
import Verdict.Proofs.Datum.Exposure
import Verdict.Proofs.Evaluation.Congruence
import Verdict.Proofs.Text.Units
import Verdict.Proofs.Datum.Comparison
import Verdict.Proofs.Evaluation.Reporting
import Verdict.Proofs.Numeral.Digits
import Verdict.Proofs.Numeral.Grammar
import Verdict.Proofs.Text.Pieces
import Verdict.Proofs.Cidr.Grammar
import Verdict.Proofs.Cidr.LeadingBits
import Verdict.Proofs.Datum.Resolution
import Verdict.Proofs.Binary64.Rounding
import Verdict.Proofs.Binary64.Shortest
import Verdict.Proofs.Binary64.Figures
import Verdict.Proofs.Binary64.Written
import Verdict.Proofs.Document.Scaling
import Verdict.Proofs.Document.Float
import Verdict.Proofs.Rule.FloatLiteral
import Verdict.Proofs.Binary64.Integers
import Verdict.Proofs.Number.Text
import Verdict.Proofs.Datum.Numbers
import Verdict.Proofs.Sentence.Pattern
import Verdict.Proofs.Text.Brackets
import Verdict.Proofs.Datum.Brackets
import Verdict.Proofs.Sentence.Brackets
import Verdict.Proofs.Datum.Leaves
import Verdict.Proofs.Sentence.LiteralText
import Verdict.Proofs.Text.ScalarOrder
