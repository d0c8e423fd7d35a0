import Calculator.Expression.Summary
import Calculator.Main
import Calculator.Proofs.Linear.Matrix
import Calculator.Proofs.Linear.Reduction
import Calculator.Proofs.Linear.Outcomes
import Calculator.Proofs.Linear.Course
import Calculator.Proofs.Number.OrderedField
import Calculator.Proofs.Linear.ExactElimination
import Calculator.Proofs.Linear.ExactDeterminant
import Calculator.Proofs.Text.Pieces
import Calculator.Proofs.Text.Trim
import Calculator.Proofs.Text.CommandWord
import Calculator.Proofs.Text.Lists
import Calculator.Proofs.Linear.SystemGrammar
import Calculator.Proofs.Decimal.LiteralEnd
import Calculator.Proofs.Expression.Spacing
import Calculator.Proofs.Expression.Tree
import Calculator.Proofs.Expression.Rendering
import Calculator.Proofs.Linear.Pivots
import Calculator.Proofs.Newton.Affine
import Calculator.Proofs.Expression.Conversion
import Calculator.Proofs.Expression.WellFormed
import Calculator.Proofs.Decimal.ExactReading
import Calculator.Proofs.Number.SignAndMagnitude
import Calculator.Proofs.Decimal.ReadBack
import Calculator.Proofs.Linear.PrintedSystem
import Calculator.Proofs.Linear.ColumnOrder
import Calculator.Proofs.Linear.SystemRoundTrip
import Calculator.Proofs.Newton.Stopping
import Calculator.Proofs.Session.Runs
import Calculator.Proofs.Linear.Orthogonalization
import Calculator.Proofs.Linear.Similarity
import Calculator.Proofs.Expression.Assembly
import Calculator.Proofs.Expression.Registration
import Calculator.Proofs.Expression.Unmentioned
import Calculator.Proofs.Indexed.Access
import Calculator.Proofs.Indexed.Elimination
import Calculator.Proofs.Indexed.Determinant
import Calculator.Proofs.Indexed.Orthogonal
import Calculator.Proofs.Indexed.Newton
import Calculator.Proofs.Indexed.System
import Calculator.Proofs.Indexed.Answers
import Calculator.Proofs.Expression.Arrangement
import Calculator.Proofs.Expression.Group
import Calculator.Proofs.Nonlinear.Residual
import Calculator.Proofs.Expression.TreeOrder
import Calculator.Proofs.Nonlinear.Isolation
import Calculator.Proofs.Expression.PrintedTokens
import Calculator.Proofs.Number.Laws
import Calculator.Proofs.Linear.NotANumber
import Calculator.Proofs.Linear.Tolerance
import Calculator.Proofs.Session.Bindings
import Calculator.Proofs.Decimal.PlainNumber
import Calculator.Proofs.Linear.LongestNumber
import Calculator.Proofs.Linear.MatrixGrammar
import Calculator.Proofs.Linear.PendingRow
import Calculator.Proofs.Linear.CommandWords
import Calculator.Proofs.Linear.PrintedMatrix
import Calculator.Proofs.Expression.CommandText
import Calculator.Proofs.Linear.LeadingColumns
import Calculator.Proofs.Expression.MaximalMunch
import Calculator.Proofs.Indexed.Spacing
