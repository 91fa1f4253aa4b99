import Calculator.Parse
import Calculator.Explain
import Calculator.Evaluator.Real
import Calculator.Evaluator.Complex
import Calculator.Evaluator.Integer
import Calculator.Evaluator.Rendering
import Calculator.Proofs.Expression.Basic
import Calculator.Proofs.Expression.Items
import Calculator.Proofs.Group.Level
import Calculator.Proofs.Tree.Reading
import Calculator.Proofs.Tree.Completeness
import Calculator.Proofs.Group.Nesting
import Calculator.Proofs.Group.Product
import Calculator.Proofs.Group.Frames
import Calculator.Proofs.Group.Arrangement
import Calculator.Proofs.Tree.Soundness
import Calculator.Proofs.Expression.Spelling
import Calculator.Proofs.Parse.Soundness
import Calculator.Proofs.Expression.Gathering
import Calculator.Proofs.Parse.Completeness
import Calculator.Proofs.Group.Spacing
import Calculator.Proofs.Tree.Outcome
import Calculator.Proofs.Parse.Outcome
import Calculator.Proofs.Binary64.Rounding
import Calculator.Proofs.Decimal.Reading
import Calculator.Proofs.Decimal.Spelling
import Calculator.Proofs.Token.Pieces
import Calculator.Proofs.Tree.Postfix
import Calculator.Proofs.Tree.Rendering
import Calculator.Proofs.Parse.Postfix
import Calculator.Proofs.Evaluator.ValueStack
import Calculator.Proofs.Token.Longest
import Calculator.Proofs.Token.Tiling
import Calculator.Proofs.Expression.Chain
import Calculator.Proofs.Expression.Depth
import Calculator.Proofs.Parse.Depth
import Calculator.Proofs.Token.Joining
import Calculator.Proofs.Expression.Moving
import Calculator.Proofs.Evaluator.Calls
import Calculator.Proofs.Expression.Outside
import Calculator.Proofs.Evaluator.Arguments
import Calculator.Proofs.Parse.Enclosure
import Calculator.Proofs.Parse.Relaxation
import Calculator.Proofs.Group.Grounding
import Calculator.Proofs.Tree.Blame
import Calculator.Proofs.Parse.Blame
import Calculator.Proofs.Parse.Listing
import Calculator.Proofs.Group.Pushdown
import Calculator.Proofs.Group.Scope
import Calculator.Proofs.Tree.Inorder
import Calculator.Proofs.Token.Touching
import Calculator.Proofs.Expression.Uniqueness
import Calculator.Proofs.Tree.Bracketing
import Calculator.Proofs.Parse.Writing
import Calculator.Proofs.Parse.Bracketing
import Calculator.Proofs.Token.Respacing
import Calculator.Proofs.Group.Places
import Calculator.Proofs.Tree.Places
import Calculator.Proofs.Parse.Respacing
import Calculator.Proofs.Group.Insertion
import Calculator.Proofs.Parse.Products
import Calculator.Proofs.Evaluator.Integral
import Calculator.Proofs.Parse.Integral
import Calculator.Proofs.Binary64.Nearest
import Calculator.Proofs.Decimal.Nearest
import Calculator.Proofs.Binary64.Integer
import Calculator.Proofs.Binary64.Power
import Calculator.Proofs.Parse.Literal
import Calculator.Proofs.Evaluator.Agreement
import Calculator.Proofs.Evaluator.Division
import Calculator.Proofs.Evaluator.Summation
import Calculator.Proofs.Evaluator.Power
import Calculator.Proofs.Token.Digits
import Calculator.Proofs.Token.Integer
