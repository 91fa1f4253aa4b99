import Calculator.Config
import Calculator.Diagnostic
import Calculator.Text.Printable
import Calculator.Token.Scan

/-!
# Problems

The ways in which reading or computing an expression fails, each given by its
cause. The wording stands here and nowhere else.
-/

namespace Calculator

inductive ProblemKind
  | unrecognizedCharacter
  | unbalancedBrackets
  | mismatchedBrackets
  | trailingTokens
  | missingOperand
  | tooDeeplyNested
  | unknownFunction
  | unknownConstant
  | divisionByZero
  | domainError
deriving DecidableEq

namespace ProblemKind

/-- The kinds, each with its two names, the code of its problems and what the
code stands for. -/
def table : List (ProblemKind × String × String × String × String) :=
  [(unrecognizedCharacter, "UNRECOGNIZED_CHARACTER", "UnrecognizedCharacter", "L001",
      "Unrecognized character"),
    (unbalancedBrackets, "UNBALANCED_BRACKETS", "UnbalancedBrackets", "P001",
      "Unbalanced brackets"),
    (mismatchedBrackets, "MISMATCHED_BRACKETS", "MismatchedBrackets", "P002",
      "Mismatched brackets"),
    (trailingTokens, "TRAILING_TOKENS", "TrailingTokens", "P003", "Trailing tokens"),
    (missingOperand, "MISSING_OPERAND", "MissingOperand", "P004", "Missing operand"),
    (tooDeeplyNested, "TOO_DEEPLY_NESTED", "TooDeeplyNested", "P005",
      "Expression nested too deeply"),
    (unknownFunction, "UNKNOWN_FUNCTION", "UnknownFunction", "E001", "Unknown function"),
    (unknownConstant, "UNKNOWN_CONSTANT", "UnknownConstant", "E002", "Unknown constant"),
    (divisionByZero, "DIVISION_BY_ZERO", "DivisionByZero", "E003", "Division by zero"),
    (domainError, "DOMAIN_ERROR", "DomainError", "E004", "Math domain error")]

def name (kind : ProblemKind) : String :=
  match table.find? (·.1 == kind) with
  | some row => row.2.2.1
  | none => ""

def code (kind : ProblemKind) : String :=
  match table.find? (·.1 == kind) with
  | some row => row.2.2.2.1
  | none => ""

end ProblemKind

inductive Side
  | left
  | right
deriving DecidableEq

def Side.name : Side → String
  | left => "left"
  | right => "right"

/-- Why a token cannot be attached to the tree. -/
inductive Misplacement
  | noOperatorBetween
  | functionAfterOperand
  | bracketInPostfix
deriving DecidableEq

def Misplacement.reason : Misplacement → String
  | noOperatorBetween => "expected an operator between two terms"
  | functionAfterOperand => "a function cannot directly follow a complete operand"
  | bracketInPostfix => "brackets are not used in RPN input"

/-- Why a text is not an expression. -/
inductive ParseProblem
  | unrecognized (error : Unrecognized)
  | unclosedBracket (opener : Token)
  | strayBracket (closer : Token)
  | mismatchedBrackets (opener closer : Token)
  | misplaced (token : Token) (reason : Misplacement)
  | missingOperand (operator : Token) (side : Side)
  | emptyBrackets (bracket : String) (position : Int)
  | tooDeep (token : Option Token) (limit : Nat)
deriving DecidableEq

/-- What is known about a value outside the domain of an operation. Operations that
are not defined here tell it in their own words. -/
inductive DomainDetail
  | notIntegral (value : Number)
  | negativeExponent
  | outsideDomain
  | overflow
  | notFactorable
  | told (words : String)
deriving DecidableEq

def DomainDetail.text : DomainDetail → String
  | notIntegral value => value.text ++ " is not an integer"
  | negativeExponent => "negative exponent"
  | outsideDomain => "math domain error"
  | overflow => "math range error"
  | notFactorable => "factorial is only defined for non-negative integers"
  | told words => words

/-- Why a tree has no value. Each problem names the token it arose at. -/
inductive EvaluationProblem
  | unknownFunction (token : Token)
  | unknownConstant (token : Token)
  | divisionByZero (token : Token)
  | domainError (token : Token) (detail : Option DomainDetail)
deriving DecidableEq

/-- The closing bracket that belongs to an opening one. -/
def closerOf? (opener : String) : Option String :=
  (bracketPairs.find? fun pair => String.singleton pair.1 == opener).map
    fun pair => String.singleton pair.2

/-- What is told about a problem. -/
structure Report where
  kind : ProblemKind
  message : String
  position : Int
  help : Option String := none
  suggestions : List String := []
  lexeme : Option String := none

namespace Report

/-- A report about a token. -/
def atToken (kind : ProblemKind) (token : Token) (message : String) (help : Option String)
    (suggestions : List String) : Report :=
  ⟨kind, message, token.position, help, suggestions, some token.lexeme⟩

/-- The diagnostic of a report, with the text of the expression if it is to be
shown. -/
def diagnostic (report : Report) (source : Option String) : Diagnostic :=
  ⟨report.message, report.position, "error", some report.kind.code, report.help,
    report.suggestions, source⟩

end Report

namespace Unrecognized

/-- What to write instead of a character that is no operator. -/
def suggestions (character : Char) : List String :=
  if character = '|' then ["Use abs(x) instead of |x|"]
  else if character = '×' then ["Use '*' for multiplication"]
  else if character = '÷' then ["Use '/' for division"]
  else []

/-- The help for a character: shown as it is, or by its number if it cannot be
shown. -/
def help (character : Char) : String :=
  let shown := String.singleton character
  if Text.isPrintable character then
    "The character '" ++ shown ++ "' is not valid in an expression."
  else
    let number := String.ofList ((Text.hexadecimal 4 character.toNat).map Char.toUpper)
    "Non-printable character (Unicode: U+" ++ number ++ ") is not allowed."

def report (error : Unrecognized) : Report :=
  ⟨.unrecognizedCharacter,
    "Unrecognized character: '" ++ String.singleton error.character ++ "'", error.position,
    some (help error.character), suggestions error.character, none⟩

end Unrecognized

namespace ParseProblem

def report : ParseProblem → Report
  | unrecognized error => error.report
  | unclosedBracket opener =>
    let closer := (closerOf? opener.lexeme).getD ""
    Report.atToken .unbalancedBrackets opener
      ("Unclosed bracket '" ++ opener.lexeme ++ "'")
      (some ("The '" ++ opener.lexeme ++ "' at position " ++ toString opener.position
        ++ " was never closed."))
      ["Add a closing '" ++ closer ++ "'"]
  | strayBracket closer =>
    Report.atToken .unbalancedBrackets closer
      ("Unexpected closing bracket '" ++ closer.lexeme ++ "'")
      (some "There is no open bracket for this one to close.")
      ["Remove the bracket", "Add the matching opening bracket"]
  | mismatchedBrackets opener closer =>
    let expected := (closerOf? opener.lexeme).getD ""
    Report.atToken .mismatchedBrackets closer
      ("Expected '" ++ expected ++ "' to close '" ++ opener.lexeme ++ "', found '"
        ++ closer.lexeme ++ "'")
      (some ("The '" ++ opener.lexeme ++ "' at position " ++ toString opener.position
        ++ " must be closed by '" ++ expected ++ "'."))
      ["Replace '" ++ closer.lexeme ++ "' with '" ++ expected ++ "'"]
  | misplaced token reason =>
    Report.atToken .trailingTokens token
      ("Unexpected '" ++ token.lexeme ++ "': " ++ reason.reason)
      (some reason.reason) ["Check for a missing operator between terms"]
  | missingOperand operator side =>
    Report.atToken .missingOperand operator
      ("Operator '" ++ operator.lexeme ++ "' is missing its " ++ side.name ++ " operand")
      (some ("'" ++ operator.lexeme ++ "' needs an operand on its " ++ side.name ++ "."))
      ["Ensure all operators have operands"]
  | emptyBrackets bracket position =>
    ⟨.missingOperand,
      "Empty brackets '" ++ bracket ++ (closerOf? bracket).getD "" ++ "'", position,
      some "Brackets must contain an expression.",
      ["Remove the brackets", "Put an expression between them"], none⟩
  | tooDeep token limit =>
    ⟨.tooDeeplyNested,
      "Expression nested more than " ++ toString limit ++ " levels deep",
      token.elim (-1) Token.position,
      some "Simplify the expression or raise ParserConfig.max_depth.", [],
      token.map Token.lexeme⟩

end ParseProblem

namespace EvaluationProblem

def report : EvaluationProblem → Report
  | unknownFunction token =>
    Report.atToken .unknownFunction token ("Unknown function \"" ++ token.lexeme ++ "\"")
      (some "Register the function with the evaluator or supply a default handler.") []
  | unknownConstant token =>
    Report.atToken .unknownConstant token ("Unknown constant \"" ++ token.lexeme ++ "\"") none []
  | divisionByZero token =>
    Report.atToken .divisionByZero token ("Division by zero in '" ++ token.lexeme ++ "'") none []
  | domainError token detail =>
    Report.atToken .domainError token
      ("Math domain error in '" ++ token.lexeme ++ "'"
        ++ detail.elim "" fun detail => ": " ++ detail.text)
      none []

end EvaluationProblem

end Calculator
