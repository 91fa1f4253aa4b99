import Calculator.Group.Brackets
import Calculator.Group.Product
import Calculator.Group.Suffix
import Calculator.Tree.Build
import Calculator.Tree.Stack

/-!
# Reading expressions

`parse` takes a text through all stages: tokens, constants and functions told
apart, nested brackets, implied products, suffix operators moved to the front,
tree. `parsePostfix` reads text in postfix order.
-/

namespace Calculator

namespace Token

/-- An identifier read as a constant or as a function; other tokens stay as they
are. -/
def classify (config : Config) (token : Token) : Token :=
  if token.kind = .identifier then
    if config.isConstant token.lexeme then { token with kind := .number, isConstant := true }
    else { token with kind := .operator, fixity := some .prefixed }
  else token

/-- The tokens of a text, with constants and functions told apart. -/
def ofSource (config : Config) (source : String) : Except ParseProblem (List Token) :=
  match ofText source with
  | .ok tokens => .ok (tokens.map (classify config))
  | .error error => .error (.unrecognized error)

end Token

/-- The bracket tree of tokens, ready for building: products spelled out and
suffix operators moved. -/
def Group.prepare (config : Config) (tokens : List Token) : Except ParseProblem Group := do
  let group ← Group.ofTokens config tokens
  group.insertProducts.relocateSuffixes config

/-- The tree of classified tokens, or none if there are none. -/
def Tree.ofTokens (config : Config) (tokens : List Token) : Except ParseProblem (Option Tree) := do
  let group ← Group.prepare config tokens
  Tree.ofGroup config group

/-- The tree of an expression, or none if the text holds only white space. Two things of
a host are left out: the texts of tokens, of groups and of the finished tree, which are
made only to be logged, and a limit on the depth of recursion. Only the settings limit how
deeply a text may be nested. -/
def parse (config : Config) (source : String) : Except ParseProblem (Option Tree) := do
  let tokens ← Token.ofSource config source
  Tree.ofTokens config tokens

/-- The trees of a text in postfix order. Nothing limits their height. -/
def parsePostfix (config : Config) (source : String) : Except ParseProblem (List Tree) := do
  let tokens ← Token.ofSource config source
  Tree.ofPostfix tokens

end Calculator
