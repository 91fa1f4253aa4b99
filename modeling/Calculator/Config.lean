/-!
# Settings

What a reader of expressions may be told: which identifiers are constants, how
deep an expression may nest, and whether brackets have to match in kind.
-/

namespace Calculator

structure Config where
  constants : List String := ["pi", "e", "phi", "i", "I"]
  maxDepth : Nat := 200
  strictBrackets : Bool := true
  maxDepth_pos : 0 < maxDepth := by decide

/-- Settings are refused if their limit of nesting is not positive. -/
inductive ConfigProblem
  | depthNotPositive (limit : Int)
deriving DecidableEq

namespace ConfigProblem

def message : ConfigProblem → String
  | depthNotPositive limit => "max_depth must be positive, got " ++ toString limit

end ConfigProblem

namespace Config

/-- The settings used where none are given. -/
def standard : Config := {}

instance : Inhabited Config := ⟨standard⟩

/-- Settings with the given limit of nesting, which has to be positive. -/
def create (constants : List String) (maxDepth : Int) (strictBrackets : Bool) :
    Except ConfigProblem Config :=
  if positive : 0 < maxDepth then
    .ok ⟨constants, maxDepth.toNat, strictBrackets, by omega⟩
  else .error (.depthNotPositive maxDepth)

/-- The same settings with further constants. -/
def withConstants (config : Config) (names : List String) : Config :=
  { config with constants := config.constants ++ names }

def isConstant (config : Config) (name : String) : Bool := config.constants.contains name

/-- The names of the constants, each once, in alphabetical order. -/
def constantNames (config : Config) : List String :=
  config.constants.eraseDups.mergeSort fun a b => decide (a ≤ b)

end Config

end Calculator
