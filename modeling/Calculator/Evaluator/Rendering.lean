import Calculator.Evaluator.Basic

/-!
# Rendering evaluators

Evaluators whose values are texts: one writes a tree between its operands, with
all brackets, the other in postfix order, where constants keep their names so
that the text can be read again.
-/

namespace Calculator

namespace Rendering

/-- The value of a literal shown as a text. -/
def literal (value : Value) : Except Fault Value := .ok (.text value.shown)

/-- A bracketed text with a symbol between two operands. -/
def between (symbol : String) : Operation :=
  .binary fun x y => .ok (.text ("(" ++ x.shown ++ symbol ++ y.shown ++ ")"))

def around (before behind : String) : Operation :=
  .unary fun x => .ok (.text (before ++ x.shown ++ behind))

/-- The texts that a list of values holds; any other value breaks the
operation. -/
def texts (values : List Value) : Except Fault (List String) :=
  values.mapM fun
    | .text s => .ok s
    | _ => .error (.broken .operandKind)

/-- A name with its operands in brackets. -/
def call (name : String) : Operation := fun operands => do
  .ok (.text (name ++ "(" ++ ",".intercalate (← texts operands) ++ ")"))

def behind (name : String) : Operation := fun operands => do
  .ok (.text (" ".intercalate ((← texts operands) ++ [name])))

/-- The operators with a notation of their own. -/
def table : List (String × Operation) :=
  [("+", between "+"), ("-", between "-"), ("*", between "*"), ("/", between "/"),
    ("//", between "//"), ("^", between "^"), ("%", between " mod "), ("=", between "="),
    ("==", between "=="), ("!=", between "!="), ("<", between "<"), ("<=", between "<="),
    (">", between ">"), (">=", between ">="), ("negate", around "-(" ")"),
    ("!", around "" "!"), ("deg", around "" "°"), ("abs", around "|" "|"),
    (",", .binary fun x y => .ok (.text (x.shown ++ "," ++ y.shown)))]

def symbols : List (String × String) :=
  [("pi", "π"), ("e", "e"), ("phi", "φ"), ("i", "i"), ("I", "i")]

end Rendering

/-- Writes a tree with all brackets. -/
def Evaluator.bracketed : Evaluator :=
  { constants := Rendering.symbols.map fun symbol => (symbol.1, .text symbol.2)
    operations := Rendering.table
    fallback := some Rendering.call
    literal := Rendering.literal }

/-- Writes a tree in postfix order. -/
def Evaluator.postfixed : Evaluator :=
  { constants := Rendering.symbols.map fun symbol => (symbol.1, .text symbol.1)
    operations := []
    fallback := some Rendering.behind
    literal := Rendering.literal }

end Calculator
