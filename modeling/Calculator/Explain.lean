import Calculator.Parse

/-!
# Problems with their text

What reading comes to is handed over with the diagnostic that is shown for a problem
(`explained`). The text of the expression is put in last, where the diagnostic holds none
yet: only a character that starts no token is reported together with it.
-/

namespace Calculator

/-- The diagnostic with the text of the expression, unless it holds one. -/
def Diagnostic.within (source : String) (diagnostic : Diagnostic) : Diagnostic :=
  match diagnostic.source with
  | some _ => diagnostic
  | none => { diagnostic with source := some source }

/-- A problem and the diagnostic that is shown for it. -/
structure Explanation where
  problem : ParseProblem
  diagnostic : Diagnostic

namespace ParseProblem

/-- The diagnostic as it is made where the problem is found. -/
def raised (source : String) (problem : ParseProblem) : Diagnostic :=
  match problem with
  | unrecognized _ => problem.report.diagnostic (some source)
  | _ => problem.report.diagnostic none

def explain (source : String) (problem : ParseProblem) : Explanation :=
  ⟨problem, (problem.raised source).within source⟩

end ParseProblem

/-- A result of reading the text, with the diagnostic of the problem if there is one. -/
def explained {α : Type} (source : String) (result : Except ParseProblem α) :
    Except Explanation α :=
  result.mapError (ParseProblem.explain source)

end Calculator
