import Calculator.Text.Uppercase

/-!
# Diagnostics

What is shown to a reader when an expression fails: the message, the place in
the text with a mark below it, help, and suggestions.
-/

namespace Calculator

/-- A diagnostic. A negative position means that no place is known. -/
structure Diagnostic where
  message : String
  position : Int
  severity : String
  code : Option String := none
  help : Option String := none
  suggestions : List String := []
  source : Option String := none

namespace Diagnostic

def placeLines (diagnostic : Diagnostic) : List String :=
  if diagnostic.position < 0 then []
  else
    ("  --> position " ++ toString diagnostic.position) ::
      match diagnostic.source with
      | none => []
      | some source =>
        let margin := String.ofList (List.replicate diagnostic.position.toNat ' ')
        ["  | " ++ source, "  | " ++ margin ++ "^"]

def helpLines (diagnostic : Diagnostic) : List String :=
  match diagnostic.help with
  | none => []
  | some help => if help = "" then [] else ["  help: " ++ help]

def suggestionLines (diagnostic : Diagnostic) : List String :=
  if diagnostic.suggestions = [] then []
  else "  suggestions:" :: diagnostic.suggestions.map ("    - " ++ ·)

/-- The whole text of a diagnostic; every line is ended. -/
def render (diagnostic : Diagnostic) : String :=
  let heading := Text.upperCase diagnostic.severity ++ ": " ++ diagnostic.message
  String.join ((heading :: diagnostic.placeLines ++ diagnostic.helpLines
    ++ diagnostic.suggestionLines).map (· ++ "\n"))

end Diagnostic

end Calculator
