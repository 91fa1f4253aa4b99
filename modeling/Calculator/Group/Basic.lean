import Calculator.Token.Basic

/-!
# Groups

Between the flat list of tokens and the operator tree stands the bracket tree:
tokens and groups, nested. A group is a bracketed span; a group without a bracket
holds a suffix operator that was moved in front of its operand.
-/

namespace Calculator

/-- A token or a nested group of items. -/
inductive Item
  | single (token : Token)
  | group (bracket : Option String) (position : Int) (items : List Item)

instance : Inhabited Item := ⟨.group none (-1) []⟩

/-- A span of items with the bracket that opened it, if any. -/
structure Group where
  items : List Item
  bracket : Option String := none
  position : Int := -1

mutual

def Item.text : Item → String
  | .single token => token.text
  | .group _ _ items => "[" ++ " ".intercalate (Item.texts items) ++ "]"

def Item.texts : List Item → List String
  | [] => []
  | item :: rest => item.text :: Item.texts rest

end

def Group.text (group : Group) : String :=
  "[" ++ " ".intercalate (Item.texts group.items) ++ "]"

end Calculator
