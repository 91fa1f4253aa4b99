import Calculator.Group.Basic
import Calculator.Operator

/-!
# Implied products

Two terms that touch are multiplied: `Group.insertProducts` puts a `*` between
an item that ends a value and one that starts a value, at every level.
-/

namespace Calculator

namespace Item

/-- The `*` that stands for an implied product; it has no place in the text. -/
def impliedProduct : Item :=
  .single { kind := .operator, lexeme := "*" }

/-- Whether an item can be the left factor of an implied product. -/
def endsValue : Item → Bool
  | .group .. => true
  | .single token =>
    token.kind == .number || (token.kind == .operator && Operator.isSuffixed token.lexeme)

/-- Whether an item can be the right factor of an implied product. -/
def startsValue : Item → Bool
  | .group .. => true
  | .single token =>
    token.kind == .number || (token.kind == .operator && token.fixity == some .prefixed)

mutual

/-- An item with the products inside it spelled out. -/
def insertProducts : Item → Item
  | .single token => .single token
  | .group bracket position items => .group bracket position (insertProductsIn items)

/-- Items with the products inside and between them spelled out. -/
def insertProductsIn : List Item → List Item
  | [] => []
  | item :: rest =>
    if item.endsValue && rest.head?.any startsValue then
      item.insertProducts :: impliedProduct :: insertProductsIn rest
    else item.insertProducts :: insertProductsIn rest

end

end Item

/-- A group with all implied products spelled out. -/
def Group.insertProducts (group : Group) : Group :=
  { group with items := Item.insertProductsIn group.items }

end Calculator
