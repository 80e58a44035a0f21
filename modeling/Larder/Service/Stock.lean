import Larder.Service.Review

namespace Larder

/-- A direct write to the pantry. The ingredient id counts before the name when both are given. -/
structure Addition where
  name : Option String
  ingredientId : Option String
  quantity : Float
  unit : String
  expiresAt : Option String
deriving Inhabited

namespace Service

def listItems : Operation (List PantryItem) :=
  Operation.store .listItems

def parseExpiry (text : Option String) : Except ServiceError (Option Timestamp) :=
  match text with
  | none => .ok none
  | some text =>
      match Timestamp.parse? (Text.trim text) with
      | some time => .ok (some time)
      | none => .error (.invalidRequest "expires_at must be an RFC 3339 timestamp.")

def givenText (text : Option String) : Option String :=
  match text with
  | some text => if Text.isBlankText text then none else some (Text.trim text)
  | none => none

def namedIngredient (settings : IngestSettings) (addition : Addition) : Operation Uuid :=
  match givenText addition.ingredientId, givenText addition.name with
  | some id, _ =>
      match Uuid.parse? id with
      | some id => return id
      | none => throw (.invalidRequest "ingredient_id must be a UUID.")
  | none, some name => do
      let resolution ← resolveName settings name
      return resolution.ingredient.id
  | none, none => throw (.invalidRequest "ingredient_id or name is required.")

def addItem (settings : IngestSettings) (addition : Addition) : Operation PantryItem := do
  Operation.check (validateStockQuantity addition.quantity)
  Operation.check (validateUnit addition.unit)
  let expiresAt ← parseExpiry addition.expiresAt
  let ingredientId ← namedIngredient settings addition
  let item ← writeItem ingredientId addition.quantity addition.unit expiresAt
  publish [item.id]
  return item

def deleteItem (id : Uuid) : Operation Unit := do
  Operation.store (.deleteItem id)
  publish [id]

def reset : Operation Nat := do
  let removed ← Operation.store .deleteAllItems
  publish []
  return removed

end Service

end Larder
