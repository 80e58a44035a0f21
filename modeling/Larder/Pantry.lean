import Larder.Time.Timestamp
import Larder.Uuid

namespace Larder

structure PantryItem where
  id : Uuid
  ingredientId : Uuid
  quantity : Float
  unit : String
  expiresAt : Option Timestamp
  addedAt : Timestamp
  updatedAt : Timestamp
deriving Inhabited

/-- New values for an ingredient. They replace the old ones; `itemId` is only used when the ingredient
has no row yet. -/
structure PantryWrite where
  itemId : Uuid
  ingredientId : Uuid
  quantity : Float
  unit : String
  expiresAt : Option Timestamp
  now : Timestamp
deriving Inhabited

def PantryItem.ofWrite (write : PantryWrite) : PantryItem :=
  { id := write.itemId
    ingredientId := write.ingredientId
    quantity := write.quantity
    unit := write.unit
    expiresAt := write.expiresAt
    addedAt := write.now
    updatedAt := write.now }

def PantryItem.replaced (item : PantryItem) (write : PantryWrite) : PantryItem :=
  { item with
    quantity := write.quantity
    unit := write.unit
    expiresAt := write.expiresAt
    updatedAt := write.now }

end Larder
