import Larder.Service.Stock
import Larder.Wire.Ingestion

namespace Larder

namespace Addition

def record : Json.Record Addition :=
  Json.Record.done Addition.mk
    |>.optional "name" (Json.Decoder.optional Json.Decoder.text) none
    |>.optional "ingredient_id" (Json.Decoder.optional Json.Decoder.text) none
    |>.required "quantity" Json.Decoder.float
    |>.required "unit" Json.Decoder.text
    |>.optional "expires_at" (Json.Decoder.optional Json.Decoder.text) none

def decode : Json.Decoder Addition := record.decode

end Addition

def PantryItem.toJson (item : PantryItem) : Json :=
  .object [
    ("item_id", .ofUuid item.id),
    ("ingredient_id", .ofUuid item.ingredientId),
    ("quantity", .ofDouble item.quantity),
    ("unit", .text item.unit),
    ("expires_at", .ofOption .ofTimestamp item.expiresAt),
    ("added_at", .ofTimestamp item.addedAt),
    ("updated_at", .ofTimestamp item.updatedAt)]

def PantryItem.listJson (items : List PantryItem) : Json :=
  .object [("items", .list (items.map PantryItem.toJson))]

end Larder
