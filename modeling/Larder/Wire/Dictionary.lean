import Larder.Candidate
import Larder.Json.Decoder

namespace Larder

/-- A double as JSON has it: what is not finite becomes `null`. -/
def Json.ofDouble (value : Float) : Json :=
  if value.isFinite then .ofFloat value else .null

def Json.ofUuid (id : Uuid) : Json :=
  .text id.toText

namespace Candidate

def record : Json.Record Candidate :=
  Json.Record.done Candidate.mk
    |>.required "raw_text" Json.Decoder.text
    |>.required "name" Json.Decoder.text
    |>.optional "quantity" Json.Decoder.float defaultQuantity
    |>.optional "unit" Json.Decoder.text ""
    |>.optional "confidence" Json.Decoder.float 0.0

def decode : Json.Decoder Candidate := record.decode

def toJson (candidate : Candidate) : Json :=
  .object [
    ("raw_text", .text candidate.rawText),
    ("name", .text candidate.name),
    ("quantity", .ofDouble candidate.quantity),
    ("unit", .text candidate.unit),
    ("confidence", .ofDouble candidate.confidence)]

def decodeItems : Json.Decoder (List Candidate) :=
  Json.Record.decode (Json.Record.done id |>.required "items" (Json.Decoder.list decode))

end Candidate

namespace Ingredient

def record : Json.Record Ingredient :=
  Json.Record.done Ingredient.mk
    |>.required "id" Json.Decoder.uuid
    |>.required "name" Json.Decoder.text

def decode : Json.Decoder Ingredient := record.decode

def toJson (ingredient : Ingredient) : Json :=
  .object [("id", .ofUuid ingredient.id), ("name", .text ingredient.name)]

end Ingredient

namespace Resolution

def record : Json.Record Resolution :=
  Json.Record.done Resolution.mk
    |>.required "ingredient" Ingredient.decode
    |>.optional "confidence" Json.Decoder.float 0.0
    |>.optional "created" Json.Decoder.bool false

def decode : Json.Decoder Resolution := record.decode

def toJson (resolution : Resolution) : Json :=
  .object [
    ("ingredient", resolution.ingredient.toJson),
    ("confidence", .ofDouble resolution.confidence),
    ("created", .bool resolution.created)]

end Resolution

end Larder
