import Larder.Service.Review
import Larder.Wire.Dictionary

/-!
Requests and views of ingestion jobs as JSON.

An override names its staged item and gives the edit's fields beside it. It is read from an object
only, and its other members are kept until the whole object is read: they are read in full, and a
fault in one of the edit's own fields comes after a missing name of the staged item.
-/

namespace Larder

def JobKind.decode : Json.Decoder JobKind := Json.Decoder.choice JobKind.ofName?

def JobKind.toJson (kind : JobKind) : Json := .text kind.name

def JobStatus.decode : Json.Decoder JobStatus := Json.Decoder.choice JobStatus.ofName?

def JobStatus.toJson (status : JobStatus) : Json := .text status.name

namespace Edit

def record : Json.Record Edit :=
  Json.Record.done Edit.mk
    |>.optional "ingredient_id" (Json.Decoder.optional Json.Decoder.uuid) .none
    |>.optional "quantity" (Json.Decoder.optional Json.Decoder.float) .none
    |>.optional "unit" (Json.Decoder.optional Json.Decoder.text) .none

def decode : Json.Decoder Edit := record.decode

def members (edit : Edit) : List (String × Json) :=
  (edit.ingredientId.map fun id => ("ingredient_id", Json.ofUuid id)).toList ++
    (edit.quantity.map fun quantity => ("quantity", Json.ofDouble quantity)).toList ++
    (edit.unit.map fun unit => ("unit", Json.text unit)).toList

def toJson (edit : Edit) : Json := .object edit.members

end Edit

namespace Override

def itemField : String := "staged_item_id"

/-- Reads the members of an override in order: the staged item's id at once, the others as values of
any kind to be read later. -/
def collect (context : Json.Context) (found : Option Uuid) :
    List (Option String × Json.Tree) → Except DecodeError (Option Uuid × List (String × Json.Tree))
  | [] => .ok (found, [])
  | (none, _) :: _ => .error .malformed
  | (some name, tree) :: rest =>
      if name == itemField then
        match found with
        | some _ => .error (.duplicateField itemField)
        | none => do
            let id ← Json.Decoder.uuid context tree
            collect context (some id) rest
      else do
        let _ ← Json.Decoder.json context tree
        let (found, others) ← collect context found rest
        return (found, (name, tree) :: others)

def decode : Json.Decoder Override
  | context, .object members ending => do
      let inner ← context.enter
      let (found, others) ← collect inner none members
      if ending ≠ .closed then .error .malformed
      else
        match found with
        | none => .error (.missingField itemField)
        | some stagedItemId => do
            let edit ← Edit.decode context
              (.object (others.map fun other => (some other.1, other.2)) .closed)
            return ⟨stagedItemId, edit⟩
  | _, tree => .error (Json.mismatch tree)

def toJson (given : Override) : Json :=
  .object ((itemField, Json.ofUuid given.stagedItemId) :: given.edit.members)

def decodeAll : Json.Decoder (List Override) :=
  Json.Record.decode (Json.Record.done id |>.optional "overrides" (Json.Decoder.list decode) [])

def requestJson (overrides : List Override) : Json :=
  .object [("overrides", .list (overrides.map toJson))]

end Override

namespace Submission

def record : Json.Record Submission :=
  Json.Record.done Submission.mk
    |>.optional "type" (Json.Decoder.optional Json.Decoder.text) none
    |>.required "content" Json.Decoder.text

def decode : Json.Decoder Submission := record.decode

end Submission

namespace Receipt

def record : Json.Record Receipt :=
  Json.Record.done Receipt.mk
    |>.required "job_id" Json.Decoder.uuid
    |>.required "status" JobStatus.decode

def decode : Json.Decoder Receipt := record.decode

def toJson (receipt : Receipt) : Json :=
  .object [("job_id", .ofUuid receipt.jobId), ("status", receipt.status.toJson)]

end Receipt

namespace Confirmation

def record : Json.Record Confirmation :=
  Json.Record.done Confirmation.mk
    |>.required "job_id" Json.Decoder.uuid
    |>.required "status" JobStatus.decode
    |>.required "item_ids" (Json.Decoder.list Json.Decoder.uuid)
    |>.required "skipped" (Json.Decoder.list Json.Decoder.uuid)

def decode : Json.Decoder Confirmation := record.decode

def toJson (confirmation : Confirmation) : Json :=
  .object [
    ("job_id", .ofUuid confirmation.jobId),
    ("status", confirmation.status.toJson),
    ("item_ids", .list (confirmation.itemIds.map .ofUuid)),
    ("skipped", .list (confirmation.skipped.map .ofUuid))]

end Confirmation

def Json.ofTimestamp (time : Timestamp) : Json :=
  .text time.toText

def StagedItem.toJson (item : StagedItem) : Json :=
  .object [
    ("staged_item_id", .ofUuid item.id),
    ("job_id", .ofUuid item.jobId),
    ("ingredient_id", .ofOption .ofUuid item.ingredientId),
    ("raw_text", .text item.rawText),
    ("quantity", .ofDouble item.quantity),
    ("unit", .text item.unit),
    ("confidence", .ofDouble item.confidence),
    ("needs_review", .bool item.needsReview),
    ("updated_at", .ofTimestamp item.updatedAt)]

def JobView.toJson (view : JobView) : Json :=
  .object ([
    ("job_id", .ofUuid view.id),
    ("kind", view.kind.toJson),
    ("status", view.status.toJson),
    ("raw_input", .text view.rawInput)] ++
    (view.error.map fun error => ("error", Json.text error)).toList ++ [
    ("created_at", .ofTimestamp view.createdAt),
    ("updated_at", .ofTimestamp view.updatedAt),
    ("items", .list (view.items.map StagedItem.toJson))])

end Larder
