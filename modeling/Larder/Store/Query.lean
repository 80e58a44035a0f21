import Larder.Sql.Statement
import Larder.Sql.Value
import Larder.Store.Call
import Larder.Store.Tables

/-!
Store calls as statements of a relational database.

Each call is one statement with its parameters. What the database replies is read back as the call's
answer: columns are read by name in the order of the fields they fill, and the first one that does
not fit is the fault.
-/

namespace Larder.Store

open Sql

def numbered (columns : List String) : List Binding :=
  columns.zipIdx.map fun (column, place) => ⟨column, place + 1⟩

def upsertPantryItem : Statement :=
  .insert pantryItems .block
    (numbered ["item_id", "ingredient_id", "quantity", "unit", "expires_at", "added_at"] ++
      [⟨"updated_at", 6⟩])
    (some ⟨"ingredient_id", ["quantity", "unit", "expires_at", "updated_at"]⟩)

def deletePantryItem : Statement :=
  .delete pantryItems [⟨"item_id", 1⟩]

def deleteAllPantryItems : Statement :=
  .delete pantryItems []

def listPantryItems : Statement :=
  .select pantryItems [] ["added_at", "item_id"]

def insertJob : Statement :=
  .insert ingestionJobs .line (numbered ingestionJobs.columnNames) none

def getJob : Statement :=
  .select ingestionJobs [⟨"job_id", 1⟩] []

def transitionJob : Statement :=
  .update ingestionJobs [⟨"status", 3⟩, ⟨"error", 4⟩, ⟨"updated_at", 5⟩]
    [⟨"job_id", 1⟩, ⟨"status", 2⟩]

def insertStagedItem : Statement :=
  .insert stagedItems .block (numbered stagedItems.columnNames) none

def listStagedItems : Statement :=
  .select stagedItems [⟨"job_id", 1⟩] ["raw_text", "staged_item_id"]

def updateStagedItem : Statement :=
  .update stagedItems
    [⟨"ingredient_id", 3⟩, ⟨"quantity", 4⟩, ⟨"unit", 5⟩, ⟨"needs_review", 6⟩, ⟨"updated_at", 7⟩]
    [⟨"staged_item_id", 1⟩, ⟨"job_id", 2⟩]

/-- What a database replies to a statement: rows and the number of rows concerned, an error, or
nothing any more. -/
inductive Reply
  | rows (rows : List Row) (affected : Nat)
  | error (message : String)
  | lost

def Reply.result : Reply → Except BackendFault (List Row × Nat)
  | .rows found affected => .ok (found, affected)
  | .error message => .error (.database message)
  | .lost => .error .connectionLost

/-! ## Rows -/

def readPantryItem (row : Row) : Except BackendFault PantryItem := do
  return {
    id := ← row.required Value.asUuid? "item_id"
    ingredientId := ← row.required Value.asUuid? "ingredient_id"
    quantity := ← row.required Value.asDouble? "quantity"
    unit := ← row.required Value.asText? "unit"
    expiresAt := ← row.optional Value.asMoment? "expires_at"
    addedAt := ← row.required Value.asMoment? "added_at"
    updatedAt := ← row.required Value.asMoment? "updated_at" }

def readJob (row : Row) : Except BackendFault Job := do
  return {
    id := ← row.required Value.asUuid? "job_id"
    kind := ← row.required Value.asText? "kind"
    rawInput := ← row.required Value.asText? "raw_input"
    status := ← row.required Value.asText? "status"
    error := ← row.optional Value.asText? "error"
    createdAt := ← row.required Value.asMoment? "created_at"
    updatedAt := ← row.required Value.asMoment? "updated_at" }

def readStagedItem (row : Row) : Except BackendFault StagedItem := do
  return {
    id := ← row.required Value.asUuid? "staged_item_id"
    jobId := ← row.required Value.asUuid? "job_id"
    ingredientId := ← row.optional Value.asUuid? "ingredient_id"
    rawText := ← row.required Value.asText? "raw_text"
    quantity := ← row.required Value.asDouble? "quantity"
    unit := ← row.required Value.asText? "unit"
    confidence := ← row.required Value.asDouble? "confidence"
    needsReview := ← row.required Value.asBool? "needs_review"
    createdAt := ← row.required Value.asMoment? "created_at"
    updatedAt := ← row.required Value.asMoment? "updated_at" }

def readFirst {α : Type} (read : Row → Except BackendFault α) (rows : List Row) :
    Except BackendFault (Option α) :=
  match rows with
  | [] => .ok none
  | row :: _ => (read row).map some

end Larder.Store

namespace Larder

namespace StoreCall

open Store Sql

def statement : StoreCall → Statement
  | .upsertItem _ => Store.upsertPantryItem
  | .deleteItem _ => Store.deletePantryItem
  | .deleteAllItems => Store.deleteAllPantryItems
  | .listItems => Store.listPantryItems
  | .insertJob _ => Store.insertJob
  | .getJob _ => Store.getJob
  | .transition _ => Store.transitionJob
  | .insertStaged _ => Store.insertStagedItem
  | .listStaged _ => Store.listStagedItems
  | .updateStaged _ => Store.updateStagedItem

def parameters : StoreCall → List Sql.Value
  | .upsertItem write => [
      .uuid write.itemId, .uuid write.ingredientId, .double write.quantity, .text write.unit,
      .ofOption .ofTimestamp write.expiresAt, .ofTimestamp write.now]
  | .deleteItem id => [.uuid id]
  | .deleteAllItems | .listItems => []
  | .insertJob job => [
      .uuid job.id, .text job.kind, .text job.rawInput, .text job.status,
      .ofOption .text job.error, .ofTimestamp job.createdAt, .ofTimestamp job.updatedAt]
  | .getJob id => [.uuid id]
  | .transition change => [
      .uuid change.jobId, .text change.source, .text change.target, .ofOption .text change.error,
      .ofTimestamp change.time]
  | .insertStaged item => [
      .uuid item.id, .uuid item.jobId, .ofOption .uuid item.ingredientId, .text item.rawText,
      .double item.quantity, .text item.unit, .double item.confidence, .bool item.needsReview,
      .ofTimestamp item.createdAt, .ofTimestamp item.updatedAt]
  | .listStaged jobId => [.uuid jobId]
  | .updateStaged item => [
      .uuid item.id, .uuid item.jobId, .ofOption .uuid item.ingredientId, .double item.quantity,
      .text item.unit, .bool item.needsReview, .ofTimestamp item.updatedAt]

def valueOf (rows : List Row) (affected : Nat) : (call : StoreCall) → call.Answer
  | .upsertItem _ =>
      match readFirst readPantryItem rows with
      | .ok (some item) => .ok item
      | .ok none => .error (.backend .noRows)
      | .error fault => .error (.backend fault)
  | .deleteItem id => if affected = 0 then .error (.noPantryItem id) else .ok ()
  | .deleteAllItems => .ok affected
  | .listItems => (rows.mapM readPantryItem).mapError .backend
  | .insertJob _ => .ok ()
  | .getJob _ => (readFirst readJob rows).mapError .backend
  | .transition _ => (readFirst readJob rows).mapError .backend
  | .insertStaged _ => .ok ()
  | .listStaged _ => (rows.mapM readStagedItem).mapError .backend
  | .updateStaged item =>
      match readFirst readStagedItem rows with
      | .ok (some row) => .ok row
      | .ok none => .error (.noStagedItem item.id)
      | .error fault => .error (.backend fault)

def answerOf (call : StoreCall) (reply : Reply) : call.Answer :=
  match reply.result with
  | .ok (rows, affected) => valueOf rows affected call
  | .error fault => .error (.backend fault)

end StoreCall

end Larder
