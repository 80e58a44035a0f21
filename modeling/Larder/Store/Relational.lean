import Larder.Sql.Database
import Larder.Store.Query

namespace Larder.Store

open Sql

def Reply.ofOutcome : Except Breach Outcome → Reply
  | .ok outcome => .rows outcome.rows outcome.affected
  | .error breach => .error breach.message

/-- The database after a statement; one that fails changes nothing. -/
def databaseAfter (database : Database) : Except Breach Outcome → Database
  | .ok outcome => outcome.database
  | .error _ => database

/-! ## Rows -/

def pantryRow (item : PantryItem) : Row := [
  ("item_id", .uuid item.id),
  ("ingredient_id", .uuid item.ingredientId),
  ("quantity", .double item.quantity),
  ("unit", .text item.unit),
  ("expires_at", .ofOption .ofTimestamp item.expiresAt),
  ("added_at", .ofTimestamp item.addedAt),
  ("updated_at", .ofTimestamp item.updatedAt)]

def jobRow (job : Job) : Row := [
  ("job_id", .uuid job.id),
  ("kind", .text job.kind),
  ("raw_input", .text job.rawInput),
  ("status", .text job.status),
  ("error", .ofOption .text job.error),
  ("created_at", .ofTimestamp job.createdAt),
  ("updated_at", .ofTimestamp job.updatedAt)]

def stagedRow (item : StagedItem) : Row := [
  ("staged_item_id", .uuid item.id),
  ("job_id", .uuid item.jobId),
  ("ingredient_id", .ofOption .uuid item.ingredientId),
  ("raw_text", .text item.rawText),
  ("quantity", .double item.quantity),
  ("unit", .text item.unit),
  ("confidence", .double item.confidence),
  ("needs_review", .bool item.needsReview),
  ("created_at", .ofTimestamp item.createdAt),
  ("updated_at", .ofTimestamp item.updatedAt)]

end Larder.Store

namespace Larder.StoreCall

open Store

def outcome (call : StoreCall) (database : Sql.Database) : Except Sql.Breach Sql.Outcome :=
  call.statement.execute tables call.parameters database

def execute (call : StoreCall) (database : Sql.Database) : call.Answer × Sql.Database :=
  (call.answerOf (.ofOutcome (call.outcome database)), databaseAfter database (call.outcome database))

end Larder.StoreCall
