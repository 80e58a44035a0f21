import Larder.Job
import Larder.Sql.Schema
import Larder.Text.Blank
import Larder.Text.Parts

namespace Larder.Store

open Sql

def pantryItems : Table where
  name := "pantry_items"
  columns := [
    { name := "item_id", type := .uuid, presence := .key },
    { name := "ingredient_id", type := .uuid, presence := .always },
    { name := "quantity", type := .double, presence := .always, bound := some .notNegative },
    { name := "unit", type := .text, presence := .always },
    { name := "expires_at", type := .timestamp, presence := .sometimes },
    { name := "added_at", type := .timestamp, presence := .always },
    { name := "updated_at", type := .timestamp, presence := .always }]
  unique := some ("pantry_items_ingredient_unique", "ingredient_id")
  index := ("idx_pantry_items_added", ["added_at", "item_id"])

def ingestionJobs : Table where
  name := "ingestion_jobs"
  columns := [
    { name := "job_id", type := .uuid, presence := .key },
    { name := "kind", type := .text, presence := .always },
    { name := "raw_input", type := .text, presence := .always },
    { name := "status", type := .text, presence := .always
      bound := some (.oneOf (JobStatus.all.map JobStatus.name)) },
    { name := "error", type := .text, presence := .sometimes },
    { name := "created_at", type := .timestamp, presence := .always },
    { name := "updated_at", type := .timestamp, presence := .always }]
  unique := none
  index := ("idx_ingestion_jobs_status", ["status", "created_at"])

def stagedItems : Table where
  name := "staged_items"
  columns := [
    { name := "staged_item_id", type := .uuid, presence := .key },
    { name := "job_id", type := .uuid, presence := .always
      owner := some ("ingestion_jobs", "job_id") },
    { name := "ingredient_id", type := .uuid, presence := .sometimes },
    { name := "raw_text", type := .text, presence := .always },
    { name := "quantity", type := .double, presence := .always, bound := some .notNegative },
    { name := "unit", type := .text, presence := .always },
    { name := "confidence", type := .double, presence := .always, bound := some .fraction },
    { name := "needs_review", type := .boolean, presence := .always },
    { name := "created_at", type := .timestamp, presence := .always },
    { name := "updated_at", type := .timestamp, presence := .always }]
  unique := none
  index := ("idx_staged_items_job", ["job_id", "raw_text"])

/-- All tables; a table stands behind those it refers to. -/
def tables : List Table := [pantryItems, ingestionJobs, stagedItems]

def schema : String :=
  String.join (tables.map fun table => table.script ++ "\n")

def scriptStatements (script : String) : List String :=
  ((Text.parts ';' script.toList).map fun part => Text.trim (String.ofList part)).filter (· != "")

end Larder.Store
