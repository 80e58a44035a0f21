import Larder.Text.Parts
import Larder.Url.Percent

/-!
The routes of the HTTP interface.

A route is found by the path as it was sent, segment by segment. A parameter is decoded only after the
route is found; it may be empty only where another segment follows. A target may name a server in
front of its path, which then counts for nothing.
-/

namespace Larder.Http

inductive Path
  | health
  | pantry
  | items
  | item (itemId : String)
  | reset
  | ingest
  | job (jobId : String)
  | stagedItem (jobId stagedItemId : String)
  | confirm (jobId : String)
deriving DecidableEq

def segments (path : String) : List String :=
  (Text.parts '/' path.toList).map String.ofList

def Path.ofSegments? : List String → Option Path
  | ["", "healthz"] => some .health
  | ["", "pantry"] => some .pantry
  | ["", "pantry", "items"] => some .items
  | ["", "pantry", "items", itemId] => if itemId.isEmpty then none else some (.item itemId)
  | ["", "pantry", "reset"] => some .reset
  | ["", "pantry", "ingest"] => some .ingest
  | ["", "pantry", "ingest", jobId] => if jobId.isEmpty then none else some (.job jobId)
  | ["", "pantry", "ingest", jobId, "items", stagedItemId] =>
      if stagedItemId.isEmpty then none else some (.stagedItem jobId stagedItemId)
  | ["", "pantry", "ingest", jobId, "confirm"] => some (.confirm jobId)
  | _ => none

def Path.method : Path → String
  | .health | .pantry | .job _ => "GET"
  | .items | .ingest | .confirm _ => "POST"
  | .item _ | .reset => "DELETE"
  | .stagedItem _ _ => "PATCH"

def Path.allow (path : Path) : String :=
  if path.method == "GET" then "GET,HEAD" else path.method

def withoutServer (target : List Char) : List Char :=
  if target.head? == some '/' then target
  else
    match Text.cut? "://".toList target with
    | some (_, rest) => rest.dropWhile fun c => c != '/' && c != '?' && c != '#'
    | none => target

/-- The path and the query of a target; a fragment is dropped. -/
def splitTarget (target : String) : String × String :=
  let chars := (withoutServer target.toList).takeWhile (· != '#')
  (String.ofList (chars.takeWhile (· != '?')), String.ofList ((chars.dropWhile (· != '?')).drop 1))

end Larder.Http
