import Larder.Http.Message
import Larder.Http.Route
import Larder.Wire.Stock

/-!
Serving requests.

`handle` answers every request by a program over the service's operations. What a request gets wrong
is found in a fixed order: its path, its method, the form of its path parameters, its query, the size
of its body, the meaning of the parameters, and the meaning of the body.
-/

namespace Larder.Http

def maxBodyBytes : Nat := 2 * 1024 * 1024

/-- A request handler: it fails with the response to give. -/
abbrev Handler (α : Type) := ExceptT Response Program α

def serve {α : Type} (operation : Operation α) : Handler α := do
  match ← ExceptT.lift operation.run with
  | .ok value => return value
  | .error fault => throw (.ofServiceError fault)

def parameter (name raw : String) : Handler String :=
  match Url.decodeSegment? raw with
  | some value => return value
  | none => throw (.text 400 ("Invalid URL: Invalid UTF-8 in `" ++ name ++ "`"))

def bounded (request : Request) : Handler Unit :=
  if maxBodyBytes < request.body.length then
    throw (.text 413 "Failed to buffer the request body: length limit exceeded")
  else return ()

def parseId (name value : String) : Handler Uuid :=
  match Uuid.parse? value with
  | some id => return id
  | none => throw (.invalidRequest (name ++ " must be a UUID."))

def parseBody {α : Type} (read : Json.Decoder α) (request : Request) : Handler α :=
  match Json.decodeBytes read request.body with
  | .ok value => return value
  | .error fault => throw (.invalidRequest ("Request body is invalid: " ++ fault.message ++ "."))

def isBlankBody (body : List UInt8) : Bool :=
  body.all fun byte => byte == 0x20 || byte == 0x09 || byte == 0x0A || byte == 0x0C || byte == 0x0D

/-- The value of `confirm` in a query, which must not be given twice. -/
def confirmation (query : String) : Handler (Option String) :=
  match (Url.queryPairs query).filter (·.1 == "confirm") with
  | [] => return none
  | [(_, value)] => return some value
  | _ => throw (.text 400 "Failed to deserialize query string: duplicate field `confirm`")

def answer (settings : IngestSettings) (request : Request) (query : String) :
    Path → Handler Response
  | .health => return .text 200 "ok"
  | .pantry => return .json 200 (PantryItem.listJson (← serve Service.listItems))
  | .items => do
      bounded request
      let addition ← parseBody Addition.decode request
      return .json 201 (← serve (Service.addItem settings addition)).toJson
  | .item itemId => do
      let itemId ← parseId "item_id" (← parameter "item_id" itemId)
      serve (Service.deleteItem itemId)
      return .empty 204
  | .reset => do
      if (← confirmation query) ≠ some "true" then
        throw (.invalidRequest "Resetting the pantry requires confirm=true.")
      let _ ← serve Service.reset
      return .empty 204
  | .ingest => do
      bounded request
      let submission ← parseBody Submission.decode request
      return .json 202 (← serve (Service.submit submission)).toJson
  | .job jobId => do
      let jobId ← parseId "job_id" (← parameter "job_id" jobId)
      return .json 200 (← serve (Service.getJob jobId)).toJson
  | .stagedItem jobId stagedItemId => do
      let jobId ← parameter "job_id" jobId
      let stagedItemId ← parameter "staged_item_id" stagedItemId
      bounded request
      let jobId ← parseId "job_id" jobId
      let stagedItemId ← parseId "staged_item_id" stagedItemId
      let edit ← parseBody Edit.decode request
      return .json 200 (← serve (Service.editItem jobId stagedItemId edit)).toJson
  | .confirm jobId => do
      let jobId ← parameter "job_id" jobId
      bounded request
      let jobId ← parseId "job_id" jobId
      let overrides ←
        if isBlankBody request.body then pure []
        else parseBody Override.decodeAll request
      return .json 200 (← serve (Service.confirmJob jobId overrides)).toJson

def Handler.response (handler : Handler Response) : Program Response := do
  match ← handler.run with
  | .ok response | .error response => return response

def handle (settings : IngestSettings) (request : Request) : Program Response :=
  let (path, query) := splitTarget request.target
  match Path.ofSegments? (segments path) with
  | none => return .empty 404
  | some path =>
      if request.method == path.method then (answer settings request query path).response
      else if request.method == "HEAD" && path.method == "GET" then
        return (← (answer settings request query path).response).withoutBody
      else return { Response.empty 405 with allow := some path.allow }

end Larder.Http
