import Larder.Json.Basic
import Larder.Service.Program

namespace Larder.Http

/-- A request; the target is the path with its query as they were sent. -/
structure Request where
  method : String
  target : String
  body : List UInt8

inductive Body
  | empty
  | text (value : String)
  | json (value : Json)

/-- A response. `allow` names the methods of a path whose method was wrong. -/
structure Response where
  status : Nat
  allow : Option String
  contentType : Option String
  body : Body

namespace Response

def empty (status : Nat) : Response := ⟨status, none, none, .empty⟩

def text (status : Nat) (value : String) : Response :=
  ⟨status, none, some "text/plain; charset=utf-8", .text value⟩

def json (status : Nat) (value : Json) : Response :=
  ⟨status, none, some "application/json", .json value⟩

def error (status : Nat) (code message : String) : Response :=
  json status (.object [("error_code", .text code), ("message", .text message)])

def invalidRequest (message : String) : Response :=
  error 400 "invalid_request" message

def ofServiceError : ServiceError → Response
  | .invalidRequest message => invalidRequest message
  | .notFound message => error 404 "not_found" message
  | .invalidState message => error 422 "invalid_state" message
  | .conflict message => error 409 "conflict" message
  | .provider message => error 502 "provider_error" message
  | .storage message => error 500 "storage_error" message

def withoutBody (response : Response) : Response :=
  { response with body := .empty }

end Response

end Larder.Http
