import Larder.Dialogue
import Larder.Http.Framing
import Larder.Json.Printer
import Larder.Provider.Error
import Larder.Text.Quoted
import Larder.Url.Basic

namespace Larder

namespace Provider

structure Request where
  url : Url
  headers : Http.Headers
  body : Json

inductive Reply
  | response (status : Nat) (body : List UInt8)
  | failure (fault : TransportFault)

abbrev Exchange (α : Type) := Dialogue Request Reply (Except ProviderError α)

/-! ## Requests -/

def addHeaders (headers : Http.Headers) : List (String × Json) → Except ProviderError Http.Headers
  | [] => .ok headers
  | (key, value) :: rest =>
      match value with
      | .text text =>
          match Http.headerName? key with
          | none => .error .headerName
          | some name =>
              if Http.isHeaderValue text then addHeaders (headers.put name text) rest
              else .error .headerValue
      | _ =>
          .error (.configuration
            ("Default header " ++ Text.quoted key ++ " must have a string value."))

def defaultHeaders (members : Named Json) : Except ProviderError Http.Headers :=
  addHeaders [] members

/-- The configured header fields with the key that authorizes the caller, which nothing in the
configuration can replace. -/
def authorizedHeaders (apiKey : String) (members : Named Json) :
    Except ProviderError Http.Headers := do
  let headers ← defaultHeaders members
  let value := "Bearer " ++ apiKey
  if Http.isHeaderValue value then return headers.put "authorization" value
  else throw .headerValue

def isReachable (url : Url) : Bool :=
  url.host.isSome && (url.scheme == "http" || url.scheme == "https")

def address (apiBase path : String) : Except ProviderError Url :=
  match Url.parse (apiBase ++ path) with
  | .ok url => if isReachable url then .ok url else .error (.transport .unsendable)
  | .error _ => .error (.transport .unsendable)

def post (url : Url) (headers : Http.Headers) (body : Json) : Request :=
  let headers := (headers.putDefault "accept" "*/*").putDefault "content-type" "application/json"
  ⟨url, headers.completed, body⟩

def Request.arrivingHeaders (request : Request) : Http.Headers :=
  let isOuter := fun (c : Char) => c == ' ' || c == '\t'
  request.headers.map fun (name, value) =>
    (name, String.ofList ((value.toList.dropWhile isOuter).reverse.dropWhile isOuter).reverse)

/-- What a server gets of a body that reads as many bytes as were announced, and none when it is sent
in pieces: all of it, nothing that is of use, or less than it goes on waiting for. -/
inductive Arrival
  | whole
  | useless
  | stuck
deriving DecidableEq, Repr

def Request.arrival (request : Request) : Arrival :=
  let size := (Text.Utf8.encode (Json.render request.body)).length
  match request.headers.framing size with
  | .pieces => .useless
  | .length count => if count < size then .useless else if count = size then .whole else .stuck

def Request.arrivingBody (request : Request) : Json :=
  if request.arrival = .whole then request.body else .null

/-! ## Replies -/

def shownBodyLength : Nat := 512

def statusError (status : Nat) (body : List UInt8) : ProviderError :=
  .status status (String.ofList ((Text.Utf8.decodeLossy body).toList.take shownBodyLength))

def acceptedBody (accepted : List Nat) : Reply → Except ProviderError (List UInt8)
  | .failure fault => .error (.transport fault)
  | .response status body =>
      if accepted.contains status then .ok body else .error (statusError status body)

end Provider

end Larder
