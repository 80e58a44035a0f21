import Larder.Config.Basic
import Larder.Provider.Exchange
import Larder.Wire.Dictionary

/-!
Extraction of candidates by a language model.

The model is asked for JSON and sometimes gives none. A reply that is JSON but holds no readable
candidates is asked for again, at most three times in all; whatever else comes back ends the
exchange.
-/

namespace Larder.Provider

def instructions : String := "\n".intercalate [
  "You are a grocery list parser. Extract ingredients with quantities from the user's text.",
  "",
  "Return a JSON object with an \"items\" array. Each item must have:",
  "- \"raw_text\": the original text snippet for this item",
  "- \"name\": the canonical ingredient name, lowercase and singular (\"chicken breast\", not \"2 lbs chicken breasts\")",
  "- \"quantity\": numeric quantity as a float (1.0 if unclear)",
  "- \"unit\": unit of measure (for example \"lb\", \"g\", \"cup\", \"oz\", \"bunch\", \"head\", \"clove\", \"piece\", \"carton\")",
  "- \"confidence\": your confidence from 0.0 to 1.0",
  "",
  "Set confidence below 0.7 for ambiguous or unclear items.",
  "Use \"piece\" when the unit is unclear."]

def message (role content : String) : Json :=
  .object [("role", .text role), ("content", .text content)]

def extractionBody (extractor : ExtractorConfig) (text : String) : Json :=
  .ofMembers ([
    ("model", .text extractor.model),
    ("messages", .list [message "system" instructions, message "user" text]),
    ("response_format", .object [("type", .text "json_object")])] ++
    (extractor.temperature.map fun value => ("temperature", Json.ofDouble value)).toList)

def firstItem? (value : Json) : Option Json :=
  value.asList?.bind List.head?

def spokenText? (reply : Json) : Option String := do
  let choice ← (← reply.get? "choices") |> firstItem?
  let said ← (← choice.get? "message").get? "content"
  said.asText?

def candidatesOfText (text : String) : Except ProviderError (List Candidate) :=
  match Json.decodeText Candidate.decodeItems text with
  | .ok candidates => .ok candidates
  | .error fault =>
      .error (.response ("Extractor content is not valid JSON: " ++ fault.message ++ "."))

/-- The candidates of a reply: in what the model said, or in the reply itself. -/
def candidatesOfReply (reply : Json) : Except ProviderError (List Candidate) :=
  match spokenText? reply with
  | some text => candidatesOfText text
  | none =>
      match reply.get? "items" with
      | some _ =>
          match Json.decodeValue Candidate.decodeItems reply with
          | .ok candidates => .ok candidates
          | .error fault => .error (.undecodable fault)
      | none => .error (.response "Extractor response is missing JSON content.")

inductive Verdict
  | final (outcome : Except ProviderError (List Candidate))
  | rejected (fault : ProviderError)

def judge (reply : Reply) : Verdict :=
  match acceptedBody [200] reply with
  | .error fault => .final (.error fault)
  | .ok body =>
      match Json.parse body with
      | .error _ => .final (.error (.transport .unreadable))
      | .ok value =>
          match candidatesOfReply value with
          | .ok candidates => .final (.ok candidates)
          | .error fault => .rejected fault

def attempt (request : Request)
    (again : ProviderError → Exchange (List Candidate)) : Exchange (List Candidate) :=
  .ask request fun reply =>
    match judge reply with
    | .final outcome => .done outcome
    | .rejected fault => again fault

def attempts (request : Request) : Nat → Exchange (List Candidate)
  | 0 => attempt request fun fault => .done (.error fault)
  | more + 1 => attempt request fun _ => attempts request more

def attemptLimit : Nat := 3

/-- The request for a text. A fault in the header fields is found before one in the address. -/
def extractionRequest (extractor : ExtractorConfig) (text : String) :
    Except ProviderError Request := do
  let headers ← authorizedHeaders extractor.apiKey extractor.defaultHeaders
  let url ← address extractor.apiBase extractor.path
  return post url headers (extractionBody extractor text)

def extract (extractor : ExtractorConfig) (text : String) : Exchange (List Candidate) :=
  match extractionRequest extractor text with
  | .error fault => .done (.error fault)
  | .ok request => attempts request (attemptLimit - 1)

end Larder.Provider
