import Larder.Http.Router
import Larder.Proofs.Service.Protocol

namespace Larder.Http

def Request.path? (request : Request) : Option Path :=
  Path.ofSegments? (segments (splitTarget request.target).1)

def Request.query (request : Request) : String :=
  (splitTarget request.target).2

inductive Task
  | health
  | listItems
  | addItem (addition : Addition)
  | deleteItem (itemId : Uuid)
  | reset
  | submit (submission : Submission)
  | getJob (jobId : Uuid)
  | editItem (jobId stagedItemId : Uuid) (edit : Edit)
  | confirmJob (jobId : Uuid) (overrides : List Override)

namespace Task

abbrev Value : Task → Type
  | .health | .deleteItem _ => Unit
  | .listItems => List PantryItem
  | .addItem _ => PantryItem
  | .reset => Nat
  | .submit _ => Receipt
  | .getJob _ => JobView
  | .editItem _ _ _ => StagedItem
  | .confirmJob _ _ => Confirmation

def operation (settings : IngestSettings) : (task : Task) → Operation task.Value
  | .health => return ()
  | .listItems => Service.listItems
  | .addItem addition => Service.addItem settings addition
  | .deleteItem itemId => Service.deleteItem itemId
  | .reset => Service.reset
  | .submit submission => Service.submit submission
  | .getJob jobId => Service.getJob jobId
  | .editItem jobId stagedItemId edit => Service.editItem jobId stagedItemId edit
  | .confirmJob jobId overrides => Service.confirmJob jobId overrides

def respond : (task : Task) → task.Value → Response
  | .health, _ => .text 200 "ok"
  | .listItems, items => .json 200 (PantryItem.listJson items)
  | .addItem _, item => .json 201 item.toJson
  | .deleteItem _, _ | .reset, _ => .empty 204
  | .submit _, receipt => .json 202 receipt.toJson
  | .getJob _, view => .json 200 view.toJson
  | .editItem _ _ _, item => .json 200 item.toJson
  | .confirmJob _ _, confirmation => .json 200 confirmation.toJson

def handler (settings : IngestSettings) (task : Task) : Handler Response := do
  return task.respond (← serve (task.operation settings))

end Task

def idOf? (raw : String) : Option Uuid :=
  (Url.decodeSegment? raw).bind Uuid.parse?

theorem idOf?_of_parse {raw text : String} {id : Uuid} (decoded : Url.decodeSegment? raw = some text)
    (parsed : Uuid.parse? text = some id) : idOf? raw = some id := by
  rw [idOf?, decoded, Option.bind_some, parsed]

section
variable (request : Request) (query : String)

/-- The overrides that come with a confirmation; a blank body gives none. -/
def overridesOf : Except DecodeError (List Override) :=
  if isBlankBody request.body then .ok [] else Json.decodeBytes Override.decodeAll request.body

/-- The path parameters are text, the body is not too long where it is read, and the query of a reset names
`confirm` once at most. -/
def IsReadable : Path → Prop
  | .health | .pantry => True
  | .items | .ingest => request.body.length ≤ maxBodyBytes
  | .item raw | .job raw => (Url.decodeSegment? raw).isSome
  | .reset => ((Url.queryPairs query).filter (·.1 == "confirm")).length ≤ 1
  | .stagedItem job item => (Url.decodeSegment? job).isSome ∧ (Url.decodeSegment? item).isSome ∧
      request.body.length ≤ maxBodyBytes
  | .confirm job => (Url.decodeSegment? job).isSome ∧ request.body.length ≤ maxBodyBytes

inductive Asks : Path → Task → Prop
  | health : Asks .health .health
  | pantry : Asks .pantry .listItems
  | items {addition : Addition} (decoded : Json.decodeBytes Addition.decode request.body = .ok addition) :
      Asks .items (.addItem addition)
  | item {raw : String} {itemId : Uuid} (named : idOf? raw = some itemId) :
      Asks (.item raw) (.deleteItem itemId)
  | reset : Asks .reset .reset
  | ingest {submission : Submission}
      (decoded : Json.decodeBytes Submission.decode request.body = .ok submission) :
      Asks .ingest (.submit submission)
  | job {raw : String} {jobId : Uuid} (named : idOf? raw = some jobId) : Asks (.job raw) (.getJob jobId)
  | stagedItem {job item : String} {jobId stagedItemId : Uuid} {edit : Edit}
      (job_named : idOf? job = some jobId) (item_named : idOf? item = some stagedItemId)
      (decoded : Json.decodeBytes Edit.decode request.body = .ok edit) :
      Asks (.stagedItem job item) (.editItem jobId stagedItemId edit)
  | confirm {job : String} {jobId : Uuid} {overrides : List Override} (named : idOf? job = some jobId)
      (decoded : overridesOf request = .ok overrides) : Asks (.confirm job) (.confirmJob jobId overrides)

end

def Response.IsPlain (response : Response) : Prop :=
  ∃ status value, (status = 400 ∨ status = 413) ∧ response = .text status value

section
variable (request : Request) (query : String)

inductive Answers (settings : IngestSettings) (path : Path) : Handler Response → Prop
  | unreadable {response : Response} (unreadable : ¬ IsReadable request query path)
      (plain : response.IsPlain) : Answers settings path (throw response)
  | invalid (message : String) (readable : IsReadable request query path) :
      Answers settings path (throw (.invalidRequest message))
  | task {task : Task} (readable : IsReadable request query path) (asks : Asks request path task) :
      Answers settings path (task.handler settings)

end

variable {request : Request} {query : String}

namespace Answers

variable {settings : IngestSettings} {path : Path} {α : Type}

theorem parameter_bind {name raw : String} {follow : String → Handler Response}
    (needed : IsReadable request query path → (Url.decodeSegment? raw).isSome)
    (later : ∀ text, Url.decodeSegment? raw = some text →
      Answers request query settings path (follow text)) :
    Answers request query settings path (parameter name raw >>= follow) := by
  unfold parameter
  cases decoded : Url.decodeSegment? raw with
  | none =>
      have unreadable : ¬ IsReadable request query path := fun readable => by
        simpa [decoded] using needed readable
      exact .unreadable unreadable ⟨400, _, .inl rfl, rfl⟩
  | some text => exact later text decoded

theorem bounded_bind {follow : Unit → Handler Response}
    (needed : IsReadable request query path → request.body.length ≤ maxBodyBytes)
    (later : request.body.length ≤ maxBodyBytes → Answers request query settings path (follow ())) :
    Answers request query settings path (bounded request >>= follow) := by
  unfold bounded
  by_cases long : maxBodyBytes < request.body.length
  · rw [if_pos long]
    exact .unreadable (fun readable => absurd (needed readable) (by omega)) ⟨413, _, .inr rfl, rfl⟩
  · rw [if_neg long]
    exact later (by omega)

theorem parseId_bind {name value : String} {follow : Uuid → Handler Response}
    (readable : IsReadable request query path)
    (later : ∀ id, Uuid.parse? value = some id → Answers request query settings path (follow id)) :
    Answers request query settings path (parseId name value >>= follow) := by
  unfold parseId
  cases parsed : Uuid.parse? value with
  | none => exact .invalid _ readable
  | some id => exact later id parsed

theorem parseBody_bind {read : Json.Decoder α} {follow : α → Handler Response}
    (readable : IsReadable request query path)
    (later : ∀ value, Json.decodeBytes read request.body = .ok value →
      Answers request query settings path (follow value)) :
    Answers request query settings path (parseBody read request >>= follow) := by
  unfold parseBody
  cases decoded : Json.decodeBytes read request.body with
  | error fault => exact .invalid _ readable
  | ok value => exact later value decoded

theorem confirmation_bind {follow : Option String → Handler Response}
    (needed : IsReadable request query path →
      ((Url.queryPairs query).filter (·.1 == "confirm")).length ≤ 1)
    (later : ((Url.queryPairs query).filter (·.1 == "confirm")).length ≤ 1 →
      ∀ value, Answers request query settings path (follow value)) :
    Answers request query settings path (confirmation query >>= follow) := by
  unfold confirmation
  generalize (Url.queryPairs query).filter (·.1 == "confirm") = given at needed later
  match given with
  | [] => exact later (by simp) none
  | [(_, value)] => exact later (by simp) (some value)
  | _ :: _ :: _ =>
      have unreadable : ¬ IsReadable request query path := fun readable => by simpa using needed readable
      exact .unreadable unreadable ⟨400, _, .inl rfl, rfl⟩

theorem item (raw : String) :
    Answers request query settings (.item raw) (answer settings request query (.item raw)) := by
  unfold answer
  apply parameter_bind id
  intro text decoded
  have readable : IsReadable request query (.item raw) := by simp [IsReadable, decoded]
  apply parseId_bind readable
  intro itemId parsed
  exact .task readable (.item (idOf?_of_parse decoded parsed))

theorem job (raw : String) :
    Answers request query settings (.job raw) (answer settings request query (.job raw)) := by
  unfold answer
  apply parameter_bind id
  intro text decoded
  have readable : IsReadable request query (.job raw) := by simp [IsReadable, decoded]
  apply parseId_bind readable
  intro jobId parsed
  exact .task readable (.job (idOf?_of_parse decoded parsed))

theorem reset : Answers request query settings .reset (answer settings request query .reset) := by
  rw [answer]
  apply confirmation_bind id
  intro once value
  have readable : IsReadable request query .reset := once
  by_cases confirmed : value = some "true"
  · rw [if_neg (not_not.mpr confirmed)]
    exact .task readable .reset
  · rw [if_pos confirmed]
    exact .invalid _ readable

theorem stagedItem (job item : String) : Answers request query settings (.stagedItem job item)
    (answer settings request query (.stagedItem job item)) := by
  unfold answer
  -- Both parameters and the size of the body come first; only then is anything parsed.
  apply parameter_bind
  case needed => exact And.left
  intro jobText jobDecoded
  apply parameter_bind
  case needed => exact fun readable => readable.2.1
  intro itemText itemDecoded
  apply bounded_bind
  case needed => exact fun readable => readable.2.2
  intro within
  have readable : IsReadable request query (.stagedItem job item) := by
    simp [IsReadable, jobDecoded, itemDecoded, within]
  apply parseId_bind readable
  intro jobId jobParsed
  apply parseId_bind readable
  intro itemId itemParsed
  apply parseBody_bind readable
  intro edit decoded
  have jobNamed := idOf?_of_parse jobDecoded jobParsed
  have itemNamed := idOf?_of_parse itemDecoded itemParsed
  exact .task readable (.stagedItem jobNamed itemNamed decoded)

theorem confirm (job : String) : Answers request query settings (.confirm job)
    (answer settings request query (.confirm job)) := by
  unfold answer
  apply parameter_bind
  case needed => exact And.left
  intro text decoded
  apply bounded_bind
  case needed => exact And.right
  intro within
  have readable : IsReadable request query (.confirm job) := by simp [IsReadable, decoded, within]
  apply parseId_bind readable
  intro jobId parsed
  have named := idOf?_of_parse decoded parsed
  by_cases blank : isBlankBody request.body = true
  · rw [if_pos blank]
    exact .task readable (.confirm named (if_pos blank))
  · rw [if_neg blank]
    apply parseBody_bind readable
    intro overrides decoded
    exact .task readable (.confirm named ((if_neg blank).trans decoded))

end Answers

theorem answers (settings : IngestSettings) (request : Request) (query : String) (path : Path) :
    Answers request query settings path (answer settings request query path) := by
  cases path with
  | health =>
      have readable : IsReadable request query .health := trivial
      exact .task readable .health
  | pantry =>
      have readable : IsReadable request query .pantry := trivial
      exact .task readable .pantry
  | items =>
      unfold answer
      apply Answers.bounded_bind id
      intro within
      have readable : IsReadable request query .items := within
      apply Answers.parseBody_bind readable
      intro addition decoded
      exact .task readable (.items decoded)
  | item raw => exact .item raw
  | reset => exact .reset
  | ingest =>
      unfold answer
      apply Answers.bounded_bind id
      intro within
      have readable : IsReadable request query .ingest := within
      apply Answers.parseBody_bind readable
      intro submission decoded
      exact .task readable (.ingest decoded)
  | job raw => exact .job raw
  | stagedItem job item => exact .stagedItem job item
  | confirm job => exact .confirm job

/-! ## Responses -/

theorem Task.response_handler (settings : IngestSettings) (task : Task) :
    (task.handler settings).response = (task.operation settings).run >>= fun
      | .ok value => pure (task.respond value)
      | .error fault => pure (.ofServiceError fault) := by
  unfold handler serve Handler.response
  simp only [ExceptT.run_bind, ExceptT.run_lift, bind_assoc, map_eq_pure_bind, pure_bind]
  congr 1
  funext result
  cases result <;> rfl

def Response.IsSuccess (response : Response) : Prop :=
  200 ≤ response.status ∧ response.status < 300

theorem Task.respond_isSuccess (task : Task) (value : task.Value) : (task.respond value).IsSuccess := by
  unfold Response.IsSuccess
  cases task <;> simp [respond, Response.text, Response.json, Response.empty]

theorem handle_of_method (settings : IngestSettings) {path : Path} (found : request.path? = some path)
    (serves : request.method = path.method) :
    handle settings request = (answer settings request request.query path).response := by
  unfold Request.path? at found
  unfold handle
  simp only [found, serves, beq_self_eq_true, if_true]
  rfl

theorem handle_cases (settings : IngestSettings) (request : Request) :
    (∃ response, handle settings request = pure response) ∨
      ∃ path, request.path? = some path ∧
        (handle settings request = (answer settings request request.query path).response ∨
          handle settings request = (answer settings request request.query path).response >>=
            fun response => pure response.withoutBody) := by
  cases found : request.path? with
  | none =>
      refine .inl ⟨.empty 404, ?_⟩
      unfold Request.path? at found
      simp only [handle, found]
  | some path =>
      by_cases serves : request.method = path.method
      · exact .inr ⟨path, rfl, .inl (handle_of_method settings found serves)⟩
      · unfold Request.path? at found
        unfold handle
        simp only [found, beq_eq_false_iff_ne.mpr serves, Bool.false_eq_true, if_false]
        split
        · exact .inr ⟨path, rfl, .inr rfl⟩
        · exact .inl ⟨_, rfl⟩

end Larder.Http
