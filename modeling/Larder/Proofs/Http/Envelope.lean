import Larder.Proofs.Http.Answers
import Larder.Proofs.Service.Uses

namespace Larder

variable {α β : Type}

abbrev Program.Always (holds : α → Prop) (program : Program α) : Prop :=
  program.Follows (.only fun _ => True) (fun _ => holds) ()

theorem Program.always_true (program : Program α) : program.Always fun _ => True := by
  induction program with
  | done value => exact follows_done.mpr trivial
  | perform effect next ih => exact follows_perform.mpr ⟨trivial, ih⟩

namespace Http

def errorCode? : Nat → Option String
  | 400 => some "invalid_request"
  | 404 => some "not_found"
  | 409 => some "conflict"
  | 422 => some "invalid_state"
  | 500 => some "storage_error"
  | 502 => some "provider_error"
  | _ => none

/-- A JSON object with the code of the status and a message, and nothing else. -/
def Response.IsEnvelope (response : Response) : Prop :=
  ∃ code message, errorCode? response.status = some code ∧
    response.contentType = some "application/json" ∧
    response.body = .json (.object [("error_code", .text code), ("message", .text message)])

theorem ofServiceError_isEnvelope (fault : ServiceError) : (Response.ofServiceError fault).IsEnvelope := by
  cases fault <;> exact ⟨_, _, rfl, rfl, rfl⟩

variable {request : Request} {query : String} {path : Path} {settings : IngestSettings}

theorem task_reports (settings : IngestSettings) (task : Task) :
    (task.handler settings).response.Always fun response => 400 ≤ response.status → response.IsEnvelope := by
  rw [Task.response_handler]
  apply (task.operation settings).run.always_true.bind
  intro _ result _
  cases result with
  | ok value =>
      have success := (task.respond_isSuccess value).2
      exact Program.follows_pure fun fails => absurd success (by omega)
  | error fault => exact Program.follows_pure fun _ => ofServiceError_isEnvelope fault

structure Reports (request : Request) (query : String) (path : Path) (response : Response) : Prop where
  readable : IsReadable request query path → 400 ≤ response.status → response.IsEnvelope
  unreadable : ¬ IsReadable request query path → response.IsPlain

theorem Answers.reports {handler : Handler Response}
    (answered : Answers request query settings path handler) :
    handler.response.Always (Reports request query path) := by
  cases answered with
  | unreadable unreadable plain =>
      exact Program.follows_pure ⟨fun readable => absurd readable unreadable, fun _ => plain⟩
  | invalid message readable =>
      have envelope := ofServiceError_isEnvelope (.invalidRequest message)
      exact Program.follows_pure ⟨fun _ _ => envelope, fun unreadable => absurd readable unreadable⟩
  | task readable asks =>
      apply (task_reports settings _).mono
      exact fun _ _ reports => ⟨fun _ => reports, fun unreadable => absurd readable unreadable⟩

def Request.undecodable : Request := ⟨"DELETE", "/pantry/items/%FF", []⟩

end Http

end Larder
