import Larder.Proofs.Http.Answers
import Larder.Proofs.Service.Footprint

namespace Larder.Http
open Service

/-- Neither a success nor a conflict, nor a confirmation that the store has failed. -/
structure Response.Rejects (response : Response) (path? : Option Path) : Prop where
  unsuccessful : ¬ response.IsSuccess
  noConflict : response.status ≠ 409
  noFailure : ∀ jobId, path? = some (.confirm jobId) → response.status ≠ 500

def IsWellFormed (request : Request) : Path → Prop
  | .health | .pantry | .reset => True
  | .items => ∃ addition, Json.decodeBytes Addition.decode request.body = .ok addition
  | .item raw | .job raw => (idOf? raw).isSome
  | .ingest => ∃ submission, Json.decodeBytes Submission.decode request.body = .ok submission
  | .stagedItem job item => (idOf? job).isSome ∧ (idOf? item).isSome ∧
      ∃ edit, Json.decodeBytes Edit.decode request.body = .ok edit
  | .confirm job => (idOf? job).isSome ∧ ∃ overrides, overridesOf request = .ok overrides

def Request.IsMalformed (request : Request) : Prop :=
  ∃ path, request.path? = some path ∧ ¬ IsWellFormed request path

variable {request : Request} {path : Path} {settings : IngestSettings} {around : Surroundings} {s : Situation}

theorem Asks.isWellFormed {task : Task} (asks : Asks request path task) : IsWellFormed request path := by
  cases asks with
  | health | pantry | reset => trivial
  | items decoded | ingest decoded => exact ⟨_, decoded⟩
  | item named | job named => exact Option.isSome_of_eq_some named
  | stagedItem job_named item_named decoded =>
      exact ⟨Option.isSome_of_eq_some job_named, Option.isSome_of_eq_some item_named, _, decoded⟩
  | confirm named decoded => exact ⟨Option.isSome_of_eq_some named, _, decoded⟩

theorem run_handler (task : Task) : ((task.handler settings).response.run around s) =
    ((match ((task.operation settings).outcome around s).1 with
      | .ok value => task.respond value
      | .error fault => .ofServiceError fault), ((task.operation settings).outcome around s).2) := by
  rw [Task.response_handler, Program.run_bind]
  unfold Operation.outcome
  cases (Program.run around (task.operation settings).run s).1 <;> rfl

theorem operation_untouched {task : Task} (asks : Asks request path task) {s' : Situation}
    {fault : ServiceError} (fails : (task.operation settings).outcome around s = (.error fault, s'))
    (rejects : (Response.ofServiceError fault).Rejects (some path)) : Untouched s s' := by
  cases asks with
  | health => cases fails
  | pantry => exact listItems_failsClean.untouched fails
  | items => exact (addItem_failsClean settings _).untouched fails
  | item => exact (deleteItem_failsClean _).untouched fails
  | reset => exact reset_failsClean.untouched fails
  | ingest => exact (submit_failsClean _).untouched fails
  | job => exact (getJob_failsClean _).untouched fails
  | stagedItem => exact (editItem_failsClean _ _ _).untouched fails
  | confirm =>
      rcases confirmJob_clean_or_writeFault fails with same | rfl
      · exact same
      · -- A failed write is reported as a failure of the store.
        exact absurd rfl (rejects.noFailure _ rfl)

theorem task_untouched {task : Task} (asks : Asks request path task)
    (rejects : ((task.handler settings).response.run around s).1.Rejects (some path)) :
    Untouched s ((task.handler settings).response.run around s).2 := by
  rw [run_handler] at *
  cases ended : (task.operation settings).outcome around s with
  | mk result s' =>
      rw [ended] at rejects
      cases result with
      | ok value => exact absurd (task.respond_isSuccess value) rejects.unsuccessful
      | error fault => exact operation_untouched asks ended rejects

theorem Answers.rejected {query : String} {handler : Handler Response}
    (answered : Answers request query settings path handler) (around : Surroundings) (s : Situation) :
    ((handler.response.run around s).1.Rejects (some path) → Untouched s (handler.response.run around s).2) ∧
      (¬ IsWellFormed request path → (handler.response.run around s).2 = s) := by
  cases answered with
  | unreadable | invalid => exact ⟨fun _ => Untouched.refl s, fun _ => rfl⟩
  | task readable asks => exact ⟨task_untouched asks, fun malformed => absurd asks.isWellFormed malformed⟩

theorem run_withoutBody (program : Program Response) :
    (program >>= fun response => pure response.withoutBody).run around s =
      ((program.run around s).1.withoutBody, (program.run around s).2) :=
  Program.run_bind around program _ s

/-- A rejected request changes no row, publishes nothing and starts nothing. One whose ids or body are
malformed has no effect at all. -/
theorem handle_rejected (settings : IngestSettings) (around : Surroundings) (request : Request)
    {s s' : Situation} {response : Response}
    (handled : (handle settings request).run around s = (response, s')) :
    (response.Rejects request.path? → Untouched s s') ∧ (request.IsMalformed → s' = s) := by
  rcases handle_cases settings request with ⟨refusal, refused⟩ | ⟨path, found, answered⟩
  · rw [refused] at handled
    cases handled
    exact ⟨fun _ => Untouched.refl s, fun _ => rfl⟩
  · obtain ⟨rejected, ignored⟩ := (answers settings request request.query path).rejected around s
    have malformed : request.IsMalformed → ¬ IsWellFormed request path := by
      rintro ⟨other, there, malformed⟩
      rwa [Option.some.inj (found.symm.trans there)]
    rw [found]
    rcases answered with whole | bare
    · rw [whole] at handled
      rw [handled] at rejected ignored
      exact ⟨rejected, fun given => ignored (malformed given)⟩
    · rw [bare, run_withoutBody] at handled
      cases handled
      refine ⟨fun rejects => rejected ?_, fun given => ignored (malformed given)⟩
      exact ⟨rejects.unsuccessful, rejects.noConflict, rejects.noFailure⟩

/-! The kitchen is asked to remove a row that it does not have, and to edit an item without an id. -/

namespace Kitchen
open Service.Kitchen

def removal : Request := ⟨"DELETE", "/pantry/items/00000000-0000-0000-0000-000000000063", []⟩

def noRow : Response := .error 404 "not_found" "Pantry item 00000000-0000-0000-0000-000000000063."

def namelessEdit : Request := ⟨"PATCH", "/pantry/ingest/10/items/salt", []⟩

theorem removal_handled :
    ∃ s', (handle .default removal).run surroundings ⟨memory, []⟩ = (noRow, s') := ⟨_, rfl⟩

theorem noRow_rejects : noRow.Rejects removal.path? where
  unsuccessful success := absurd success.2 (by decide)
  noConflict := by decide
  noFailure _ _ := by decide

theorem namelessEdit_malformed : namelessEdit.IsMalformed :=
  ⟨.stagedItem "10" "salt", rfl, fun wellFormed => by cases wellFormed.1⟩

end Kitchen

open Kitchen Service.Kitchen in
theorem handle_rejected_kitchen :
    (∃ s', (handle .default removal).run surroundings ⟨memory, []⟩ = (noRow, s') ∧
        Untouched ⟨memory, []⟩ s') ∧
      ((handle .default namelessEdit).run surroundings ⟨memory, []⟩).2 = ⟨memory, []⟩ := by
  obtain ⟨s', handled⟩ := removal_handled
  refine ⟨⟨s', handled, (handle_rejected _ _ _ handled).1 noRow_rejects⟩, ?_⟩
  exact (handle_rejected .default surroundings namelessEdit rfl).2 namelessEdit_malformed

end Larder.Http
