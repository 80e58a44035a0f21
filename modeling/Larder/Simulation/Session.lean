import Larder.Http.Router
import Larder.Simulation.Scheduler

namespace Larder.Simulation

inductive Step
  | http (request : Http.Request)
  | advance (millis : Nat)
  | createJob (submission : Submission)
  | submit (submission : Submission)
  | spawnProcessing (jobId : Uuid) (text : String)
  | processJob (jobId : Uuid) (text : String)
  | getJob (jobId : Uuid)
  | edit (jobId stagedItemId : Uuid) (edit : Edit)
  | confirm (jobId : Uuid) (overrides : List Override)
  | addItem (addition : Addition)
  | list
  | delete (itemId : Uuid)
  | reset

inductive Outcome
  | response (response : Http.Response)
  | passed
  | job (result : Except ServiceError Job)
  | receipt (result : Except ServiceError Receipt)
  | started
  | processed (result : Except ServiceError Nat)
  | view (result : Except ServiceError JobView)
  | edited (result : Except ServiceError StagedItem)
  | confirmed (result : Except ServiceError Confirmation)
  | added (result : Except ServiceError PantryItem)
  | listed (result : Except ServiceError (List PantryItem))
  | deleted (result : Except ServiceError Unit)
  | removed (result : Except ServiceError Nat)
  | stuck

structure Report where
  outcome : Outcome
  published : List (List Uuid)

def World.perform {α : Type} (script : Script) (world : World) (wrap : Except ServiceError α → Outcome)
    (operation : Operation α) : Outcome × World :=
  match world.complete script operation.run with
  | (some result, world) => (wrap result, world)
  | (none, world) => (.stuck, world)

def World.take (script : Script) (world : World) : Step → Outcome × World
  | .http request =>
      match world.complete script (Http.handle script.settings request) with
      | (some response, world) => (.response response, world)
      | (none, world) => (.stuck, world)
  | .advance millis => (.passed, world.advance script millis)
  | .createJob submission => world.perform script .job (Service.createJob submission)
  | .submit submission => world.perform script .receipt (Service.submit submission)
  | .spawnProcessing jobId text =>
      (.started, { world with ready := world.ready ++ [⟨jobId, .fresh text⟩] })
  | .processJob jobId text =>
      world.perform script .processed (Service.processJob script.settings jobId text)
  | .getJob jobId => world.perform script .view (Service.getJob jobId)
  | .edit jobId stagedItemId edit =>
      world.perform script .edited (Service.editItem jobId stagedItemId edit)
  | .confirm jobId overrides =>
      world.perform script .confirmed (Service.confirmJob jobId overrides)
  | .addItem addition => world.perform script .added (Service.addItem script.settings addition)
  | .list => world.perform script .listed Service.listItems
  | .delete itemId => world.perform script .deleted (Service.deleteItem itemId)
  | .reset => world.perform script .removed Service.reset

def World.report (script : Script) (world : World) (step : Step) : Report × World :=
  let (outcome, world) := { world with published := [] }.take script step
  (⟨outcome, world.published.reverse⟩, world)

def World.play (script : Script) (world : World) : List Step → List Report × World
  | [] => ([], world)
  | step :: steps =>
      let (report, world) := world.report script step
      let (reports, world) := world.play script steps
      (report :: reports, world)

end Larder.Simulation
