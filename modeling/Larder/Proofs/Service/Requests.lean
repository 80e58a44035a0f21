import Larder.Proofs.Interleaving.Pool
import Larder.Proofs.Intake.Processing

namespace Larder

namespace Service

def processWithin (settings : IngestSettings) (jobId : Uuid) (text : String) (effects : Nat) :
    Program Unit := do
  let result ← (processJob settings jobId text).run.within effects
  settle jobId (result.getD (.error (processTimedOut settings)))

theorem run_processWithin (settings : IngestSettings) (around : Surroundings) (jobId : Uuid) (text : String)
    (effects : Nat) (s : Situation) :
    ((processWithin settings jobId text effects).run around s).2 =
      process settings around jobId text effects s := by
  unfold processWithin process
  rw [Program.run_bind, Program.run_within]

end Service

namespace Interleaving

abbrev Request.Value : Request → Type
  | .createJob _ => Except ServiceError Job
  | .submit _ => Except ServiceError Receipt
  | .process _ _ => Unit
  | .processAlone _ _ => Except ServiceError Nat
  | .getJob _ => Except ServiceError JobView
  | .edit _ _ _ => Except ServiceError StagedItem
  | .confirm _ _ => Except ServiceError Confirmation
  | .addItem _ => Except ServiceError PantryItem
  | .listItems => Except ServiceError (List PantryItem)
  | .deleteItem _ => Except ServiceError Unit
  | .reset => Except ServiceError Nat

/-- The program that serves a request. The number of effects counts for background processing only. -/
def Request.program (settings : IngestSettings) (effects : Nat) : (request : Request) → Program request.Value
  | .createJob submission => (Service.createJob submission).run
  | .submit submission => (Service.submit submission).run
  | .process jobId text => Service.processWithin settings jobId text effects
  | .processAlone jobId text => (Service.processJob settings jobId text).run
  | .getJob jobId => (Service.getJob jobId).run
  | .edit jobId stagedItemId change => (Service.editItem jobId stagedItemId change).run
  | .confirm jobId overrides => (Service.confirmJob jobId overrides).run
  | .addItem addition => (Service.addItem settings addition).run
  | .listItems => Service.listItems.run
  | .deleteItem id => (Service.deleteItem id).run
  | .reset => Service.reset.run

end Interleaving

end Larder
