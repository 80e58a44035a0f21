import Larder.Service.Stock
import Larder.Store.Memory
import Larder.Service.Review
import Mathlib.Data.List.Chain

/-!
# Tasks that share a store

Requests are served by tasks, and a task advances by one effect at a time, in any order with the
effects of others. A store call is one atomic step of the store in memory; any other effect may be
answered in any way. A submission starts a processing task in the background. Processing may be cut off
wherever it waits, and however it ends, a settling task takes its place.
-/

namespace Larder.Interleaving

/-- What a caller may ask of the service. Processing can be started for any job, with its ending
(`process`) or without (`processAlone`). -/
inductive Request
  | createJob (submission : Submission)
  | submit (submission : Submission)
  | process (jobId : Uuid) (text : String)
  | processAlone (jobId : Uuid) (text : String)
  | getJob (jobId : Uuid)
  | edit (jobId stagedItemId : Uuid) (edit : Edit)
  | confirm (jobId : Uuid) (overrides : List Override)
  | addItem (addition : Addition)
  | listItems
  | deleteItem (id : Uuid)
  | reset

inductive Task
  | operation (program : Program Unit)
  | processing (jobId : Uuid) (program : Program (Except ServiceError Nat))

def Task.ofOperation {α : Type} (operation : Operation α) : Task :=
  .operation do
    let _ ← operation.run
    return ()

def Request.task (settings : IngestSettings) : Request → Task
  | .createJob submission => .ofOperation (Service.createJob submission)
  | .submit submission => .ofOperation (Service.submit submission)
  | .process jobId text => .processing jobId (Service.processJob settings jobId text).run
  | .processAlone jobId text => .ofOperation (Service.processJob settings jobId text)
  | .getJob jobId => .ofOperation (Service.getJob jobId)
  | .edit jobId stagedItemId change => .ofOperation (Service.editItem jobId stagedItemId change)
  | .confirm jobId overrides => .ofOperation (Service.confirmJob jobId overrides)
  | .addItem addition => .ofOperation (Service.addItem settings addition)
  | .listItems => .ofOperation Service.listItems
  | .deleteItem id => .ofOperation (Service.deleteItem id)
  | .reset => .ofOperation Service.reset

inductive Task.Asks : Task → (effect : Effect) → (effect.Answer → Task) → Prop
  | operation {effect : Effect} (next : effect.Answer → Program Unit) :
      Asks (.operation (.perform effect next)) effect fun answer => .operation (next answer)
  | processing {effect : Effect} (jobId : Uuid)
      (next : effect.Answer → Program (Except ServiceError Nat)) :
      Asks (.processing jobId (.perform effect next)) effect fun answer =>
        .processing jobId (next answer)

/-- The end of processing, by its outcome or because its time is up. -/
inductive Task.Ends (settings : IngestSettings) : Task → Task → Prop
  | finished (jobId : Uuid) (outcome : Except ServiceError Nat) :
      Ends settings (.processing jobId (.done outcome)) (.operation (Service.settle jobId outcome))
  | cutOff {effect : Effect} (jobId : Uuid)
      (next : effect.Answer → Program (Except ServiceError Nat)) :
      Ends settings (.processing jobId (.perform effect next))
        (.operation (Service.settle jobId (.error (Service.processTimedOut settings))))

structure Pool where
  memory : Memory
  issued : List Uuid
  tasks : List Task

namespace Pool

def initial (failUpsertsAfter : Option Nat) (failStagedInserts : Bool) : Pool where
  memory := { Memory.empty with failUpsertsAfter, failStagedInserts }
  issued := []
  tasks := []

/-- Only the store's own answers are determined. -/
def MayAnswer (pool : Pool) : (effect : Effect) → effect.Answer → Prop
  | .store call, answer => answer = (pool.memory.perform call).1
  | _, _ => True

def after (settings : IngestSettings) (pool : Pool) : (effect : Effect) → effect.Answer → Pool
  | .store call, _ => { pool with memory := (pool.memory.perform call).2 }
  | .newId _, id => { pool with issued := id :: pool.issued }
  | .process jobId text, _ =>
      { pool with tasks := pool.tasks ++ [Request.task settings (.process jobId text)] }
  | _, _ => pool

end Pool

inductive Step (settings : IngestSettings) : Pool → Pool → Prop
  | start (pool : Pool) (request : Request) :
      Step settings pool { pool with tasks := pool.tasks ++ [request.task settings] }
  | perform {pool : Pool} {before after : List Task} {task : Task} {effect : Effect}
      {next : effect.Answer → Task} {answer : effect.Answer}
      (split : pool.tasks = before ++ task :: after) (asks : task.Asks effect next)
      (answers : pool.MayAnswer effect answer) :
      Step settings pool
        ({ pool with tasks := before ++ next answer :: after }.after settings effect answer)
  | finish {pool : Pool} {before after : List Task} {task ending : Task}
      (split : pool.tasks = before ++ task :: after) (ends : task.Ends settings ending) :
      Step settings pool { pool with tasks := before ++ ending :: after }

/-! ## A run

A job is created, and the processing of its text is cut off before it has begun. -/

namespace Milk

def settings : IngestSettings := .default

def noon : Timestamp := .ofSeconds 43200

def failed : Job where
  id := ⟨1⟩
  kind := JobKind.textBlob.name
  rawInput := "milk"
  status := JobStatus.failed.name
  error := some (Service.processTimedOut settings).message
  createdAt := noon
  updatedAt := noon

theorem exists_run : ∃ pools last,
    (Pool.initial none false :: (pools ++ [last])).IsChain (Step settings) ∧
      last.memory.jobs = [failed] ∧ last.issued = [⟨1⟩] := by
  refine ⟨[_, _, _, _, _, _, _], _,
    .cons_cons (.start _ (.createJob ⟨none, "milk"⟩)) <|
    .cons_cons (@Step.perform settings _ [] [] _ .now _ noon rfl (.operation _) trivial) <|
    .cons_cons (@Step.perform settings _ [] [] _ (.newId .job) _ ⟨1⟩ rfl (.operation _) trivial) <|
    .cons_cons (@Step.perform settings _ [] [] _ (.store _) _ _ rfl (.operation _) rfl) <|
    .cons_cons (.start _ (.process ⟨1⟩ "milk")) <|
    .cons_cons (@Step.finish settings _ [_] [] _ _ rfl (.cutOff _ _)) <|
    .cons_cons (@Step.perform settings _ [_] [] _ .now _ noon rfl (.operation _) trivial) <|
    .cons_cons (@Step.perform settings _ [_] [] _ (.store _) _ _ rfl (.operation _) rfl) <|
    .singleton _, rfl, rfl⟩

end Milk

end Larder.Interleaving
