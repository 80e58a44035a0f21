import Larder.Proofs.Interleaving.Conduct
import Larder.Proofs.Interleaving.Pool
import Larder.Proofs.Service.Protocol

namespace Larder
open Interleaving

def lawful : Protocol Unit where
  allows _ := IsLawful
  next _ _ _ := ()

variable {α β : Type}

abbrev Program.Lawful (program : Program α) : Prop :=
  program.Follows lawful (fun _ _ => True) ()

abbrev Operation.Lawful (operation : Operation α) : Prop :=
  operation.Follows lawful (fun _ _ => True) (fun _ _ => True) ()

theorem Program.Lawful.bind {program : Program α} {follow : α → Program β} (first : program.Lawful)
    (later : ∀ value, (follow value).Lawful) : (program >>= follow).Lawful :=
  Follows.bind first fun _ value _ => later value

theorem Program.lawful_ask (effect : Effect) (isLawful : IsLawful effect) : (ask effect).Lawful :=
  follows_ask isLawful fun _ => trivial

namespace Operation

theorem Lawful.bind {operation : Operation α} {follow : α → Operation β} (first : operation.Lawful)
    (later : ∀ value, (follow value).Lawful) : (operation >>= follow).Lawful :=
  Follows.bind first fun _ value _ => later value

theorem Lawful.run {operation : Operation α} (isLawful : operation.Lawful) : operation.run.Lawful :=
  (Follows.run isLawful).mono fun _ _ _ => trivial

theorem lawful_pure (value : α) : (pure value : Operation α).Lawful :=
  follows_pure trivial

theorem lawful_throw (fault : ServiceError) : (throw fault : Operation α).Lawful :=
  follows_throw trivial

theorem lawful_ask (effect : Effect) (isLawful : IsLawful effect) : (ask effect).Lawful :=
  follows_ask isLawful fun _ => trivial

theorem lawful_lift {program : Program α} (isLawful : program.Lawful) : Lawful (ExceptT.lift program) :=
  follows_lift isLawful

theorem lawful_liftM (result : Except ServiceError α) : Lawful (liftM result) := by
  apply follows_result
  cases result <;> trivial

theorem lawful_store (call : StoreCall) (isLawful : IsLawful (.store call)) : (store call).Lawful :=
  follows_store call isLawful (fun _ => trivial) fun _ => trivial

theorem lawful_check (outcome : Except InvalidField Unit) : (check outcome).Lawful := by
  cases outcome with
  | ok value => exact lawful_pure _
  | error fault => exact lawful_throw _

theorem lawful_parseStored (outcome : Except UnknownValue α) : (parseStored outcome).Lawful := by
  cases outcome with
  | ok value => exact lawful_pure _
  | error unknown => exact lawful_throw _

end Operation

namespace Service

/-! ## Intake -/

theorem createJob_lawful (submission : Submission) : (createJob submission).Lawful := by
  unfold createJob
  apply (Operation.lawful_liftM _).bind
  intro kind
  split
  · exact Operation.lawful_throw _
  · apply (Operation.lawful_ask .now trivial).bind
    intro now
    apply (Operation.lawful_ask (.newId _) trivial).bind
    intro id
    have isNew : (newJob id kind submission.content now).IsNew := ⟨⟨kind, rfl⟩, rfl, rfl⟩
    apply (Operation.lawful_store (.insertJob _) isNew).bind
    exact fun _ => Operation.lawful_pure _

theorem submit_lawful (submission : Submission) : (submit submission).Lawful := by
  unfold submit
  apply (createJob_lawful submission).bind
  intro job
  apply (Operation.lawful_ask (.process _ _) trivial).bind
  exact fun _ => Operation.lawful_pure _

theorem transition_lawful (jobId : Uuid) {source target : JobStatus} {error : Option String}
    (withError : error.isSome ↔ target = .failed) : (transition jobId source target error).Lawful := by
  unfold transition
  split
  · exact Operation.lawful_throw _
  · rename_i allowed
    apply (Operation.lawful_ask .now trivial).bind
    intro now
    exact Operation.lawful_store (.transition _)
      ⟨source, target, by simpa using allowed, rfl, rfl, withError⟩

theorem resolveName_lawful (settings : IngestSettings) (name : String) :
    (resolveName settings name).Lawful := by
  unfold resolveName
  apply (Operation.lawful_ask (.resolve _ _) trivial).bind
  intro answer
  split
  · exact Operation.lawful_pure _
  · exact Operation.lawful_throw _
  · exact Operation.lawful_throw _

theorem extractCandidates_lawful (settings : IngestSettings) (text : String) :
    (extractCandidates settings text).Lawful := by
  unfold extractCandidates
  apply (Operation.lawful_ask (.extract _ _) trivial).bind
  intro answer
  split
  · exact Operation.lawful_pure _
  · exact Operation.lawful_throw _
  · exact Operation.lawful_throw _

theorem stageCandidate_lawful (settings : IngestSettings) (jobId : Uuid) (candidate : Candidate) :
    (stageCandidate settings jobId candidate).Lawful := by
  have ingredient : (candidateIngredient settings candidate).Lawful := by
    unfold candidateIngredient
    dsimp only
    split
    · exact Program.follows_pure trivial
    · apply (resolveName_lawful settings _).run.bind
      intro result
      split
      · exact Program.follows_pure trivial
      · exact Program.follows_pure trivial
  unfold stageCandidate
  apply ingredient.bind
  intro _
  apply (Program.lawful_ask .now trivial).bind
  intro now
  apply (Program.lawful_ask (.newId _) trivial).bind
  exact fun id => Program.follows_pure trivial

theorem stageAll_lawful (settings : IngestSettings) (jobId : Uuid) (candidates : List Candidate) :
    (stageAll settings jobId candidates).Lawful := by
  induction candidates with
  | nil => exact Operation.lawful_pure _
  | cons candidate rest ih =>
      unfold stageAll
      apply (Operation.lawful_lift (stageCandidate_lawful settings jobId candidate)).bind
      intro item
      apply (Operation.lawful_store (.insertStaged _) trivial).bind
      exact fun _ => ih

theorem processJob_lawful (settings : IngestSettings) (jobId : Uuid) (text : String) :
    (processJob settings jobId text).Lawful := by
  unfold processJob
  apply (extractCandidates_lawful settings text).bind
  intro candidates
  apply (stageAll_lawful settings jobId candidates).bind
  intro _
  apply (transition_lawful jobId (by decide)).bind
  intro moved
  split
  · exact Operation.lawful_pure _
  · exact Operation.lawful_throw _

theorem settle_lawful (jobId : Uuid) (outcome : Except ServiceError Nat) :
    (settle jobId outcome).Lawful := by
  unfold settle
  split
  · exact Program.follows_pure trivial
  · rename_i fault
    have withError : (some fault.message).isSome ↔ JobStatus.failed = .failed := by simp
    apply (transition_lawful jobId withError).run.bind
    exact fun _ => Program.follows_pure trivial

/-! ## Review -/

theorem loadJob_lawful (jobId : Uuid) : (loadJob jobId).Lawful := by
  unfold loadJob
  apply (Operation.lawful_store (.getJob _) trivial).bind
  intro found
  split
  · exact Operation.lawful_pure _
  · exact Operation.lawful_throw _

theorem getJob_lawful (jobId : Uuid) : (getJob jobId).Lawful := by
  unfold getJob
  apply (loadJob_lawful jobId).bind
  intro job
  apply (Operation.lawful_store (.listStaged _) trivial).bind
  intro items
  apply (Operation.lawful_parseStored _).bind
  intro kind
  apply (Operation.lawful_parseStored _).bind
  exact fun _ => Operation.lawful_pure _

theorem requireStaged_lawful (job : Job) (action : String) : (requireStaged job action).Lawful := by
  unfold requireStaged
  apply (Operation.lawful_parseStored _).bind
  intro status
  split
  · exact Operation.lawful_throw _
  · exact Operation.lawful_pure _

theorem editItem_lawful (jobId stagedItemId : Uuid) (edit : Edit) :
    (editItem jobId stagedItemId edit).Lawful := by
  unfold editItem
  apply (Operation.lawful_check _).bind
  intro _
  apply (loadJob_lawful jobId).bind
  intro job
  apply (requireStaged_lawful job "edit").bind
  intro _
  apply (Operation.lawful_store (.listStaged _) trivial).bind
  intro items
  split
  · exact Operation.lawful_throw _
  · apply (Operation.lawful_ask .now trivial).bind
    exact fun now => Operation.lawful_store (.updateStaged _) trivial

theorem writeItem_lawful (ingredientId : Uuid) (quantity : Float) (unit : String)
    (expiresAt : Option Timestamp) : (writeItem ingredientId quantity unit expiresAt).Lawful := by
  unfold writeItem
  apply (Operation.lawful_ask .now trivial).bind
  intro now
  apply (Operation.lawful_ask (.newId _) trivial).bind
  exact fun id => Operation.lawful_store (.upsertItem _) trivial

theorem publish_lawful (ids : List Uuid) : (publish ids).Lawful := by
  unfold publish
  apply (Operation.lawful_ask (.publish _) trivial).bind
  exact fun _ => Operation.lawful_pure _

theorem writeAll_lawful (overrides : List Override) (items : List StagedItem) :
    (writeAll overrides items).Lawful := by
  induction items with
  | nil => exact Program.follows_pure trivial
  | cons item rest ih =>
      unfold writeAll
      dsimp only
      split
      · apply ih.bind
        exact fun _ => Program.follows_pure trivial
      · apply (writeItem_lawful _ _ _ none).run.bind
        intro result
        split
        · exact Program.follows_pure trivial
        · apply ih.bind
          exact fun _ => Program.follows_pure trivial

theorem conclude_lawful (jobId : Uuid) (written : Written) : (conclude jobId written).Lawful := by
  have publishes : (publishWritten written.itemIds).Lawful := by
    unfold publishWritten
    split
    · exact Operation.lawful_pure _
    · exact publish_lawful _
  unfold conclude
  apply publishes.bind
  intro _
  split
  · exact Operation.lawful_throw _
  · apply (transition_lawful jobId (by decide)).bind
    intro moved
    split
    · exact Operation.lawful_pure _
    · exact Operation.lawful_throw _

theorem confirmJob_lawful (jobId : Uuid) (overrides : List Override) :
    (confirmJob jobId overrides).Lawful := by
  unfold confirmJob
  apply (loadJob_lawful jobId).bind
  intro job
  apply (requireStaged_lawful job "confirm").bind
  intro _
  apply (Operation.lawful_store (.listStaged _) trivial).bind
  intro items
  apply (Operation.lawful_liftM _).bind
  intro _
  apply (Operation.lawful_lift (writeAll_lawful overrides items)).bind
  exact fun written => conclude_lawful jobId written

/-! ## Stock -/

theorem namedIngredient_lawful (settings : IngestSettings) (addition : Addition) :
    (namedIngredient settings addition).Lawful := by
  unfold namedIngredient
  split
  · split
    · exact Operation.lawful_pure _
    · exact Operation.lawful_throw _
  · apply (resolveName_lawful settings _).bind
    exact fun _ => Operation.lawful_pure _
  · exact Operation.lawful_throw _

theorem addItem_lawful (settings : IngestSettings) (addition : Addition) :
    (addItem settings addition).Lawful := by
  unfold addItem
  apply (Operation.lawful_check _).bind
  intro _
  apply (Operation.lawful_check _).bind
  intro _
  apply (Operation.lawful_liftM _).bind
  intro expiresAt
  apply (namedIngredient_lawful settings addition).bind
  intro ingredientId
  apply (writeItem_lawful ingredientId _ _ expiresAt).bind
  intro item
  apply (publish_lawful _).bind
  exact fun _ => Operation.lawful_pure _

theorem deleteItem_lawful (id : Uuid) : (deleteItem id).Lawful := by
  unfold deleteItem
  apply (Operation.lawful_store (.deleteItem _) trivial).bind
  exact fun _ => publish_lawful _

theorem reset_lawful : reset.Lawful := by
  unfold reset
  apply (Operation.lawful_store .deleteAllItems trivial).bind
  intro removed
  apply (publish_lawful _).bind
  exact fun _ => Operation.lawful_pure _

end Service

/-! ## Tasks -/

namespace Interleaving

def Task.Lawful : Task → Prop
  | .operation program => program.Lawful
  | .processing _ program => program.Lawful

theorem Task.ofOperation_lawful {operation : Operation α} (isLawful : operation.Lawful) :
    (Task.ofOperation operation).Lawful := by
  apply isLawful.run.bind
  exact fun _ => Program.follows_pure trivial

theorem Request.task_lawful (settings : IngestSettings) (request : Request) :
    (request.task settings).Lawful := by
  cases request with
  | createJob submission => exact Task.ofOperation_lawful (Service.createJob_lawful submission)
  | submit submission => exact Task.ofOperation_lawful (Service.submit_lawful submission)
  | process jobId text => exact (Service.processJob_lawful settings jobId text).run
  | processAlone jobId text =>
      exact Task.ofOperation_lawful (Service.processJob_lawful settings jobId text)
  | getJob jobId => exact Task.ofOperation_lawful (Service.getJob_lawful jobId)
  | edit jobId stagedItemId change =>
      exact Task.ofOperation_lawful (Service.editItem_lawful jobId stagedItemId change)
  | confirm jobId overrides =>
      exact Task.ofOperation_lawful (Service.confirmJob_lawful jobId overrides)
  | addItem addition => exact Task.ofOperation_lawful (Service.addItem_lawful settings addition)
  | listItems => exact Task.ofOperation_lawful (Operation.lawful_store .listItems trivial)
  | deleteItem id => exact Task.ofOperation_lawful (Service.deleteItem_lawful id)
  | reset => exact Task.ofOperation_lawful Service.reset_lawful

theorem Task.Lawful.asks {task : Task} {effect : Effect} {next : effect.Answer → Task}
    (isLawful : task.Lawful) (asks : task.Asks effect next) :
    IsLawful effect ∧ ∀ answer, (next answer).Lawful := by
  cases asks with
  | operation next => exact Program.follows_perform.mp isLawful
  | processing jobId next => exact Program.follows_perform.mp isLawful

theorem Task.Ends.lawful {settings : IngestSettings} {task ending : Task}
    (ends : task.Ends settings ending) : ending.Lawful := by
  cases ends with
  | finished jobId outcome => exact Service.settle_lawful jobId outcome
  | cutOff jobId next => exact Service.settle_lawful jobId _

end Interleaving

end Larder
