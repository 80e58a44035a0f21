import Larder.Proofs.Interleaving.Conduct

namespace Larder.Service
open Interleaving

variable {held : Option Uuid}

/-! ## Intake -/

theorem createJob_conforms (submission : Submission) : (createJob submission).Conforms held := by
  unfold createJob
  apply (Operation.obeys_liftM _).bind
  intro kind _ _
  split
  · exact Operation.obeys_throw _
  · apply (Operation.conforms_ask .now trivial).bind
    intro now _ _
    apply (Operation.obeys_newId _).bind
    rintro id _ rfl
    have isNew : (newJob id kind submission.content now).IsNew := ⟨⟨kind, rfl⟩, rfl, rfl⟩
    dsimp only
    apply (Operation.conforms_store (.insertJob _) ⟨rfl, isNew⟩).bind
    exact fun _ _ _ => Operation.obeys_pure trivial

theorem submit_conforms (submission : Submission) : (submit submission).Conforms held := by
  unfold submit
  apply (createJob_conforms submission).bind
  intro job _ _
  apply (Operation.conforms_ask (.process _ _) trivial).bind
  exact fun _ _ _ => Operation.obeys_pure trivial

theorem transition_conforms {source target : JobStatus} {error : Option String} (jobId : Uuid)
    (lawful : error.isSome ↔ target = .failed) :
    (transition jobId source target error).Conforms held := by
  unfold transition
  split
  · exact Operation.obeys_throw _
  · rename_i allowed
    apply (Operation.conforms_ask .now trivial).bind
    intro now _ _
    exact Operation.conforms_store (.transition _) ⟨source, target, by simpa using allowed, rfl, rfl, lawful⟩

theorem resolveName_conforms (settings : IngestSettings) (name : String) :
    (resolveName settings name).Conforms held := by
  unfold resolveName
  apply (Operation.conforms_ask (.resolve _ _) trivial).bind
  intro answer _ _
  split
  · exact Operation.obeys_pure trivial
  · exact Operation.obeys_throw _
  · exact Operation.obeys_throw _

theorem extractCandidates_conforms (settings : IngestSettings) (text : String) :
    (extractCandidates settings text).Conforms held := by
  unfold extractCandidates
  apply (Operation.conforms_ask (.extract _ _) trivial).bind
  intro answer _ _
  split
  · exact Operation.obeys_pure trivial
  · exact Operation.obeys_throw _
  · exact Operation.obeys_throw _

theorem candidateIngredient_obeys (settings : IngestSettings) (candidate : Candidate) :
    (candidateIngredient settings candidate).Obeys (fun _ _ => True) held := by
  unfold candidateIngredient
  dsimp only
  split
  · exact Program.obeys_pure trivial
  · apply (resolveName_conforms settings _).run.bind
    intro result _ _
    split
    · exact Program.obeys_pure trivial
    · exact Program.obeys_pure trivial

theorem stageCandidate_obeys (settings : IngestSettings) (jobId : Uuid) (candidate : Candidate) :
    (stageCandidate settings jobId candidate).Obeys
      (fun item after => after = some item.id ∧ item.Fit) held := by
  unfold stageCandidate
  apply (candidateIngredient_obeys settings candidate).bind
  intro ingredient _ _
  apply Program.obeys_now.bind
  intro now _ _
  apply (Program.obeys_newId _).bind
  rintro id _ rfl
  exact Program.obeys_pure ⟨rfl, stagedItem_fit _ jobId candidate ingredient id now⟩

theorem stageAll_conforms (settings : IngestSettings) (jobId : Uuid) (candidates : List Candidate) :
    (stageAll settings jobId candidates).Conforms held := by
  induction candidates generalizing held with
  | nil => exact Operation.obeys_pure trivial
  | cons candidate rest ih =>
      unfold stageAll
      apply (Operation.obeys_lift (stageCandidate_obeys settings jobId candidate)).bind
      rintro item _ ⟨rfl, fit⟩
      apply (Operation.conforms_store (.insertStaged _) ⟨rfl, fit⟩).bind
      exact fun _ _ _ => ih

theorem processJob_conforms (settings : IngestSettings) (jobId : Uuid) (text : String) :
    (processJob settings jobId text).Conforms held := by
  unfold processJob
  apply (extractCandidates_conforms settings text).bind
  intro candidates _ _
  apply (stageAll_conforms settings jobId candidates).bind
  intro _ _ _
  apply (transition_conforms jobId (by decide)).bind
  intro moved _ _
  split
  · exact Operation.obeys_pure trivial
  · exact Operation.obeys_throw _

theorem settle_obeys (jobId : Uuid) (outcome : Except ServiceError Nat) :
    (settle jobId outcome).Obeys (fun _ _ => True) held := by
  unfold settle
  split
  · exact Program.obeys_pure trivial
  · rename_i fault
    have lawful : (some fault.message).isSome ↔ JobStatus.failed = .failed := by simp
    apply (transition_conforms jobId lawful).run.bind
    exact fun _ _ _ => Program.obeys_pure trivial

/-! ## Review -/

theorem loadJob_conforms (jobId : Uuid) : (loadJob jobId).Conforms held := by
  unfold loadJob
  apply (Operation.conforms_store (.getJob _) trivial).bind
  intro found _ _
  split
  · exact Operation.obeys_pure trivial
  · exact Operation.obeys_throw _

theorem listStaged_obeys (jobId : Uuid) :
    (Operation.store (.listStaged jobId)).Obeys
      (fun (items : List StagedItem) _ => ∀ item ∈ items, item.Fit) held :=
  @Operation.obeys_store held (.listStaged jobId) _ trivial fun _ fit => fit

theorem getJob_conforms (jobId : Uuid) : (getJob jobId).Conforms held := by
  unfold getJob
  apply (loadJob_conforms jobId).bind
  intro job _ _
  apply (listStaged_obeys jobId).bind
  intro items _ _
  apply (Operation.obeys_parseStored _).bind
  intro kind _ _
  apply (Operation.obeys_parseStored _).bind
  exact fun _ _ _ => Operation.obeys_pure trivial

theorem requireStaged_conforms (job : Job) (action : String) :
    (requireStaged job action).Conforms held := by
  unfold requireStaged
  apply (Operation.obeys_parseStored _).bind
  intro status _ _
  split
  · exact Operation.obeys_throw _
  · exact Operation.obeys_pure trivial

theorem editItem_conforms (jobId stagedItemId : Uuid) (edit : Edit) :
    (editItem jobId stagedItemId edit).Conforms held := by
  unfold editItem
  apply (Operation.obeys_check _).bind
  rintro _ _ ⟨valid, -⟩
  apply (loadJob_conforms jobId).bind
  intro job _ _
  apply (requireStaged_conforms job "edit").bind
  intro _ _ _
  apply (listStaged_obeys jobId).bind
  intro items _ fit
  split
  · exact Operation.obeys_throw _
  · rename_i item found
    apply (Operation.conforms_ask .now trivial).bind
    intro now _ _
    have edited := editedItem_fit (fit item (List.mem_of_find?_eq_some found)) valid now
    exact Operation.conforms_store (.updateStaged _) edited

theorem writeItem_conforms {quantity : Float} {unit : String}
    (storable : Storable quantity (Text.trim unit)) (ingredientId : Uuid)
    (expiresAt : Option Timestamp) :
    (writeItem ingredientId quantity unit expiresAt).Conforms held := by
  unfold writeItem
  apply (Operation.conforms_ask .now trivial).bind
  intro now _ _
  apply (Operation.obeys_newId _).bind
  rintro id _ rfl
  exact Operation.conforms_store (.upsertItem _) ⟨rfl, storable⟩

theorem publish_conforms (ids : List Uuid) : (publish ids).Conforms held := by
  unfold publish
  apply (Operation.conforms_ask (.publish _) trivial).bind
  exact fun _ _ _ => Operation.obeys_pure trivial

theorem writeAll_obeys {overrides : List Override} {items : List StagedItem}
    (valid : ∀ given ∈ overrides, given.edit.validate = .ok ()) (fit : ∀ item ∈ items, item.Fit) :
    (writeAll overrides items).Obeys (fun _ _ => True) held := by
  induction items generalizing held with
  | nil => exact Program.obeys_pure trivial
  | cons item rest ih =>
      obtain ⟨first, later⟩ := List.forall_mem_cons.mp fit
      have storable := storable_committed first valid
      unfold writeAll
      dsimp only at storable ⊢
      split
      · apply (ih later).bind
        exact fun _ _ _ => Program.obeys_pure trivial
      · apply (writeItem_conforms storable.trim _ none).run.bind
        intro result _ _
        split
        · exact Program.obeys_pure trivial
        · apply (ih later).bind
          exact fun _ _ _ => Program.obeys_pure trivial

theorem conclude_conforms (jobId : Uuid) (written : Written) : (conclude jobId written).Conforms held := by
  have publishes : (publishWritten written.itemIds).Conforms held := by
    unfold publishWritten
    split
    · exact Operation.obeys_pure trivial
    · exact publish_conforms _
  unfold conclude
  apply publishes.bind
  intro _ _ _
  split
  · exact Operation.obeys_throw _
  · apply (transition_conforms jobId (by decide)).bind
    intro moved _ _
    split
    · exact Operation.obeys_pure trivial
    · exact Operation.obeys_throw _

theorem confirmJob_conforms (jobId : Uuid) (overrides : List Override) :
    (confirmJob jobId overrides).Conforms held := by
  unfold confirmJob
  apply (loadJob_conforms jobId).bind
  intro job _ _
  apply (requireStaged_conforms job "confirm").bind
  intro _ _ _
  apply (listStaged_obeys jobId).bind
  intro items _ fit
  apply (Operation.obeys_liftM _).bind
  rintro _ _ ⟨accepted, -⟩
  have valid : ∀ given ∈ overrides, given.edit.validate = .ok () := fun given member =>
    (((checkOverrides_eq_ok_iff _ _ _ _ _).mp accepted).1 given member).1
  apply (Operation.obeys_lift (writeAll_obeys valid fit)).bind
  exact fun written _ _ => conclude_conforms jobId written

/-! ## Stock -/

theorem listItems_conforms : listItems.Conforms held :=
  Operation.conforms_store .listItems trivial

theorem namedIngredient_conforms (settings : IngestSettings) (addition : Addition) :
    (namedIngredient settings addition).Conforms held := by
  unfold namedIngredient
  split
  · split
    · exact Operation.obeys_pure trivial
    · exact Operation.obeys_throw _
  · apply (resolveName_conforms settings _).bind
    exact fun _ _ _ => Operation.obeys_pure trivial
  · exact Operation.obeys_throw _

theorem addItem_conforms (settings : IngestSettings) (addition : Addition) :
    (addItem settings addition).Conforms held := by
  unfold addItem
  apply (Operation.obeys_check _).bind
  rintro _ _ ⟨validQuantity, -⟩
  apply (Operation.obeys_check _).bind
  rintro _ _ ⟨validUnit, -⟩
  apply (Operation.obeys_liftM _).bind
  intro expiresAt _ _
  apply (namedIngredient_conforms settings addition).bind
  intro ingredientId _ _
  apply (writeItem_conforms (storable_added validQuantity validUnit) ingredientId expiresAt).bind
  intro item _ _
  apply (publish_conforms _).bind
  exact fun _ _ _ => Operation.obeys_pure trivial

theorem deleteItem_conforms (id : Uuid) : (deleteItem id).Conforms held := by
  unfold deleteItem
  apply (Operation.conforms_store (.deleteItem _) trivial).bind
  exact fun _ _ _ => publish_conforms _

theorem reset_conforms : reset.Conforms held := by
  unfold reset
  apply (Operation.conforms_store .deleteAllItems trivial).bind
  intro removed _ _
  apply (publish_conforms _).bind
  exact fun _ _ _ => Operation.obeys_pure trivial

end Larder.Service
