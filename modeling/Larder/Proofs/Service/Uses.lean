import Larder.Proofs.Intake.Processing
import Larder.Proofs.Interleaving.Conduct

namespace Larder

variable {σ α β : Type} {kinds : Effect → Prop}

def Protocol.only (kinds : Effect → Prop) : Protocol Unit where
  allows _ := kinds
  next _ _ _ := ()

def Protocol.given (expects : (effect : Effect) → effect.Answer → Prop) (kinds : Effect → Prop) :
    Protocol Prop where
  allows asExpected effect := asExpected → kinds effect
  next asExpected effect answer := asExpected ∧ expects effect answer

theorem Protocol.given_after {expects : (effect : Effect) → effect.Answer → Prop} {events : List Event}
    (expected : ∀ event ∈ events, expects event.1 event.2) : (given expects kinds).after True events := by
  induction events using List.reverseRecOn with
  | nil => trivial
  | append_singleton events event ih =>
      rw [List.forall_mem_append, List.forall_mem_singleton] at expected
      rw [after_concat]
      exact ⟨ih expected.1, expected.2⟩

abbrev Program.Uses (kinds : Effect → Prop) (program : Program α) : Prop :=
  program.Follows (.only kinds) (fun _ _ => True) ()

abbrev Operation.Uses (kinds : Effect → Prop) (operation : Operation α) : Prop :=
  operation.Follows (.only kinds) (fun _ _ => True) (fun _ _ => True) ()

namespace Program

theorem Uses.bind {program : Program α} {follow : α → Program β} (first : program.Uses kinds)
    (later : ∀ value, (follow value).Uses kinds) : (program >>= follow).Uses kinds :=
  Follows.bind first fun _ value _ => later value

theorem uses_pure (value : α) : (pure value : Program α).Uses kinds :=
  follows_pure trivial

theorem Uses.mono {more : Effect → Prop} {program : Program α} (uses : program.Uses kinds)
    (implies : ∀ effect, kinds effect → more effect) : program.Uses more :=
  Follows.map uses id (fun _ => implies) (fun _ _ _ _ => rfl) fun _ _ _ => trivial

theorem Uses.within {program : Program α} (uses : program.Uses kinds) (effects : Nat) :
    (program.within effects).Uses kinds :=
  (Follows.within uses effects).mono fun _ _ _ => trivial

theorem Uses.follows {protocol : Protocol σ} {state : σ} {program : Program α} (uses : program.Uses kinds)
    (allows : ∀ effect, kinds effect → protocol.allows state effect)
    (stays : ∀ effect answer, kinds effect → protocol.next state effect answer = state) :
    program.Follows protocol (fun after _ => after = state) state :=
  Follows.map uses (fun _ => state) (fun _ => allows) (fun _ => stays) fun _ _ _ => rfl

section Given

variable {expects : (effect : Effect) → effect.Answer → Prop} {asExpected : Prop}

theorem Uses.given {program : Program α} (uses : program.Uses kinds) :
    program.Follows (.given expects kinds) (fun _ _ => True) asExpected := by
  induction program generalizing asExpected with
  | done value => exact follows_done.mpr trivial
  | perform effect next ih =>
      obtain ⟨used, later⟩ := follows_perform.mp uses
      exact follows_perform.mpr ⟨fun _ => used, fun answer => ih answer (later answer)⟩

theorem given_of_not {program : Program α} (unexpected : ¬ asExpected) :
    program.Follows (.given expects kinds) (fun _ _ => True) asExpected := by
  induction program generalizing asExpected with
  | done value => exact follows_done.mpr trivial
  | perform effect next ih =>
      refine follows_perform.mpr ⟨fun expected => absurd expected unexpected, fun answer => ih answer ?_⟩
      exact fun expected => unexpected expected.1

theorem Obeys.given {post : α → Option Uuid → Prop} {held : Option Uuid} {program : Program α}
    (obeys : program.Obeys post held)
    (permits : ∀ held effect, Interleaving.Permits held effect → kinds effect) :
    program.Follows (.given Interleaving.Expects kinds) (fun _ _ => True) asExpected := by
  induction program generalizing held asExpected with
  | done value => exact follows_done.mpr trivial
  | perform effect next ih =>
      obtain ⟨permitted, later⟩ := obeys_perform.mp obeys
      refine follows_perform.mpr ⟨fun _ => permits _ _ permitted, fun answer => ?_⟩
      by_cases expected : Interleaving.Expects effect answer
      · exact ih answer (later answer expected)
      · exact given_of_not fun both => expected both.2

end Given

end Program

namespace Operation

theorem Uses.bind {operation : Operation α} {follow : α → Operation β} (first : operation.Uses kinds)
    (later : ∀ value, (follow value).Uses kinds) : (operation >>= follow).Uses kinds :=
  Follows.bind first fun _ value _ => later value

theorem Uses.run {operation : Operation α} (uses : operation.Uses kinds) : operation.run.Uses kinds :=
  (Follows.run uses).mono fun _ _ _ => trivial

theorem uses_of_run {operation : Operation α} (uses : operation.run.Uses kinds) : operation.Uses kinds := by
  unfold Operation.Uses Operation.Follows
  apply Program.Follows.mono uses
  intro _ result _
  cases result <;> trivial

theorem Uses.mono {more : Effect → Prop} {operation : Operation α} (uses : operation.Uses kinds)
    (implies : ∀ effect, kinds effect → more effect) : operation.Uses more :=
  uses_of_run (uses.run.mono implies)

theorem uses_pure (value : α) : (pure value : Operation α).Uses kinds :=
  follows_pure trivial

theorem uses_throw (fault : ServiceError) : (throw fault : Operation α).Uses kinds :=
  follows_throw trivial

theorem uses_ask {effect : Effect} (used : kinds effect) : (ask effect).Uses kinds :=
  follows_ask used fun _ => trivial

theorem uses_lift {program : Program α} (uses : program.Uses kinds) :
    Operation.Uses kinds (ExceptT.lift program) :=
  follows_lift uses

theorem uses_liftM (result : Except ServiceError α) :
    (liftM result : Operation α).Uses kinds := by
  apply follows_result
  cases result <;> trivial

theorem uses_store {call : StoreCall} (used : kinds (.store call)) : (store call).Uses kinds :=
  follows_store call used (fun _ => trivial) fun _ => trivial

theorem uses_check (outcome : Except InvalidField Unit) : (check outcome).Uses kinds := by
  cases outcome with
  | ok value => exact uses_pure _
  | error fault => exact uses_throw _

theorem uses_parseStored (outcome : Except UnknownValue α) : (parseStored outcome).Uses kinds := by
  cases outcome with
  | ok value => exact uses_pure _
  | error unknown => exact uses_throw _

theorem Uses.given {expects : (effect : Effect) → effect.Answer → Prop} {asExpected : Prop}
    {operation : Operation α} (uses : operation.Uses kinds) :
    operation.Follows (.given expects kinds) (fun _ _ => True) (fun _ _ => True) asExpected := by
  unfold Operation.Follows
  apply (Program.Uses.given uses.run).mono
  intro _ result _
  cases result <;> trivial

theorem Uses.follows {protocol : Protocol σ} {state : σ} {operation : Operation α}
    (uses : operation.Uses kinds) (allows : ∀ effect, kinds effect → protocol.allows state effect)
    (stays : ∀ effect answer, kinds effect → protocol.next state effect answer = state) :
    operation.Follows protocol (fun after _ => after = state) (fun after _ => after = state) state := by
  unfold Operation.Follows
  apply (Program.Uses.follows uses.run allows stays).mono
  intro after result same
  cases result with
  | ok value => exact same
  | error fault => exact same

end Operation

namespace Service

/-! ## Intake -/

inductive Creates : Effect → Prop
  | now : Creates .now
  | newId (kind : IdKind) : Creates (.newId kind)
  | insert {job : Job} (isNew : job.IsNew) : Creates (.store (.insertJob job))
  | process (jobId : Uuid) (text : String) : Creates (.process jobId text)

theorem createJob_uses (submission : Submission) : (createJob submission).Uses Creates := by
  unfold createJob
  apply (Operation.uses_liftM _).bind
  intro kind
  split
  · exact Operation.uses_throw _
  · apply (Operation.uses_ask .now).bind
    intro now
    apply (Operation.uses_ask (.newId _)).bind
    intro id
    have isNew : (newJob id kind submission.content now).IsNew := ⟨⟨kind, rfl⟩, rfl, rfl⟩
    apply (Operation.uses_store (.insert isNew)).bind
    exact fun _ => Operation.uses_pure _

theorem submit_uses (submission : Submission) : (submit submission).Uses Creates := by
  unfold submit
  apply (createJob_uses submission).bind
  intro job
  apply (Operation.uses_ask (.process _ _)).bind
  exact fun _ => Operation.uses_pure _

inductive Moves (jobId : Uuid) (source target : JobStatus) : Effect → Prop
  | now : Moves jobId source target .now
  | move (error : Option String) (time : Timestamp) : Moves jobId source target
      (.store (.transition ⟨jobId, source.name, target.name, error, time⟩))

theorem transition_uses (jobId : Uuid) (source target : JobStatus) (error : Option String) :
    (transition jobId source target error).Uses (Moves jobId source target) := by
  unfold transition
  split
  · exact Operation.uses_throw _
  · apply (Operation.uses_ask .now).bind
    exact fun now => Operation.uses_store (.move error now)

theorem settle_uses (jobId : Uuid) (outcome : Except ServiceError Nat) :
    (settle jobId outcome).Uses (Moves jobId .pending .failed) := by
  unfold settle
  split
  · exact Program.uses_pure _
  · apply (transition_uses jobId .pending .failed _).run.bind
    exact fun _ => Program.uses_pure _

inductive Resolves : Effect → Prop
  | resolve (name : String) (budget : Nat) : Resolves (.resolve name budget)

theorem resolveName_uses (settings : IngestSettings) (name : String) :
    (resolveName settings name).Uses Resolves := by
  unfold resolveName
  apply (Operation.uses_ask (.resolve _ _)).bind
  intro answer
  split
  · exact Operation.uses_pure _
  · exact Operation.uses_throw _
  · exact Operation.uses_throw _

inductive Processes (jobId : Uuid) : Effect → Prop
  | extract (text : String) (budget : Nat) : Processes jobId (.extract text budget)
  | resolve (name : String) (budget : Nat) : Processes jobId (.resolve name budget)
  | now : Processes jobId .now
  | newId (kind : IdKind) : Processes jobId (.newId kind)
  | insert {item : StagedItem} (own : item.jobId = jobId) : Processes jobId (.store (.insertStaged item))
  | move {t : Transition} (own : t.jobId = jobId) (fromPending : t.source = JobStatus.pending.name) :
      Processes jobId (.store (.transition t))

theorem processJob_uses (settings : IngestSettings) (jobId : Uuid) (text : String) :
    (processJob settings jobId text).run.Uses (Processes jobId) := by
  apply processJob_follows.run.map (fun _ => ())
  · intro progress effect allowed
    cases allowed with
    | extract => exact .extract _ _
    | resolve name budget => exact .resolve _ _
    | now => exact .now
    | newId kind => exact .newId kind
    | insert made => exact .insert made.ofJob
    | move time => exact .move rfl rfl
  · exact fun _ _ _ _ => rfl
  · exact fun _ _ _ => trivial

/-! ## Review -/

inductive Reads (jobId : Uuid) : Effect → Prop
  | job : Reads jobId (.store (.getJob jobId))
  | items : Reads jobId (.store (.listStaged jobId))

theorem loadJob_uses (jobId : Uuid) : (loadJob jobId).Uses (Reads jobId) := by
  unfold loadJob
  apply (Operation.uses_store .job).bind
  intro found
  split
  · exact Operation.uses_pure _
  · exact Operation.uses_throw _

theorem getJob_uses (jobId : Uuid) : (getJob jobId).Uses (Reads jobId) := by
  unfold getJob
  apply (loadJob_uses jobId).bind
  intro job
  apply (Operation.uses_store .items).bind
  intro items
  apply (Operation.uses_parseStored _).bind
  intro kind
  apply (Operation.uses_parseStored _).bind
  exact fun _ => Operation.uses_pure _

theorem requireStaged_uses (job : Job) (action : String) : (requireStaged job action).Uses kinds := by
  unfold requireStaged
  apply (Operation.uses_parseStored _).bind
  intro status
  split
  · exact Operation.uses_throw _
  · exact Operation.uses_pure _

inductive Edits (jobId : Uuid) : Effect → Prop
  | read {effect : Effect} (reads : Reads jobId effect) : Edits jobId effect
  | now : Edits jobId .now
  | update (item : StagedItem) : Edits jobId (.store (.updateStaged item))

theorem editItem_uses (jobId stagedItemId : Uuid) (edit : Edit) :
    (editItem jobId stagedItemId edit).Uses (Edits jobId) := by
  unfold editItem
  apply (Operation.uses_check _).bind
  intro _
  apply ((loadJob_uses jobId).mono fun _ => .read).bind
  intro job
  apply (requireStaged_uses job "edit").bind
  intro _
  apply (Operation.uses_store (.read .items)).bind
  intro items
  split
  · exact Operation.uses_throw _
  · apply (Operation.uses_ask .now).bind
    exact fun now => Operation.uses_store (.update _)

inductive Writes : Effect → Prop
  | now : Writes .now
  | newId (kind : IdKind) : Writes (.newId kind)
  | upsert (write : PantryWrite) : Writes (.store (.upsertItem write))

theorem writeItem_uses (ingredientId : Uuid) (quantity : Float) (unit : String)
    (expiresAt : Option Timestamp) : (writeItem ingredientId quantity unit expiresAt).Uses Writes := by
  unfold writeItem
  apply (Operation.uses_ask .now).bind
  intro now
  apply (Operation.uses_ask (.newId _)).bind
  exact fun id => Operation.uses_store (.upsert _)

theorem writeAll_uses (overrides : List Override) (items : List StagedItem) :
    (writeAll overrides items).Uses Writes := by
  induction items with
  | nil => exact Program.uses_pure _
  | cons item rest ih =>
      unfold writeAll
      dsimp only
      split
      · apply ih.bind
        exact fun _ => Program.uses_pure _
      · apply (writeItem_uses _ _ _ none).run.bind
        intro result
        split
        · exact Program.uses_pure _
        · apply ih.bind
          exact fun _ => Program.uses_pure _

/-! ## Stock -/

theorem namedIngredient_uses (settings : IngestSettings) (addition : Addition) :
    (namedIngredient settings addition).Uses Resolves := by
  unfold namedIngredient
  split
  · split
    · exact Operation.uses_pure _
    · exact Operation.uses_throw _
  · apply (resolveName_uses settings _).bind
    exact fun _ => Operation.uses_pure _
  · exact Operation.uses_throw _

end Service

end Larder
