import Larder.Proofs.Intake.Handling
import Larder.Proofs.Interleaving.Stages
import Larder.Proofs.Interleaving.Traffic
import Larder.Proofs.Store.Jobs
import Larder.Proofs.Store.Parts

namespace Larder.Interleaving
open Service

variable {jobId : Uuid} {effect : Effect}

def Honest : (effect : Effect) → effect.Answer → Prop
  | .store (.listStaged jobId), .ok items => ∀ item ∈ items, item.jobId = jobId
  | _, _ => True

theorem honest_of_mayAnswer {m : Memory} {answer : effect.Answer} (answers : m.MayAnswer effect answer) :
    Honest effect answer := by
  cases effect with
  | store call =>
      cases call with
      | listStaged jobId =>
          obtain rfl : answer = .ok (m.listStaged jobId) := answers
          exact fun item listed => (Memory.mem_listStaged.mp listed).2
      | _ => trivial
  | _ => trivial

def Spares (jobId : Uuid) : Effect → Prop
  | .store (.insertJob job) => job.IsNew
  | .store (.transition t) => t.jobId = jobId →
      t.source = JobStatus.staged.name ∧ t.target = JobStatus.confirmed.name
  | .store (.insertStaged item) | .store (.updateStaged item) => item.jobId ≠ jobId
  | _ => True

/-! ## What is spared -/

inductive SparedMove : Option Job → Option Job → Prop
  | stays (job : Option Job) : SparedMove job job
  | begins {job : Job} (isNew : job.IsNew) : SparedMove none (some job)
  | confirmed {job : Job} {t : Transition} (staged : job.status = JobStatus.staged.name)
      (confirms : t.target = JobStatus.confirmed.name) : SparedMove (some job) (some (job.apply t))

theorem Spares.spared (spares : Spares jobId effect) (m : Memory) :
    ((m.after effect).only jobId).staged = (m.only jobId).staged ∧
      SparedMove (m.job? jobId) ((m.after effect).job? jobId) := by
  cases effect with
  | store call =>
      by_cases concerns : call.Concerns jobId
      · cases call with
        | insertJob job =>
            obtain rfl : job.id = jobId := concerns
            rcases Memory.insertJob_cases m job with ⟨_, done⟩ | ⟨absent, done, found⟩
            · change ((m.insertJob job).2.only job.id).staged = _ ∧ SparedMove _ ((m.insertJob job).2.job? _)
              rw [done]
              exact ⟨rfl, .stays _⟩
            · change ((m.insertJob job).2.only job.id).staged = _ ∧ SparedMove _ ((m.insertJob job).2.job? _)
              rw [done, found, if_pos rfl, absent]
              exact ⟨rfl, .begins spares⟩
        | transition t =>
            obtain rfl : t.jobId = jobId := concerns
            obtain ⟨fromStaged, toConfirmed⟩ := spares rfl
            change ((m.transition t).2.only t.jobId).staged = _ ∧ SparedMove _ ((m.transition t).2.job? _)
            constructor
            · unfold Memory.only
              rw [Memory.transition_staged]
            · rcases Memory.transition_cases m t with ⟨job, _, present, expected, done, _, found⟩ | ⟨done, _⟩
              · rw [done, found, if_pos rfl, present]
                exact .confirmed (expected.trans fromStaged) toConfirmed
              · rw [done]
                exact .stays _
        | getJob id | listStaged id => exact ⟨rfl, .stays _⟩
        | insertStaged item | updateStaged item => exact absurd concerns spares
        | upsertItem | deleteItem | deleteAllItems | listItems => cases concerns
      · have same : (m.after (.store call)).only jobId = m.only jobId := Memory.only_perform_other concerns
        refine ⟨congrArg Memory.staged same, ?_⟩
        have sameJob : (m.after (.store call)).job? jobId = m.job? jobId := by
          rw [← Memory.job?_only, same, Memory.job?_only]
        rw [sameJob]
        exact .stays _
  | extract | resolve | publish | process | now | newId => exact ⟨rfl, .stays _⟩

/-! ## Who spares -/

variable {kinds : Effect → Prop}

theorem spares_of_creates (creates : Creates effect) : Spares jobId effect := by
  cases creates with
  | insert isNew => exact isNew
  | _ => trivial

theorem spares_of_processes {other : Uuid} (differs : other ≠ jobId) (processes : Processes other effect) :
    Spares jobId effect := by
  cases processes with
  | insert own => exact fun same => differs (own.symm.trans same)
  | move own => exact fun same => absurd (own.symm.trans same) differs
  | _ => trivial

theorem spares_of_reads {other : Uuid} (reads : Reads other effect) : Spares jobId effect := by
  cases reads <;> trivial

theorem spares_of_resolves (resolves : Resolves effect) : Spares jobId effect := by
  cases resolves
  trivial

theorem spares_of_writes (writes : Writes effect) : Spares jobId effect := by
  cases writes <;> trivial

theorem Stage.Allows.spares {stage : Stage} {other : Uuid} (allowed : stage.Allows other effect) :
    Spares jobId effect := by
  cases allowed with
  | lookUp => trivial
  | work isWork => cases isWork <;> trivial
  | decide => exact fun _ => ⟨rfl, rfl⟩

theorem publish_spares (ids : List Uuid) : (publish ids).Uses (Spares jobId) := by
  unfold publish
  apply (Operation.uses_ask trivial).bind
  exact fun _ => Operation.uses_pure _

theorem addItem_spares (settings : IngestSettings) (addition : Addition) :
    (addItem settings addition).Uses (Spares jobId) := by
  unfold addItem
  apply (Operation.uses_check _).bind
  intro _
  apply (Operation.uses_check _).bind
  intro _
  apply (Operation.uses_liftM _).bind
  intro expiresAt
  apply ((namedIngredient_uses settings addition).mono fun _ => spares_of_resolves).bind
  intro ingredientId
  apply ((writeItem_uses ingredientId _ _ expiresAt).mono fun _ => spares_of_writes).bind
  intro item
  apply (publish_spares _).bind
  exact fun _ => Operation.uses_pure _

theorem deleteItem_spares (id : Uuid) : (deleteItem id).Uses (Spares jobId) := by
  unfold deleteItem
  apply (Operation.uses_store trivial).bind
  exact fun _ => publish_spares _

theorem reset_spares : reset.Uses (Spares jobId) := by
  unfold reset
  apply (Operation.uses_store trivial).bind
  intro removed
  apply (publish_spares _).bind
  exact fun _ => Operation.uses_pure _

theorem confirmJob_spares (other : Uuid) (overrides : List Override) :
    (confirmJob other overrides).run.Uses (Spares jobId) := by
  apply (confirmJob_follows overrides).run.map fun _ => ()
  · exact fun _ _ allowed => allowed.spares
  · exact fun _ _ _ _ => rfl
  · exact fun _ _ _ => trivial

theorem processWithin_spares (settings : IngestSettings) {other : Uuid} (differs : other ≠ jobId)
    (text : String) (effects : Nat) : (processWithin settings other text effects).Uses (Spares jobId) :=
  (processWithin_uses effects).mono fun _ => spares_of_processes differs

theorem editItem_spares {other : Uuid} (differs : other ≠ jobId) (stagedItemId : Uuid) (edit : Edit)
    (asExpected : Prop) :
    (editItem other stagedItemId edit).Follows (.given Honest (Spares jobId)) (fun _ _ => True)
      (fun _ _ => True) asExpected := by
  have lists (asExpected : Prop) : (Operation.store (.listStaged other)).Follows (.given Honest (Spares jobId))
      (fun asExpected items => asExpected → ∀ item ∈ items, item.jobId = other) (fun _ _ => True)
      asExpected :=
    Operation.follows_store (.listStaged other) (fun _ => trivial) (fun _ both => both.2) (fun _ => trivial)
  unfold editItem
  apply (Operation.uses_check _).given.bind
  intro asExpected _ _
  apply ((loadJob_uses other).mono fun _ => spares_of_reads).given.bind
  intro asExpected job _
  apply (requireStaged_uses job "edit").given.bind
  intro asExpected _ _
  apply (lists _).bind
  intro asExpected items own
  split
  · exact Operation.follows_throw trivial
  · rename_i item found
    have reads : (Operation.ask .now).Follows (.given Honest (Spares jobId))
        (fun asExpected _ => asExpected → ∀ item ∈ items, item.jobId = other) (fun _ _ => True)
        asExpected :=
      Operation.follows_ask (fun _ => trivial) (fun _ both => own both.1)
    apply reads.bind
    intro asExpected now own
    -- The item was found among those that were listed for the other job.
    refine Operation.follows_store (.updateStaged _) ?_ (fun _ => trivial) (fun _ => trivial)
    intro expected same
    exact differs ((own expected item (List.mem_of_find?_eq_some found)).symm.trans same)

def Request.Spares (jobId : Uuid) : Request → Prop
  | .process id _ | .processAlone id _ | .edit id _ _ => id ≠ jobId
  | _ => True

theorem Request.program_spares (settings : IngestSettings) (effects : Nat) {request : Request}
    (spares : request.Spares jobId) (asExpected : Prop) :
    (request.program settings effects).Follows (.given Honest (Interleaving.Spares jobId))
      (fun _ _ => True) asExpected := by
  cases request with
  | createJob submission => exact ((createJob_uses submission).run.mono fun _ => spares_of_creates).given
  | submit submission => exact ((submit_uses submission).run.mono fun _ => spares_of_creates).given
  | process id text => exact (processWithin_spares settings spares text effects).given
  | processAlone id text =>
      exact ((processJob_uses settings id text).mono fun _ => spares_of_processes spares).given
  | getJob id => exact ((getJob_uses id).run.mono fun _ => spares_of_reads).given
  | edit id stagedItemId change =>
      exact (editItem_spares spares stagedItemId change asExpected).run.mono fun _ _ _ => trivial
  | confirm id overrides => exact (confirmJob_spares id overrides).given
  | addItem addition => exact (addItem_spares settings addition).run.given
  | listItems =>
      have lists : Service.listItems.Uses (Interleaving.Spares jobId) := Operation.uses_store trivial
      exact lists.run.given
  | deleteItem id => exact (deleteItem_spares id).run.given
  | reset => exact reset_spares.run.given

end Larder.Interleaving
