import Larder.Proofs.Interleaving.Conduct
import Larder.Proofs.Store.Jobs
import Larder.Proofs.Store.Writes
import Mathlib.Algebra.Order.Group.Multiset
import Mathlib.Tactic.Abel

namespace Larder

/-- What the store may hold of a job. `processing` is never stored. -/
structure Job.Fit (job : Job) : Prop where
  kind : ∃ kind : JobKind, job.kind = kind.name
  status : ∃ status : JobStatus, status ≠ .processing ∧ job.status = status.name
  error : job.error.isSome ↔ job.status = JobStatus.failed.name

theorem Job.IsNew.fit {job : Job} (isNew : job.IsNew) : job.Fit := by
  constructor
  case kind => exact isNew.kind
  case status => exact ⟨.pending, by decide, isNew.status⟩
  case error =>
    rw [isNew.error, isNew.status]
    decide

theorem JobStatus.name_injective {a b : JobStatus} (same : a.name = b.name) : a = b := by
  have parsed := JobStatus.parse_name a
  rw [same, JobStatus.parse_name] at parsed
  exact (Except.ok.inj parsed).symm

theorem Job.Fit.apply {job : Job} {t : Transition} (fit : job.Fit) (lawful : t.IsLawful) :
    (job.apply t).Fit := by
  obtain ⟨source, target, allowed, _, toTarget, withError⟩ := lawful
  constructor
  case kind => exact fit.kind
  case status =>
    refine ⟨target, ?_, toTarget⟩
    rintro rfl
    cases source <;> cases allowed
  case error =>
    have failed : t.target = JobStatus.failed.name ↔ target = .failed := by
      rw [toTarget]
      exact ⟨JobStatus.name_injective, congrArg _⟩
    exact withError.trans failed.symm

namespace Memory

structure Fit (m : Memory) : Prop where
  onePerIngredient : m.OnePerIngredient
  pantry : ∀ row ∈ m.pantry, Storable row.quantity row.unit
  jobs : ∀ job ∈ m.jobs, job.Fit
  staged : ∀ item ∈ m.staged, item.Fit
  owners : ∀ item ∈ m.staged, (m.job? item.jobId).isSome

def ids (m : Memory) : Multiset Uuid :=
  ↑(m.pantry.map (·.id)) + ↑(m.jobs.map (·.id)) + ↑(m.staged.map (·.id))

variable {m : Memory}

/-! ## The pantry -/

theorem fit_write (fit : m.Fit) {w : PantryWrite} (storable : Storable w.quantity w.unit) :
    (m.write w).Fit := by
  constructor
  case onePerIngredient => exact onePerIngredient_write fit.onePerIngredient w
  case pantry =>
    rcases upsertItem_cases m w with
      ⟨_, done⟩ | ⟨_, before, item, after, split, _, _, done⟩ | ⟨_, _, done⟩
    · simpa [write, done] using fit.pantry
    · have old := fit.pantry
      rw [split] at old
      simp only [write, done, List.forall_mem_append, List.forall_mem_cons] at old ⊢
      exact ⟨old.1, storable, old.2.2⟩
    · simp only [write, done, List.forall_mem_append, List.forall_mem_singleton]
      exact ⟨fit.pantry, storable⟩
  case jobs =>
    rw [write_jobs]
    exact fit.jobs
  case staged =>
    rw [write_staged]
    exact fit.staged
  case owners =>
    rw [write_staged]
    intro item member
    rw [job?_write]
    exact fit.owners item member

theorem ids_write (m : Memory) (w : PantryWrite) : (m.write w).ids ≤ m.ids + {w.itemId} := by
  have pantry : (((m.write w).pantry.map (·.id) : List Uuid) : Multiset Uuid) ≤
      ↑(m.pantry.map (·.id)) + {w.itemId} := by
    rcases upsertItem_cases m w with
      ⟨_, done⟩ | ⟨_, before, item, after, split, _, _, done⟩ | ⟨_, _, done⟩
    · simp [write, done]
    · have kept : (item.replaced w).id = item.id := rfl
      simp [write, done, split, kept]
    · have added : (PantryItem.ofWrite w).id = w.itemId := rfl
      rw [write, done, List.map_append, ← Multiset.coe_add]
      simp [added]
  unfold ids
  rw [write_jobs, write_staged]
  calc _ ≤ ↑(m.pantry.map (·.id)) + {w.itemId} + ↑(m.jobs.map (·.id)) + ↑(m.staged.map (·.id)) := by
        gcongr
    _ = _ := by abel

theorem fit_pantrySublist (fit : m.Fit) {rows : List PantryItem} (fewer : rows.Sublist m.pantry) :
    Fit { m with pantry := rows } := by
  constructor
  case onePerIngredient => exact fit.onePerIngredient.sublist (fewer.map _)
  case pantry => exact fun row member => fit.pantry row (fewer.subset member)
  case jobs => exact fit.jobs
  case staged => exact fit.staged
  case owners => exact fit.owners

theorem ids_pantrySublist {rows : List PantryItem} (fewer : rows.Sublist m.pantry) :
    ids { m with pantry := rows } ≤ m.ids := by
  have pantry : ((rows.map (·.id) : List Uuid) : Multiset Uuid) ≤ ↑(m.pantry.map (·.id)) :=
    Multiset.coe_le.mpr (fewer.map _).subperm
  unfold ids
  gcongr

/-! ## Jobs -/

theorem fit_insertJob (fit : m.Fit) {job : Job} (isNew : job.IsNew) : (m.insertJob job).2.Fit := by
  rcases insertJob_cases m job with ⟨_, done⟩ | ⟨absent, done, found⟩
  · rw [done]
    exact fit
  · rw [done]
    constructor
    case onePerIngredient => exact fit.onePerIngredient
    case pantry => exact fit.pantry
    case jobs =>
      simp only [List.forall_mem_append, List.forall_mem_singleton]
      exact ⟨fit.jobs, isNew.fit⟩
    case staged => exact fit.staged
    case owners =>
      intro item member
      rw [found]
      split
      · rfl
      · exact fit.owners item member

theorem ids_insertJob (m : Memory) (job : Job) : (m.insertJob job).2.ids ≤ m.ids + {job.id} := by
  rcases insertJob_cases m job with ⟨_, done⟩ | ⟨_, done, _⟩
  · rw [done]
    exact Multiset.le_add_right _ _
  · rw [done]
    unfold ids
    rw [List.map_append, ← Multiset.coe_add]
    apply le_of_eq
    change _ + (_ + {job.id}) + _ = _
    abel

theorem fit_transition (fit : m.Fit) {t : Transition} (lawful : t.IsLawful) :
    (m.transition t).2.Fit := by
  rcases transition_cases m t with ⟨job, _, present, _, done, rfl, found⟩ | ⟨done, _⟩
  · rw [done]
    constructor
    case onePerIngredient => exact fit.onePerIngredient
    case pantry => exact fit.pantry
    case jobs =>
      intro changed member
      rcases mem_replaceFirst member with kept | ⟨old, there, _, rfl⟩
      · exact fit.jobs changed kept
      · exact (fit.jobs old there).apply lawful
    case staged => exact fit.staged
    case owners =>
      intro item member
      rw [found]
      split
      · rfl
      · exact fit.owners item member
  · rw [done]
    exact fit

theorem ids_transition (m : Memory) (t : Transition) : (m.transition t).2.ids = m.ids := by
  rcases transition_cases m t with ⟨_, _, _, _, done, rfl, _⟩ | ⟨done, _⟩
  · have kept : (replaceFirst (·.id == t.jobId) (·.apply t) m.jobs).map (·.id) = m.jobs.map (·.id) := by
      apply map_replaceFirst
      exact fun _ _ => rfl
    rw [done]
    unfold ids
    rw [kept]
  · rw [done]

/-! ## Staged items -/

theorem fit_insertStaged (fit : m.Fit) {item : StagedItem} (fitItem : item.Fit) :
    (m.insertStaged item).2.Fit := by
  rcases insertStaged_cases m item with done | ⟨owned, done⟩
  · rw [done]
    exact fit
  · rw [done]
    constructor
    case onePerIngredient => exact fit.onePerIngredient
    case pantry => exact fit.pantry
    case jobs => exact fit.jobs
    case staged =>
      simp only [List.forall_mem_append, List.forall_mem_singleton]
      exact ⟨fit.staged, fitItem⟩
    case owners =>
      simp only [List.forall_mem_append, List.forall_mem_singleton]
      exact ⟨fit.owners, owned⟩

theorem ids_insertStaged (m : Memory) (item : StagedItem) :
    (m.insertStaged item).2.ids ≤ m.ids + {item.id} := by
  rcases insertStaged_cases m item with done | ⟨_, done⟩
  · rw [done]
    exact Multiset.le_add_right _ _
  · rw [done]
    unfold ids
    rw [List.map_append, ← Multiset.coe_add]
    apply le_of_eq
    change _ + (_ + {item.id}) = _
    abel

theorem fit_updateStaged (fit : m.Fit) {item : StagedItem} (fitItem : item.Fit) :
    (m.updateStaged item).2.Fit := by
  rcases updateStaged_cases m item with done | done
  · rw [done]
    exact fit
  · rw [done]
    constructor
    case onePerIngredient => exact fit.onePerIngredient
    case pantry => exact fit.pantry
    case jobs => exact fit.jobs
    case staged =>
      intro changed member
      rcases mem_replaceFirst member with kept | ⟨old, there, _, rfl⟩
      · exact fit.staged changed kept
      · exact ⟨fitItem.amount, (fit.staged old there).confidence, fitItem.unresolved⟩
    case owners =>
      intro changed member
      rcases mem_replaceFirst member with kept | ⟨old, there, _, rfl⟩
      · exact fit.owners changed kept
      · exact fit.owners old there

theorem ids_updateStaged (m : Memory) (item : StagedItem) : (m.updateStaged item).2.ids = m.ids := by
  rcases updateStaged_cases m item with done | done
  · rw [done]
  · have kept : (replaceFirst (sameStaged item) (editedRow item) m.staged).map (·.id) =
        m.staged.map (·.id) := by
      apply map_replaceFirst
      exact fun _ _ => rfl
    rw [done]
    unfold ids
    rw [kept]

end Memory

/-! ## All calls -/

namespace Interleaving

variable {m : Memory} {held : Option Uuid}

theorem fit_perform {call : StoreCall} (fit : m.Fit) (permitted : Permits held (.store call)) :
    (m.perform call).2.Fit := by
  cases call with
  | upsertItem w => exact Memory.fit_write fit permitted.2
  | deleteItem id =>
      obtain ⟨rows, fewer, done⟩ := Memory.deleteItem_cases m id
      change (m.deleteItem id).2.Fit
      rw [done]
      exact Memory.fit_pantrySublist fit fewer
  | deleteAllItems => exact Memory.fit_pantrySublist fit (List.nil_sublist _)
  | insertJob job => exact Memory.fit_insertJob fit permitted.2
  | transition t => exact Memory.fit_transition fit permitted
  | insertStaged item => exact Memory.fit_insertStaged fit permitted.2
  | updateStaged item => exact Memory.fit_updateStaged fit permitted
  | listItems | getJob id | listStaged jobId => exact fit

theorem ids_perform {call : StoreCall} (permitted : Permits held (.store call)) (answer : call.Answer) :
    (m.perform call).2.ids + (heldAfter held (.store call) answer).toList ≤ m.ids + held.toList := by
  cases call with
  | upsertItem w =>
      obtain ⟨rfl, _⟩ := permitted
      exact (add_zero _).trans_le (Memory.ids_write m w)
  | deleteItem id =>
      obtain ⟨rows, fewer, done⟩ := Memory.deleteItem_cases m id
      change (m.deleteItem id).2.ids + held.toList ≤ _
      rw [done]
      gcongr
      exact Memory.ids_pantrySublist fewer
  | deleteAllItems =>
      change Memory.ids { m with pantry := [] } + held.toList ≤ _
      gcongr
      exact Memory.ids_pantrySublist (List.nil_sublist _)
  | insertJob job =>
      obtain ⟨rfl, _⟩ := permitted
      exact (add_zero _).trans_le (Memory.ids_insertJob m job)
  | transition t => exact le_of_eq (congrArg (· + _) (Memory.ids_transition m t))
  | insertStaged item =>
      obtain ⟨rfl, _⟩ := permitted
      exact (add_zero _).trans_le (Memory.ids_insertStaged m item)
  | updateStaged item => exact le_of_eq (congrArg (· + _) (Memory.ids_updateStaged m item))
  | listItems | getJob id | listStaged jobId => exact le_refl _

theorem expects_perform (fit : m.Fit) (call : StoreCall) :
    Expects (.store call) (m.perform call).1 := by
  cases call with
  | listStaged jobId =>
      intro item member
      have listed : item ∈ m.listStaged jobId := member
      unfold Memory.listStaged at listed
      exact fit.staged item (List.mem_filter.mp (List.mem_mergeSort.mp listed)).1
  | _ => trivial

inductive JobMove : Option Job → Option Job → Prop
  | stays (job : Option Job) : JobMove job job
  | begins {job : Job} (isNew : job.IsNew) : JobMove none (some job)
  | moves {job : Job} {t : Transition} (lawful : t.IsLawful) (expected : job.status = t.source) :
      JobMove (some job) (some (job.apply t))

theorem jobMove_lawful {call : StoreCall} (lawful : IsLawful (.store call)) (id : Uuid) :
    JobMove (m.job? id) ((m.perform call).2.job? id) := by
  cases call with
  | upsertItem w =>
      change JobMove _ ((m.write w).job? id)
      rw [Memory.job?_write]
      exact .stays _
  | deleteItem itemId =>
      obtain ⟨rows, _, done⟩ := Memory.deleteItem_cases m itemId
      change JobMove _ ((m.deleteItem itemId).2.job? id)
      rw [done]
      exact .stays _
  | insertJob job =>
      change JobMove _ ((m.insertJob job).2.job? id)
      rcases Memory.insertJob_cases m job with ⟨_, done⟩ | ⟨absent, done, found⟩
      · rw [done]
        exact .stays _
      · rw [done, found]
        split
        · rename_i same
          rw [same, absent]
          exact .begins lawful
        · exact .stays _
  | transition t =>
      change JobMove _ ((m.transition t).2.job? id)
      rcases Memory.transition_cases m t with ⟨job, _, present, expected, done, rfl, found⟩ | ⟨done, _⟩
      · rw [done, found]
        split
        · rename_i same
          rw [same, present]
          exact .moves lawful expected
        · exact .stays _
      · rw [done]
        exact .stays _
  | insertStaged item =>
      change JobMove _ ((m.insertStaged item).2.job? id)
      rcases Memory.insertStaged_cases m item with done | ⟨_, done⟩
      · rw [done]
        exact .stays _
      · rw [done]
        exact .stays _
  | updateStaged item =>
      change JobMove _ ((m.updateStaged item).2.job? id)
      rcases Memory.updateStaged_cases m item with done | done
      · rw [done]
        exact .stays _
      · rw [done]
        exact .stays _
  | deleteAllItems | listItems | getJob jobId | listStaged jobId => exact .stays _

theorem jobMove_perform {call : StoreCall} (permitted : Permits held (.store call)) (id : Uuid) :
    JobMove (m.job? id) ((m.perform call).2.job? id) :=
  jobMove_lawful permitted.isLawful id

end Interleaving

end Larder
