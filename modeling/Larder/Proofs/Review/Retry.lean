import Larder.Proofs.Review.Failure

namespace Larder.Service
open Memory

variable {overrides : List Override} {jobId : Uuid} {job : Job}

/-- A confirmation that fails at its k-th write, in a store that has any limit for the time. -/
def FailsAt (around : Surroundings) (jobId : Uuid) (overrides : List Override) (k : Nat)
    (before after : Memory) : Prop :=
  ∃ limit past fault s',
    (confirmJob jobId overrides).outcome around ⟨before.limited limit, past⟩ = (.error fault, s') ∧
      s'.memory = after ∧ after.upserts = before.upserts + k

inductive FailsEach (jobId : Uuid) (overrides : List Override) : List Nat → Memory → Memory → Prop
  | nil (m : Memory) : FailsEach jobId overrides [] m m
  | cons {around : Surroundings} {k : Nat} {ks : List Nat} {before middle after : Memory}
      (first : FailsAt around jobId overrides k before middle)
      (later : FailsEach jobId overrides ks middle after) :
      FailsEach jobId overrides (k :: ks) before after

structure Attempted (stocks : List Stock) (before after : Memory) : Prop where
  jobs : after.jobs = before.jobs
  staged : after.staged = before.staged
  unique : before.OnePerIngredient → after.OnePerIngredient
  untouched : ∀ i, i ∉ stocks.map (·.ingredientId) → after.rowsOf i = before.rowsOf i

namespace Attempted

variable {stocks : List Stock} {before middle after : Memory}

theorem refl (stocks : List Stock) (m : Memory) : Attempted stocks m m :=
  ⟨rfl, rfl, fun unique => unique, fun _ _ => rfl⟩

theorem trans (h : Attempted stocks before middle) (h' : Attempted stocks middle after) :
    Attempted stocks before after := by
  constructor
  case jobs => exact h'.jobs.trans h.jobs
  case staged => exact h'.staged.trans h.staged
  case unique => exact fun unique => h'.unique (h.unique unique)
  case untouched => exact fun i unnamed => (h'.untouched i unnamed).trans (h.untouched i unnamed)

theorem job? (h : Attempted stocks before after) (id : Uuid) : after.job? id = before.job? id := by
  unfold Memory.job?
  rw [h.jobs]

theorem listStaged (h : Attempted stocks before after) (jobId : Uuid) :
    after.listStaged jobId = before.listStaged jobId := by
  unfold Memory.listStaged
  rw [h.staged]

end Attempted

theorem FailsAt.attempted {around : Surroundings} {k : Nat} {before after : Memory}
    (fails : FailsAt around jobId overrides k before after)
    (present : before.job? jobId = some job) (staged : job.status = JobStatus.staged.name)
    (accepted : checkOverrides jobId ((before.listStaged jobId).map (·.id)) [] 0 overrides = .ok ()) :
    Attempted (walk overrides (before.listStaged jobId)) before after := by
  obtain ⟨limit, past, fault, s', fails, rfl, _⟩ := fails
  obtain ⟨_, written, failed, rows, memoryAfter, stopped⟩ :=
    stopped_of_error around (s := ⟨before.limited limit, past⟩) present staged accepted fails
  have named := (stopped.inWalk.map (·.ingredientId)).subset
  rw [List.map_map] at named
  rw [memoryAfter]
  constructor
  case jobs => exact writeAll_jobs _ _
  case staged => exact writeAll_staged _ _
  case unique => exact fun unique => onePerIngredient_writeAll (m := before.limited limit) unique _
  case untouched =>
    intro i unnamed
    exact rowsOf_writeAll_of_not_mem (m := before.limited limit) fun member => unnamed (named member)

theorem FailsEach.attempted {ks : List Nat} {before after : Memory}
    (fails : FailsEach jobId overrides ks before after) (present : before.job? jobId = some job)
    (staged : job.status = JobStatus.staged.name)
    (accepted : checkOverrides jobId ((before.listStaged jobId).map (·.id)) [] 0 overrides = .ok ()) :
    Attempted (walk overrides (before.listStaged jobId)) before after := by
  induction fails with
  | nil m => exact .refl _ m
  | cons first later ih =>
      have attempt := first.attempted present staged accepted
      rw [← attempt.listStaged jobId] at accepted
      have rest := ih ((attempt.job? jobId).trans present) accepted
      rw [attempt.listStaged jobId] at rest
      exact attempt.trans rest

theorem outcome_confirmJob_unlimited (around : Surroundings) {m : Memory} (past : List Event)
    (unique : m.OnePerIngredient) (present : m.job? jobId = some job)
    (staged : job.status = JobStatus.staged.name)
    (accepted : checkOverrides jobId ((m.listStaged jobId).map (·.id)) [] 0 overrides = .ok ()) :
    ∃ itemIds s', (confirmJob jobId overrides).outcome around ⟨m.limited none, past⟩ =
        (.ok ⟨jobId, .confirmed, itemIds, leftOut overrides (m.listStaged jobId)⟩, s') ∧
      (∀ i stock, lastOf (walk overrides (m.listStaged jobId)) i = some stock →
        (s'.memory.rowsOf i).map (·.stock) = [stock]) ∧
      (∀ i, i ∉ (walk overrides (m.listStaged jobId)).map (·.ingredientId) →
        s'.memory.rowsOf i = m.rowsOf i) ∧
      ∀ id, (s'.memory.job? id).map (·.status) =
        if id = jobId then some JobStatus.confirmed.name else (m.job? id).map (·.status) := by
  obtain ⟨⟨doneId, status, itemIds, skipped⟩, s', goes, commits, _⟩ :=
    outcome_confirmJob_commits around (s := ⟨m.limited none, past⟩) unique present staged accepted rfl
  have sameId : job.id = jobId := job?_id present
  obtain ⟨rfl, rfl, time, jobs⟩ := commits.confirmed
  obtain rfl : skipped = leftOut overrides (m.listStaged jobId) := commits.skipped
  subst sameId
  refine ⟨itemIds, s', goes, ?_, commits.untouched, ?_⟩
  · intro i stock last
    have named : i ∈ (walk overrides (m.listStaged job.id)).map (·.ingredientId) :=
      List.mem_map.mpr ⟨stock, mem_of_lastOf last, ingredientId_of_lastOf last⟩
    obtain ⟨same, row, lastSame, only, sameStock, _⟩ := commits.replaced i named
    obtain rfl := Option.some.inj (lastSame.symm.trans last)
    rw [only, List.map_singleton, sameStock]
  · intro id
    rw [jobs]
    split <;> rfl

/-- Two confirmations that go through and leave the same, apart from ids and times. -/
structure SameCommit (a b : Except ServiceError Confirmation × Situation) : Prop where
  succeeds : ∃ done, a.1 = .ok done
  result : a.1.map (fun done => (done.status, done.skipped)) =
    b.1.map fun done => (done.status, done.skipped)
  stocks : ∀ i, (a.2.memory.rowsOf i).map (·.stock) = (b.2.memory.rowsOf i).map (·.stock)
  statuses : ∀ id, (a.2.memory.job? id).map (·.status) = (b.2.memory.job? id).map (·.status)

/-- Each write of a confirmation may fail, and whichever do in whatever attempts, confirming again once
the store works commits what one confirmation would have committed. -/
theorem confirmJob_retry {m : Memory} (unique : m.OnePerIngredient)
    (present : m.job? jobId = some job) (staged : job.status = JobStatus.staged.name)
    (accepted : checkOverrides jobId ((m.listStaged jobId).map (·.id)) [] 0 overrides = .ok ()) :
    (∀ around k, 1 ≤ k → k ≤ (walk overrides (m.listStaged jobId)).length →
      ∃ after, FailsAt around jobId overrides k m after) ∧
    ∀ ks after, FailsEach jobId overrides ks m after → ∀ around around' past past',
      SameCommit ((confirmJob jobId overrides).outcome around ⟨after.limited none, past⟩)
        ((confirmJob jobId overrides).outcome around' ⟨m.limited none, past'⟩) := by
  constructor
  · intro around k positive inWalk
    obtain ⟨fault, s', fails, attempts⟩ :=
      exists_failure around [] present staged accepted positive inWalk
    exact ⟨s'.memory, _, _, fault, s', fails, rfl, attempts⟩
  · intro ks after fails around around' past past'
    have attempted := fails.attempted present staged accepted
    have sameItems := attempted.listStaged jobId
    obtain ⟨ids, retried, goes, lasts, others, statuses⟩ :=
      outcome_confirmJob_unlimited around past (attempted.unique unique)
        ((attempted.job? jobId).trans present) staged (by rw [sameItems]; exact accepted)
    obtain ⟨ids', alone, goes', lasts', others', statuses'⟩ :=
      outcome_confirmJob_unlimited around' past' unique present staged accepted
    rw [sameItems] at goes lasts others
    rw [goes, goes']
    constructor
    case succeeds => exact ⟨_, rfl⟩
    case result => rfl
    case stocks =>
      intro i
      by_cases named : i ∈ (walk overrides (m.listStaged jobId)).map (·.ingredientId)
      · obtain ⟨stock, last⟩ := exists_lastOf named
        exact (lasts i stock last).trans (lasts' i stock last).symm
      · exact congrArg _ ((others i named).trans
          ((attempted.untouched i named).trans (others' i named).symm))
    case statuses =>
      intro id
      exact (statuses id).trans (by rw [attempted.job? id]; exact (statuses' id).symm)

open Kitchen in
theorem confirmJob_retry_kitchen :
    memory.OnePerIngredient ∧ memory.job? baking.id = some baking ∧
      baking.status = JobStatus.staged.name ∧
      checkOverrides baking.id ((memory.listStaged baking.id).map (·.id)) [] 0 Kitchen.overrides = .ok () ∧
      ∃ first second, FailsAt surroundings baking.id Kitchen.overrides 2 memory first ∧
        FailsAt surroundings baking.id Kitchen.overrides 3 first second ∧
        SameCommit
          ((confirmJob baking.id Kitchen.overrides).outcome surroundings ⟨second.limited none, []⟩)
          ((confirmJob baking.id Kitchen.overrides).outcome surroundings ⟨memory.limited none, []⟩) := by
  have unique : memory.OnePerIngredient := by
    unfold OnePerIngredient
    decide
  have present : memory.job? baking.id = some baking := rfl
  refine ⟨unique, present, rfl, overrides_accepted, ?_⟩
  obtain ⟨fails, retries⟩ := confirmJob_retry unique present rfl overrides_accepted
  obtain ⟨first, failsFirst⟩ := fails surroundings 2 (by decide) (by rw [length_walk]; decide)
  have attempt := failsFirst.attempted present rfl overrides_accepted
  have sameItems := attempt.listStaged baking.id
  obtain ⟨failsAgain, _⟩ := confirmJob_retry (attempt.unique unique) ((attempt.job? _).trans present) rfl
    (by rw [sameItems]; exact overrides_accepted)
  obtain ⟨second, failsSecond⟩ := failsAgain surroundings 3 (by decide) (by rw [sameItems, length_walk])
  exact ⟨first, second, failsFirst, failsSecond,
    retries [2, 3] second (.cons failsFirst (.cons failsSecond (.nil second))) _ _ _ _⟩

end Larder.Service
