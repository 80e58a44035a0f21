import Larder.Proofs.Interleaving.Invariant
import Mathlib.Data.List.Destutter

/-!
# The life of a job

Along a run of tasks that share a store a job only ever makes lawful steps, and it is never taken away.
So its statuses, each counted once as long as it lasts, go from `pending` to `staged` and `confirmed` or
from `pending` to `failed` (`statuses_prefix`). `job_lifeCycle` adds what a run leaves of a job as it
is.
-/

namespace Larder.Interleaving

def FollowedBy (a b : String) : Prop :=
  ∃ source target : JobStatus, source.canBecome target = true ∧ a = source.name ∧ b = target.name

namespace FollowedBy

variable {b : String}

theorem of_pending (next : FollowedBy JobStatus.pending.name b) :
    b = JobStatus.staged.name ∨ b = JobStatus.failed.name := by
  obtain ⟨source, target, allowed, same, rfl⟩ := next
  obtain rfl := JobStatus.name_injective same
  cases target with
  | staged => exact .inl rfl
  | failed => exact .inr rfl
  | pending | processing | confirmed => cases allowed

theorem of_staged (next : FollowedBy JobStatus.staged.name b) : b = JobStatus.confirmed.name := by
  obtain ⟨source, target, allowed, same, rfl⟩ := next
  obtain rfl := JobStatus.name_injective same
  cases target with
  | confirmed => rfl
  | pending | processing | staged | failed => cases allowed

theorem not_of_confirmed : ¬ FollowedBy JobStatus.confirmed.name b := by
  rintro ⟨source, target, allowed, same, rfl⟩
  obtain rfl := JobStatus.name_injective same
  cases allowed

theorem not_of_failed : ¬ FollowedBy JobStatus.failed.name b := by
  rintro ⟨source, target, allowed, same, rfl⟩
  obtain rfl := JobStatus.name_injective same
  cases allowed

end FollowedBy

/-! ## Statuses -/

theorem destutter_isChain {α : Type} [DecidableEq α] {R : α → α → Prop} {a : α} {rest : List α}
    (chain : (a :: rest).IsChain fun x y => x = y ∨ R x y) :
    ∃ later, rest.destutter' (· ≠ ·) a = a :: later ∧ (a :: later).IsChain R := by
  induction rest generalizing a with
  | nil => exact ⟨[], rfl, .singleton a⟩
  | cons b rest ih =>
      obtain ⟨next, chain⟩ := List.isChain_cons_cons.mp chain
      obtain ⟨later, split, isChain⟩ := ih chain
      by_cases same : a = b
      · subst same
        exact ⟨later, by simp [split], isChain⟩
      · refine ⟨b :: later, by simp [same, split], ?_⟩
        exact .cons_cons (next.resolve_left same) isChain

theorem isPrefix_of_isChain {later : List String}
    (chain : (JobStatus.pending.name :: later).IsChain FollowedBy) :
    JobStatus.pending.name :: later <+:
        [JobStatus.pending.name, JobStatus.staged.name, JobStatus.confirmed.name] ∨
      JobStatus.pending.name :: later <+: [JobStatus.pending.name, JobStatus.failed.name] := by
  cases later with
  | nil => exact .inl (by simp)
  | cons second later =>
      obtain ⟨next, chain⟩ := List.isChain_cons_cons.mp chain
      rcases next.of_pending with rfl | rfl
      · left
        cases later with
        | nil => simp
        | cons third later =>
            obtain ⟨next, chain⟩ := List.isChain_cons_cons.mp chain
            obtain rfl := next.of_staged
            cases later with
            | nil => simp
            | cons fourth later =>
                exact absurd (List.isChain_cons_cons.mp chain).1 FollowedBy.not_of_confirmed
      · right
        cases later with
        | nil => simp
        | cons third later => exact absurd (List.isChain_cons_cons.mp chain).1 FollowedBy.not_of_failed

def statusesOf (states : List (Option Job)) : List String :=
  states.filterMap (Option.map (·.status))

theorem JobMove.status {job next : Job} (move : JobMove (some job) (some next)) :
    job.status = next.status ∨ FollowedBy job.status next.status := by
  cases move with
  | stays => exact .inl rfl
  | moves lawful expected =>
      obtain ⟨source, target, allowed, fromSource, toTarget, _⟩ := lawful
      exact .inr ⟨source, target, allowed, expected.trans fromSource, toTarget⟩

theorem statusesOf_isChain {job : Job} {states : List (Option Job)}
    (moves : (some job :: states).IsChain JobMove) :
    (job.status :: statusesOf states).IsChain fun a b => a = b ∨ FollowedBy a b := by
  induction states generalizing job with
  | nil => exact .singleton _
  | cons state states ih =>
      obtain ⟨move, later⟩ := List.isChain_cons_cons.mp moves
      cases state with
      | none => cases move
      | some next => exact .cons_cons move.status (ih later)

theorem statuses_prefix {states : List (Option Job)} (moves : (none :: states).IsChain JobMove) :
    (statusesOf states).destutter (· ≠ ·) <+:
        [JobStatus.pending.name, JobStatus.staged.name, JobStatus.confirmed.name] ∨
      (statusesOf states).destutter (· ≠ ·) <+: [JobStatus.pending.name, JobStatus.failed.name] := by
  induction states with
  | nil => exact .inl (List.nil_prefix)
  | cons state states ih =>
      obtain ⟨move, later⟩ := List.isChain_cons_cons.mp moves
      cases move with
      | stays => exact ih later
      | @begins job isNew =>
          obtain ⟨rest, split, chain⟩ := destutter_isChain (statusesOf_isChain later)
          have unstuttered : (statusesOf (some job :: states)).destutter (· ≠ ·) =
              job.status :: rest := split
          -- From `pending` there are only two ways to go on, and both end after at most two steps.
          rw [unstuttered]
          rw [isNew.status] at chain ⊢
          exact isPrefix_of_isChain chain

/-! ## What stays -/

/-- What stays of a job from one time to a later one; it has not left a final status either. -/
structure Lasts (job later : Job) : Prop where
  id : later.id = job.id
  kind : later.kind = job.kind
  rawInput : later.rawInput = job.rawInput
  createdAt : later.createdAt = job.createdAt
  confirmed : job.status = JobStatus.confirmed.name → later.status = JobStatus.confirmed.name
  failed : job.status = JobStatus.failed.name → later.status = JobStatus.failed.name

theorem Lasts.refl (job : Job) : Lasts job job :=
  ⟨rfl, rfl, rfl, rfl, fun same => same, fun same => same⟩

theorem Lasts.trans {first second third : Job} (h : Lasts first second) (h' : Lasts second third) :
    Lasts first third := by
  constructor
  case id => exact h'.id.trans h.id
  case kind => exact h'.kind.trans h.kind
  case rawInput => exact h'.rawInput.trans h.rawInput
  case createdAt => exact h'.createdAt.trans h.createdAt
  case confirmed => exact fun same => h'.confirmed (h.confirmed same)
  case failed => exact fun same => h'.failed (h.failed same)

def Remains (state later : Option Job) : Prop :=
  ∀ job, state = some job → ∃ next, later = some next ∧ Lasts job next

instance : IsTrans (Option Job) Remains where
  trans _ _ _ first second job there := by
    obtain ⟨next, isNext, lasts⟩ := first job there
    obtain ⟨last, isLast, lastsOn⟩ := second next isNext
    exact ⟨last, isLast, lasts.trans lastsOn⟩

theorem JobMove.remains {state later : Option Job} (move : JobMove state later) :
    Remains state later := by
  rintro job rfl
  cases move with
  | stays => exact ⟨job, rfl, .refl job⟩
  | @moves _ t lawful expected =>
      refine ⟨_, rfl, rfl, rfl, rfl, rfl, ?_, ?_⟩
      all_goals
        intro final
        obtain ⟨source, target, allowed, fromSource, toTarget, _⟩ := lawful
        have follows : FollowedBy job.status t.target :=
          ⟨source, target, allowed, expected.trans fromSource, toTarget⟩
        rw [final] at follows
      · exact absurd follows FollowedBy.not_of_confirmed
      · exact absurd follows FollowedBy.not_of_failed

/-! ## Runs -/

variable {settings : IngestSettings}

theorem run_sound {first : Pool} {pools : List Pool} {helds : List (Option Uuid)}
    (sound : first.Sound helds) (run : (first :: pools).IsChain (Step settings)) :
    (∀ pool ∈ first :: pools, ∃ helds, pool.Sound helds) ∧
      ∀ id, ((first :: pools).map (·.memory.job? id)).IsChain JobMove := by
  induction pools generalizing first helds with
  | nil =>
      constructor
      · intro pool member
        obtain rfl := List.mem_singleton.mp member
        exact ⟨helds, sound⟩
      · exact fun id => .singleton _
  | cons next pools ih =>
      obtain ⟨taken, later⟩ := List.isChain_cons_cons.mp run
      obtain ⟨⟨helds', soundNext⟩, moves⟩ := sound.step taken
      obtain ⟨allSound, chains⟩ := ih soundNext later
      constructor
      · intro pool member
        rcases List.mem_cons.mp member with rfl | later
        · exact ⟨helds, sound⟩
        · exact allSound pool later
      · exact fun id => .cons_cons (moves id) (chains id)

structure LifeCycle (id : Uuid) (pools : List Pool) : Prop where
  statuses : (statusesOf (pools.map (·.memory.job? id))).destutter (· ≠ ·) <+:
      [JobStatus.pending.name, JobStatus.staged.name, JobStatus.confirmed.name] ∨
    (statusesOf (pools.map (·.memory.job? id))).destutter (· ≠ ·) <+:
      [JobStatus.pending.name, JobStatus.failed.name]
  neverProcessing : ∀ pool ∈ pools, ∀ job ∈ pool.memory.jobs, job.status ≠ JobStatus.processing.name
  error : ∀ pool ∈ pools, ∀ job ∈ pool.memory.jobs,
    job.error.isSome ↔ job.status = JobStatus.failed.name
  remains : pools.Pairwise fun earlier later => ∀ job, earlier.memory.job? id = some job →
    ∃ next, later.memory.job? id = some next ∧ Lasts job next

theorem job_lifeCycle {failUpsertsAfter : Option Nat} {failStagedInserts : Bool} {pools : List Pool}
    (run : (Pool.initial failUpsertsAfter failStagedInserts :: pools).IsChain (Step settings))
    (id : Uuid) : LifeCycle id (Pool.initial failUpsertsAfter failStagedInserts :: pools) := by
  obtain ⟨sound, moves⟩ := run_sound (initial_sound failUpsertsAfter failStagedInserts) run
  have fit : ∀ pool ∈ Pool.initial failUpsertsAfter failStagedInserts :: pools,
      ∀ job ∈ pool.memory.jobs, job.Fit := by
    intro pool member
    obtain ⟨_, soundPool⟩ := sound pool member
    exact soundPool.fit.jobs
  constructor
  case statuses =>
    have chain : (none :: pools.map (·.memory.job? id)).IsChain JobMove := moves id
    have alongTheRest := statuses_prefix chain
    exact alongTheRest
  case neverProcessing =>
    intro pool member job there same
    obtain ⟨status, notProcessing, isStatus⟩ := (fit pool member job there).status
    exact notProcessing (JobStatus.name_injective (isStatus.symm.trans same))
  case error => exact fun pool member job there => (fit pool member job there).error
  case remains =>
    have chain := (moves id).imp fun _ _ => JobMove.remains
    exact List.pairwise_map.mp (List.isChain_iff_pairwise.mp chain)

theorem job_lifeCycle_milk : ∃ pools last,
    (Pool.initial none false :: (pools ++ [last])).IsChain (Step Milk.settings) ∧
      last.memory.jobs = [Milk.failed] ∧
      LifeCycle Milk.failed.id (Pool.initial none false :: (pools ++ [last])) := by
  obtain ⟨pools, last, run, jobs, _⟩ := Milk.exists_run
  exact ⟨pools, last, run, jobs, job_lifeCycle run Milk.failed.id⟩

end Larder.Interleaving
