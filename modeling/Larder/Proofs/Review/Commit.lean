import Larder.Proofs.Review.Walk
import Larder.Proofs.Store.Jobs
import Larder.Proofs.Store.Listing

namespace Larder.Service
open Memory

variable (around : Surroundings)

theorem outcome_loadJob {s : Situation} {jobId : Uuid} {job : Job}
    (present : s.memory.job? jobId = some job) :
    (loadJob jobId).outcome around s = (.ok job, s.next around (.store (.getJob jobId))) := by
  unfold loadJob
  rw [Operation.outcome_bind, Operation.outcome_store]
  simp [Memory.perform, present, Except.mapError]

theorem outcome_requireStaged {s : Situation} {job : Job} (action : String)
    (staged : job.status = JobStatus.staged.name) :
    (requireStaged job action).outcome around s = (.ok (), s) := by
  unfold requireStaged
  rw [staged, JobStatus.parse_name]
  rfl

theorem outcome_transition {s : Situation} {jobId : Uuid} {source target : JobStatus} {job : Job}
    (error : Option String) (allowed : source.canBecome target = true)
    (present : s.memory.job? jobId = some job) (expected : job.status = source.name) :
    ∃ time s', (transition jobId source target error).outcome around s =
        (.ok (some (job.apply ⟨jobId, source.name, target.name, error, time⟩)), s') ∧
      s'.memory = (s.memory.transition ⟨jobId, source.name, target.name, error, time⟩).2 ∧
      published s'.past = published s.past := by
  let timed := s.next around .now
  let t : Transition := ⟨jobId, source.name, target.name, error, s.answer around .now⟩
  refine ⟨_, timed.next around (.store (.transition t)), ?_, rfl, by simp [timed, Effect.batches]⟩
  have applies : (s.memory.transition t).1 = .ok (some (job.apply t)) := by
    rcases transition_cases s.memory t with ⟨other, _, there, _, done, _⟩ | ⟨_, refused⟩
    · rw [done, Option.some.inj (there.symm.trans present)]
    · exact absurd expected (refused job present)
  unfold transition
  rw [allowed]
  simp only [Bool.not_true, Bool.false_eq_true, if_false]
  rw [Operation.outcome_bind, Operation.outcome_ask]
  dsimp only
  rw [Operation.outcome_store]
  change (Except.mapError _ (s.memory.transition t).1, _) = _
  rw [applies]
  rfl

theorem outcome_publish (ids : List Uuid) (s : Situation) :
    (publish ids).outcome around s = (.ok (), s.next around (.publish ids)) := by
  unfold publish
  rw [Operation.outcome_bind, Operation.outcome_ask]
  rfl

def batchOf (ids : List Uuid) : List (List Uuid) :=
  if ids.isEmpty then [] else [ids]

theorem outcome_publishWritten (ids : List Uuid) (s : Situation) :
    ∃ s', (publishWritten ids).outcome around s = (.ok (), s') ∧ s'.memory = s.memory ∧
      published s'.past = published s.past ++ batchOf ids := by
  unfold publishWritten batchOf
  cases ids with
  | nil => exact ⟨s, rfl, rfl, by simp⟩
  | cons id rest => exact ⟨_, outcome_publish around _ s, rfl, by simp [Effect.batches]⟩

theorem outcome_conclude {s : Situation} {jobId : Uuid} {job : Job} (written : Written)
    (present : s.memory.job? jobId = some job) (staged : job.status = JobStatus.staged.name) :
    ∃ s', published s'.past = published s.past ++ batchOf written.itemIds ∧
      match written.fault with
      | some fault =>
          (conclude jobId written).outcome around s = (.error fault, s') ∧ s'.memory = s.memory
      | none =>
          (conclude jobId written).outcome around s =
            (.ok ⟨jobId, .confirmed, written.itemIds, written.skipped⟩, s') ∧
          ∃ time, s'.memory = (s.memory.transition
            ⟨jobId, JobStatus.staged.name, JobStatus.confirmed.name, none, time⟩).2 := by
  obtain ⟨told, publishes, sameMemory, batch⟩ := outcome_publishWritten around written.itemIds s
  unfold conclude
  rw [Operation.outcome_bind, publishes]
  cases written.fault with
  | some fault => exact ⟨told, batch, rfl, sameMemory⟩
  | none =>
      rw [← sameMemory] at present
      obtain ⟨time, s', moves, memoryAfter, quiet⟩ :=
        outcome_transition around none (rfl : JobStatus.staged.canBecome .confirmed = true) present staged
      refine ⟨s', quiet.trans batch, ?_, time, by rw [memoryAfter, sameMemory]⟩
      dsimp only
      rw [Operation.outcome_bind, moves]
      rfl

theorem outcome_confirmJob {s : Situation} {jobId : Uuid} {job : Job} {overrides : List Override}
    (present : s.memory.job? jobId = some job) (staged : job.status = JobStatus.staged.name)
    (accepted : checkOverrides jobId ((s.memory.listStaged jobId).map (·.id)) [] 0 overrides = .ok ()) :
    ∃ written writes walked s', Walk overrides s.memory (s.memory.listStaged jobId) written writes walked ∧
      published s'.past = published s.past ++ batchOf written.itemIds ∧
      match written.fault with
      | some fault =>
          (confirmJob jobId overrides).outcome around s = (.error fault, s') ∧ s'.memory = walked
      | none =>
          (confirmJob jobId overrides).outcome around s =
            (.ok ⟨jobId, .confirmed, written.itemIds, written.skipped⟩, s') ∧
          ∃ time, s'.memory = (walked.transition
            ⟨jobId, JobStatus.staged.name, JobStatus.confirmed.name, none, time⟩).2 := by
  let listed := (s.next around (.store (.getJob jobId))).next around (.store (.listStaged jobId))
  have quietStart : published listed.past = published s.past := by simp [listed, Effect.batches]
  have started : (confirmJob jobId overrides).outcome around s =
      Operation.outcome around (ExceptT.lift (Service.writeAll overrides (s.memory.listStaged jobId)) >>=
        conclude jobId) listed := by
    unfold confirmJob
    rw [Operation.outcome_bind, outcome_loadJob around present]
    dsimp only
    rw [Operation.outcome_bind, outcome_requireStaged around "confirm" staged]
    dsimp only
    rw [Operation.outcome_bind, Operation.outcome_store]
    dsimp only [Memory.perform, Except.mapError, Situation.next_memory, Situation.memoryAfter]
    rw [Operation.outcome_bind, accepted, Operation.outcome_liftM]
  obtain ⟨writes, walks, quietWalk⟩ := run_writeAll around (distinct_of_accepted accepted) (s.memory.listStaged jobId) listed
  rw [Operation.outcome_bind, Operation.outcome_lift] at started
  dsimp only at started
  generalize (Service.writeAll overrides (s.memory.listStaged jobId)).run around listed = ran
    at started walks quietWalk
  obtain ⟨written, walked⟩ := ran
  -- The walk writes to the pantry only, so the job is still staged behind it.
  have stillPresent : walked.memory.job? jobId = some job := by
    rw [walks.memory, job?_writeAll]
    exact present
  obtain ⟨s', batch, ends⟩ := outcome_conclude around written stillPresent staged
  rw [← started] at ends
  exact ⟨written, writes, walked.memory, s', walks, by rw [batch, quietWalk, quietStart], ends⟩

/-! ## Without failing writes -/

/-- What a confirmation of a job with these items does to the store when no write fails. -/
structure Commits (before after : Memory) (job : Job) (overrides : List Override)
    (items : List StagedItem) (done : Confirmation) : Prop where
  listed : items.Perm (before.staged.filter (·.jobId == job.id))
  inOrder : items.Pairwise fun a b =>
    a.rawText < b.rawText ∨ a.rawText = b.rawText ∧ a.id.value.toNat ≤ b.id.value.toNat
  untouched : ∀ i, i ∉ (walk overrides items).map (·.ingredientId) → after.rowsOf i = before.rowsOf i
  replaced : ∀ i ∈ (walk overrides items).map (·.ingredientId), ∃ stock row,
    lastOf (walk overrides items) i = some stock ∧ after.rowsOf i = [row] ∧ row.stock = stock ∧
      row.expiresAt = none ∧ ∀ old ∈ before.rowsOf i, row.id = old.id ∧ row.addedAt = old.addedAt
  itemIds : List.Forall₂ (fun id stock => ∃ row, after.rowsOf stock.ingredientId = [row] ∧ row.id = id)
    done.itemIds (walk overrides items)
  skipped : done.skipped = leftOut overrides items
  accounted : ∃ kept dropped, (kept ++ dropped).Perm items ∧ done.skipped = dropped.map (·.id) ∧
    List.Forall₂ (fun id item => ∃ stock row, committed? overrides item = some stock ∧
      after.rowsOf stock.ingredientId = [row] ∧ row.id = id) done.itemIds kept
  confirmed : done.jobId = job.id ∧ done.status = .confirmed ∧ ∃ time, ∀ id, after.job? id =
    if id = job.id then
      some { job with status := JobStatus.confirmed.name, error := none, updatedAt := time }
    else before.job? id
  staged : after.staged = before.staged

theorem forall₂_walk {α : Type} {R : α → Stock → Prop} {overrides : List Override}
    {items : List StagedItem} {entries : List α}
    (related : List.Forall₂ R entries (walk overrides items)) :
    List.Forall₂ (fun entry item => ∃ stock, committed? overrides item = some stock ∧ R entry stock)
      entries (items.filter fun item => (committed? overrides item).isSome) := by
  induction items generalizing entries with
  | nil =>
      have none : entries = [] := List.forall₂_nil_right_iff.mp related
      rw [none]
      exact .nil
  | cons item rest ih =>
      rw [walk_cons] at related
      cases committed : committed? overrides item with
      | none =>
          rw [committed] at related
          rw [List.filter_cons_of_neg (by simp [committed])]
          exact ih related
      | some stock =>
          rw [committed] at related
          rw [List.filter_cons_of_pos (by simp [committed])]
          obtain ⟨entry, later, first, others, rfl⟩ := List.forall₂_cons_right_iff.mp related
          exact .cons ⟨stock, committed, first⟩ (ih others)

theorem mem_of_lastOf {stocks : List Stock} {i : Uuid} {stock : Stock}
    (last : lastOf stocks i = some stock) : stock ∈ stocks := by
  unfold lastOf at last
  rw [List.findRev?_eq_find?_reverse] at last
  exact List.mem_reverse.mp (List.mem_of_find?_eq_some last)

theorem ingredientId_of_lastOf {stocks : List Stock} {i : Uuid} {stock : Stock}
    (last : lastOf stocks i = some stock) : stock.ingredientId = i := by
  unfold lastOf at last
  rw [List.findRev?_eq_find?_reverse] at last
  simpa using List.find?_some last

theorem exists_lastOf {stocks : List Stock} {i : Uuid} (named : i ∈ stocks.map (·.ingredientId)) :
    ∃ stock, lastOf stocks i = some stock := by
  obtain ⟨stock, member, same⟩ := List.mem_map.mp named
  unfold lastOf
  rw [List.findRev?_eq_find?_reverse]
  apply Option.isSome_iff_exists.mp
  rw [List.find?_isSome]
  exact ⟨stock, List.mem_reverse.mpr member, by simp [same]⟩

theorem expiresAt_of_mem_walk {overrides : List Override} {items : List StagedItem} {stock : Stock}
    (member : stock ∈ walk overrides items) : stock.expiresAt = none := by
  obtain ⟨item, _, committed⟩ := List.mem_filterMap.mp member
  obtain ⟨edit, same⟩ := exists_committedWith overrides item
  obtain ⟨ingredientId, _, rfl⟩ := Option.map_eq_some_iff.mp (same.symm.trans committed)
  rfl

theorem outcome_confirmJob_commits {s : Situation} {jobId : Uuid} {job : Job} {overrides : List Override}
    (unique : s.memory.OnePerIngredient) (present : s.memory.job? jobId = some job)
    (staged : job.status = JobStatus.staged.name)
    (accepted : checkOverrides jobId ((s.memory.listStaged jobId).map (·.id)) [] 0 overrides = .ok ())
    (unlimited : s.memory.failUpsertsAfter = none) :
    ∃ done s', (confirmJob jobId overrides).outcome around s = (.ok done, s') ∧
      Commits s.memory s'.memory job overrides (s.memory.listStaged jobId) done ∧
      published s'.past = published s.past ++ batchOf done.itemIds := by
  have sameId : job.id = jobId := job?_id present
  obtain ⟨written, writes, walked, s', walks, batch, ends⟩ :=
    outcome_confirmJob around present staged accepted
  have within (count : Nat) : s.memory.Admits count := by
    intro limit given
    rw [unlimited] at given
    cases given
  have noFault : written.fault = none := walks.fault_eq_none_iff.mpr (within _)
  rw [noFault] at ends
  obtain ⟨succeeds, time, memoryAfter⟩ := ends
  have stocks : writes.map (·.stock) = walk overrides (s.memory.listStaged jobId) := by
    rw [walks.stocks, tried, unlimited]
  have named : writes.map (·.ingredientId) =
      (walk overrides (s.memory.listStaged jobId)).map (·.ingredientId) := by
    rw [← stocks, List.map_map]
    rfl
  subst sameId
  have rows (i : Uuid) : s'.memory.rowsOf i = (s.memory.writeAll writes).rowsOf i := by
    rw [memoryAfter, walks.memory, Memory.rowsOf, transition_pantry]
    rfl
  have all : writes.take written.itemIds.length = writes := by
    apply List.take_of_length_le
    simp [walks.length, noFault]
  have ids : List.Forall₂ (fun id stock => ∃ row, s'.memory.rowsOf stock.ingredientId = [row] ∧ row.id = id)
      written.itemIds (walk overrides (s.memory.listStaged job.id)) := by
    have inWalk := walks.ids unique
    rw [all] at inWalk
    rw [← stocks, List.forall₂_map_right_iff]
    apply inWalk.imp
    rintro id w ⟨row, there, sameId⟩
    refine ⟨row, ?_, sameId⟩
    rw [rows, ← walks.memory]
    exact there
  refine ⟨_, s', succeeds, ?_, batch⟩
  constructor
  case listed => exact listStaged_perm _ _
  case inOrder => exact listStaged_sorted _ _
  case untouched =>
    intro i unnamed
    rw [rows]
    exact rowsOf_writeAll_of_not_mem (named ▸ unnamed)
  case replaced =>
    intro i member
    obtain ⟨stock, last⟩ := exists_lastOf member
    obtain ⟨row, there, sameStock, kept⟩ :=
      rowsOf_writeAll unique (within writes.length) (stocks ▸ last)
    have never : stock.expiresAt = none := expiresAt_of_mem_walk (mem_of_lastOf last)
    exact ⟨stock, row, last, (rows i).trans there, sameStock,
      (congrArg Stock.expiresAt sameStock).trans never, kept⟩
  case itemIds => exact ids
  case skipped => exact walks.skipped noFault
  case accounted =>
    let items := s.memory.listStaged job.id
    let isKept := fun item => (committed? overrides item).isSome
    refine ⟨items.filter isKept, items.filter (!isKept ·), List.filter_append_perm isKept items, ?_, ?_⟩
    · rw [walks.skipped noFault, leftOut]
      simp only [isKept, Option.not_isSome]
      rfl
    · apply (forall₂_walk ids).imp
      rintro _ _ ⟨stock, committed, row, there, sameId⟩
      exact ⟨stock, row, committed, there, sameId⟩
  case confirmed =>
    refine ⟨rfl, rfl, time, fun id => ?_⟩
    have stillPresent : walked.job? job.id = some job := by rw [walks.memory, job?_writeAll, present]
    rw [memoryAfter, job?_transition stillPresent staged, walks.memory, job?_writeAll]
    rfl
  case staged => rw [memoryAfter, transition_staged, walks.memory, writeAll_staged]

/-- Confirming a staged job writes for each ingredient the last stock of its walk, into the row that the
ingredient has, and touches no other ingredient. -/
theorem confirmJob_commits {s : Situation} {jobId : Uuid} {job : Job} {overrides : List Override}
    (unique : s.memory.OnePerIngredient) (present : s.memory.job? jobId = some job)
    (staged : job.status = JobStatus.staged.name)
    (accepted : checkOverrides jobId ((s.memory.listStaged jobId).map (·.id)) [] 0 overrides = .ok ())
    (unlimited : s.memory.failUpsertsAfter = none) :
    ∃ items done s', (confirmJob jobId overrides).outcome around s = (.ok done, s') ∧
      Commits s.memory s'.memory job overrides items done ∧
      published s'.past = published s.past ++ batchOf done.itemIds := by
  obtain ⟨done, s', confirms, commits, batch⟩ :=
    outcome_confirmJob_commits around unique present staged accepted unlimited
  exact ⟨s.memory.listStaged jobId, done, s', confirms, commits, batch⟩

/-! ## A kitchen

Two items name flour, which has a row; sugar gets its ingredient by an override; salt has none. -/

namespace Kitchen

def flour : Uuid := ⟨1⟩
def sugar : Uuid := ⟨2⟩
def milk : Uuid := ⟨3⟩

def noon : Timestamp := .ofSeconds 43200

def baking : Job :=
  ⟨⟨10⟩, JobKind.textBlob.name, "flour, sugar and salt", JobStatus.staged.name, none, noon, noon⟩

def item (id : Uuid) (ingredientId : Option Uuid) (rawText : String) (quantity : Float)
    (unit : String) : StagedItem :=
  ⟨id, baking.id, ingredientId, rawText, quantity, unit, 1.0, ingredientId.isNone, noon, noon⟩

def memory : Memory where
  pantry := [
    ⟨⟨31⟩, flour, 1.0, "kg", some noon, noon, noon⟩,
    ⟨⟨32⟩, milk, 2.0, "l", none, noon, noon⟩]
  jobs := [baking]
  staged := [
    item ⟨24⟩ none "salt" 1.0 "pinch",
    item ⟨23⟩ none "sugar" 1.0 "kg",
    item ⟨22⟩ (some flour) "500 g of flour" 500.0 "g",
    item ⟨21⟩ (some flour) "2 cups of flour" 2.0 "cup"]
  upserts := 0
  failUpsertsAfter := none
  failStagedInserts := false

def overrides : List Override := [⟨⟨23⟩, ⟨some sugar, some 3.0, some " lb "⟩⟩]

def surroundings : Surroundings := fun past effect =>
  match effect with
  | .store call => (memory.perform call).1
  | .extract _ _ | .resolve _ _ => .timedOut
  | .publish _ => .error (.storage "publisher failed")
  | .process _ _ => ()
  | .now => noon
  | .newId _ => ⟨100 + BitVec.ofNat 128 past.length⟩

theorem overrides_accepted :
    checkOverrides baking.id ((memory.listStaged baking.id).map (·.id)) [] 0 overrides = .ok () := by
  rw [checkOverrides_eq_ok_iff]
  refine ⟨?_, by decide⟩
  intro given member
  obtain rfl := List.mem_singleton.mp member
  refine ⟨by decide, List.mem_map.mpr ⟨item ⟨23⟩ none "sugar" 1.0 "kg", ?_, rfl⟩, List.not_mem_nil⟩
  exact mem_listStaged.mpr ⟨by simp [memory], rfl⟩

end Kitchen

open Kitchen in
theorem confirmJob_commits_kitchen :
    memory.OnePerIngredient ∧ memory.job? baking.id = some baking ∧
      baking.status = JobStatus.staged.name ∧
      checkOverrides baking.id ((memory.listStaged baking.id).map (·.id)) [] 0 overrides = .ok () ∧
      memory.failUpsertsAfter = none ∧
      ∃ items done s',
        (confirmJob baking.id overrides).outcome surroundings ⟨memory, []⟩ = (.ok done, s') ∧
        Commits memory s'.memory baking overrides items done ∧
        published s'.past = published [] ++ batchOf done.itemIds := by
  have unique : memory.OnePerIngredient := by
    unfold OnePerIngredient
    decide
  have present : memory.job? baking.id = some baking := rfl
  exact ⟨unique, present, rfl, overrides_accepted, rfl,
    confirmJob_commits surroundings (s := ⟨memory, []⟩) unique present rfl overrides_accepted rfl⟩

end Larder.Service
