import Larder.Proofs.Decimal.Order
import Larder.Proofs.Text.Trimming
import Larder.Store.Memory
import Larder.Store.Relational

namespace Larder

theorem JobStatus.name_of_parse {name : String} {status : JobStatus}
    (parsed : JobStatus.parse name = .ok status) : status.name = name := by
  unfold JobStatus.parse JobStatus.ofName? at parsed
  cases found : JobStatus.all.find? (·.name == name) with
  | none =>
      rw [found] at parsed
      cases parsed
  | some other =>
      rw [found] at parsed
      cases parsed
      simpa using List.find?_some found

namespace Sql

theorem Table.refused_eq_none_iff {table : Table} {rows : List Row} {test : Column → Row → Bool} :
    table.refused rows test = none ↔ ∀ row ∈ rows, table.columns.all (test · row) = true := by
  unfold refused
  rw [Option.map_eq_none_iff, List.find?_eq_none]
  simp only [Bool.not_eq_true', Bool.not_eq_false, List.all_eq_true]
  exact ⟨fun all row there column member => all column member row there,
    fun all column member row there => all row there column member⟩

theorem Table.breach?_eq_none_iff {table : Table} {database : Database} {rows written : List Row} :
    table.breach? database rows written = none ↔
      (∀ row ∈ written, table.columns.all (·.isFilled row) = true) ∧
      (∀ row ∈ written, table.columns.all (·.isBounded row) = true) ∧
      (∀ constraint ∈ table.distinctions, areDistinct constraint.2 rows = true) ∧
      ∀ row ∈ written, table.columns.all (·.isOwned database row) = true := by
  have distinct : table.distinctions.find? (fun constraint => !areDistinct constraint.2 rows) = none ↔
      ∀ constraint ∈ table.distinctions, areDistinct constraint.2 rows = true := by
    simp [List.find?_eq_none]
  unfold breach? unfitness?
  simp only [Option.or_eq_none_iff, Option.map_eq_none_iff, refused_eq_none_iff, and_assoc]
  rw [distinct]

theorem areDistinct_map_iff {α : Type} {row : α → Row} {key : α → Uuid} {column : String}
    (value : ∀ x, (row x).value column = .uuid (key x)) {entries : List α} :
    areDistinct column (entries.map row) = true ↔ (entries.map key).Nodup := by
  induction entries with
  | nil => simp [areDistinct]
  | cons x rest ih =>
      have alone : (rest.map row).any
          (fun other => (other.value column).equals ((row x).value column)) = false ↔
            key x ∉ rest.map key := by
        rw [List.any_map, List.any_eq_false]
        simp [value, Value.equals]
      rw [List.map_cons, List.map_cons, List.nodup_cons, areDistinct, Bool.and_eq_true, Bool.not_eq_true',
        alone, ih]

end Sql

def statusBound : Sql.Bound :=
  .oneOf (JobStatus.all.map JobStatus.name)

def PantryItem.IsBounded (item : PantryItem) : Prop :=
  Sql.Bound.notNegative.admits (.double item.quantity) = true

def Job.IsBounded (job : Job) : Prop :=
  statusBound.admits (.text job.status) = true

def StagedItem.IsBounded (item : StagedItem) : Prop :=
  Sql.Bound.notNegative.admits (.double item.quantity) = true ∧
    Sql.Bound.fraction.admits (.double item.confidence) = true

namespace Memory

structure Consistent (m : Memory) : Prop where
  ingredientIds : (m.pantry.map (·.ingredientId)).Nodup
  itemIds : (m.pantry.map (·.id)).Nodup
  jobIds : (m.jobs.map (·.id)).Nodup
  stagedIds : (m.staged.map (·.id)).Nodup
  owners : ∀ item ∈ m.staged, ∃ job ∈ m.jobs, job.id = item.jobId
  pantryQuantities : ∀ row ∈ m.pantry, row.quantity.isFinite = true ∧ 0.0 ≤ row.quantity
  stagedQuantities : ∀ item ∈ m.staged, item.quantity.isFinite = true ∧ 0.0 ≤ item.quantity
  confidences : ∀ item ∈ m.staged, 0.0 ≤ item.confidence ∧ item.confidence ≤ 1.0
  pantryUnits : ∀ row ∈ m.pantry, Text.IsTrimmed row.unit ∧ row.unit ≠ ""
  stagedUnits : ∀ item ∈ m.staged, Text.IsTrimmed item.unit ∧ item.unit ≠ ""
  kinds : ∀ job ∈ m.jobs, ∃ kind, JobKind.parse job.kind = .ok kind
  statuses : ∀ job ∈ m.jobs, ∃ status, JobStatus.parse job.status = .ok status
  unresolved : ∀ item ∈ m.staged, item.ingredientId = none → item.needsReview = true

open Store Sql

structure Throughout (pantry : PantryItem → Prop) (jobs : Job → Prop) (staged : StagedItem → Prop)
    (m : Memory) : Prop where
  pantry : ∀ item ∈ m.pantry, pantry item
  jobs : ∀ job ∈ m.jobs, jobs job
  staged : ∀ item ∈ m.staged, staged item

structure KeepsRules (m : Memory) : Prop where
  itemIds : (m.pantry.map (·.id)).Nodup
  ingredientIds : (m.pantry.map (·.ingredientId)).Nodup
  jobIds : (m.jobs.map (·.id)).Nodup
  stagedIds : (m.staged.map (·.id)).Nodup
  bounded : m.Throughout PantryItem.IsBounded Job.IsBounded StagedItem.IsBounded
  owners : ∀ item ∈ m.staged, item.jobId ∈ m.jobs.map (·.id)

def database (m : Memory) : Database := fun name =>
  if name == pantryItems.name then m.pantry.map pantryRow
  else if name == ingestionJobs.name then m.jobs.map jobRow
  else if name == stagedItems.name then m.staged.map stagedRow
  else []

structure Holds (database : Database) (m : Memory) : Prop where
  pantry : database pantryItems.name = m.pantry.map pantryRow
  jobs : database ingestionJobs.name = m.jobs.map jobRow
  staged : database stagedItems.name = m.staged.map stagedRow

variable {m : Memory}

theorem holds_database (m : Memory) : Holds m.database m := ⟨rfl, rfl, rfl⟩

theorem pantryItems_breach?_iff {database : Database} {items written : List PantryItem} :
    pantryItems.breach? database (items.map pantryRow) (written.map pantryRow) = none ↔
      (items.map (·.id)).Nodup ∧ (items.map (·.ingredientId)).Nodup ∧
        ∀ item ∈ written, item.IsBounded := by
  have keys : pantryItems.distinctions =
      [("pantry_items_pkey", "item_id"), ("pantry_items_ingredient_unique", "ingredient_id")] := rfl
  have filled (item : PantryItem) : pantryItems.columns.all (·.isFilled (pantryRow item)) = true := rfl
  have owned (item : PantryItem) :
      pantryItems.columns.all (·.isOwned database (pantryRow item)) = true := rfl
  have bounded (item : PantryItem) :
      pantryItems.columns.all (·.isBounded (pantryRow item)) = true ↔ item.IsBounded := by
    have asked : pantryItems.columns.all (·.isBounded (pantryRow item)) =
        (Bound.notNegative.admits (.double item.quantity) && true) := rfl
    rw [asked, Bool.and_true, PantryItem.IsBounded]
  rw [Table.breach?_eq_none_iff, keys, List.forall_mem_cons, List.forall_mem_singleton,
    areDistinct_map_iff (fun _ => rfl), areDistinct_map_iff (fun _ => rfl)]
  simp only [List.forall_mem_map, filled, bounded, owned, implies_true, and_true, true_and]
  tauto

theorem ingestionJobs_breach?_iff {database : Database} {jobs written : List Job} :
    ingestionJobs.breach? database (jobs.map jobRow) (written.map jobRow) = none ↔
      (jobs.map (·.id)).Nodup ∧ ∀ job ∈ written, job.IsBounded := by
  have keys : ingestionJobs.distinctions = [("ingestion_jobs_pkey", "job_id")] := rfl
  have filled (job : Job) : ingestionJobs.columns.all (·.isFilled (jobRow job)) = true := rfl
  have owned (job : Job) : ingestionJobs.columns.all (·.isOwned database (jobRow job)) = true := rfl
  have bounded (job : Job) :
      ingestionJobs.columns.all (·.isBounded (jobRow job)) = true ↔ job.IsBounded := by
    have asked : ingestionJobs.columns.all (·.isBounded (jobRow job)) =
        (statusBound.admits (.text job.status) && true) := rfl
    rw [asked, Bool.and_true, Job.IsBounded]
  rw [Table.breach?_eq_none_iff, keys, List.forall_mem_singleton, areDistinct_map_iff (fun _ => rfl)]
  simp only [List.forall_mem_map, filled, bounded, owned, implies_true, and_true, true_and]
  tauto

theorem stagedItems_breach?_iff {database : Database} {jobs : List Job} {items written : List StagedItem}
    (owners : database ingestionJobs.name = jobs.map jobRow) :
    stagedItems.breach? database (items.map stagedRow) (written.map stagedRow) = none ↔
      (items.map (·.id)).Nodup ∧ (∀ item ∈ written, item.IsBounded) ∧
      ∀ item ∈ written, item.jobId ∈ jobs.map (·.id) := by
  have keys : stagedItems.distinctions = [("staged_items_pkey", "staged_item_id")] := rfl
  have filled (item : StagedItem) : stagedItems.columns.all (·.isFilled (stagedRow item)) = true := rfl
  have bounded (item : StagedItem) :
      stagedItems.columns.all (·.isBounded (stagedRow item)) = true ↔ item.IsBounded := by
    have asked : stagedItems.columns.all (·.isBounded (stagedRow item)) =
        (Bound.notNegative.admits (.double item.quantity) &&
          (Bound.fraction.admits (.double item.confidence) && true)) := rfl
    rw [asked, Bool.and_true, Bool.and_eq_true, StagedItem.IsBounded]
  have owned (item : StagedItem) :
      stagedItems.columns.all (·.isOwned database (stagedRow item)) = true ↔
        item.jobId ∈ jobs.map (·.id) := by
    have asked : stagedItems.columns.all (·.isOwned database (stagedRow item)) =
        (((database ingestionJobs.name).any fun owner =>
          (owner.value "job_id").equals (.uuid item.jobId)) && true) := rfl
    rw [asked, owners, Bool.and_true, List.any_map, List.any_eq_true, List.mem_map]
    apply exists_congr
    intro job
    exact and_congr_right fun _ => beq_iff_eq
  rw [Table.breach?_eq_none_iff, keys, List.forall_mem_singleton, areDistinct_map_iff (fun _ => rfl)]
  simp only [List.forall_mem_map, filled, bounded, owned, implies_true, true_and]
  tauto

theorem Holds.breach?_eq_none_iff {database : Database} (holds : Holds database m) : (∀ table ∈ tables,
    table.breach? database (database table.name) (database table.name) = none) ↔ m.KeepsRules := by
  unfold tables
  rw [List.forall_mem_cons, List.forall_mem_cons, List.forall_mem_singleton, holds.pantry, holds.staged,
    holds.jobs, pantryItems_breach?_iff, ingestionJobs_breach?_iff, stagedItems_breach?_iff holds.jobs]
  constructor
  · rintro ⟨⟨itemIds, ingredientIds, items⟩, ⟨jobIds, statuses⟩, stagedIds, values, owners⟩
    exact ⟨itemIds, ingredientIds, jobIds, stagedIds, ⟨items, statuses, values⟩, owners⟩
  · rintro ⟨itemIds, ingredientIds, jobIds, stagedIds, ⟨items, statuses, values⟩, owners⟩
    exact ⟨⟨itemIds, ingredientIds, items⟩, ⟨jobIds, statuses⟩, stagedIds, values, owners⟩

theorem Consistent.keepsRules (consistent : m.Consistent) : m.KeepsRules where
  itemIds := consistent.itemIds
  ingredientIds := consistent.ingredientIds
  jobIds := consistent.jobIds
  stagedIds := consistent.stagedIds
  bounded := by
    constructor
    case pantry =>
      intro item member
      simp [PantryItem.IsBounded, Bound.admits, (consistent.pantryQuantities item member).2]
    case jobs =>
      intro job member
      obtain ⟨status, parsed⟩ := consistent.statuses job member
      have known : job.status ∈ JobStatus.all.map JobStatus.name :=
        List.mem_map.mpr ⟨status, by cases status <;> decide, JobStatus.name_of_parse parsed⟩
      simp [Job.IsBounded, statusBound, Bound.admits, known]
    case staged =>
      intro item member
      simp [StagedItem.IsBounded, Bound.admits, (consistent.stagedQuantities item member).2,
        consistent.confidences item member]
  owners item member := List.mem_map.mpr (consistent.owners item member)

theorem breach?_eq_none (consistent : m.Consistent) :
    ∀ table ∈ tables,
      table.breach? m.database (m.database table.name) (m.database table.name) = none :=
  (holds_database m).breach?_eq_none_iff.mpr consistent.keepsRules

end Memory

end Larder
