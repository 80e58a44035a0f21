import Larder.Store.Memory
import Larder.Store.Relational

namespace Larder

namespace Timestamp

def utc (t : Timestamp) : Timestamp :=
  { t with offset := 0 }

def IsWhole (t : Timestamp) : Prop :=
  t.nanos < 1000000000 ∧ 1000 ∣ t.nanos

theorem ofMicroseconds_microseconds {t : Timestamp} (whole : t.IsWhole) :
    Sql.ofMicroseconds (Sql.microseconds t) = t.utc := by
  obtain ⟨below, micros, same⟩ := whole
  have count : Sql.microseconds t = (t.seconds - Sql.origin) * 1000000 + micros := by
    unfold Sql.microseconds
    rw [same]
    have scaled : (t.seconds - Sql.origin) * 1000000000 + (1000 * micros : Nat) =
        ((t.seconds - Sql.origin) * 1000000 + micros) * 1000 := by omega
    rw [scaled, Int.mul_tdiv_cancel _ (by decide)]
  have seconds : Sql.origin + Sql.microseconds t / 1000000 = t.seconds := by omega
  have nanos : (Sql.microseconds t % 1000000).toNat * 1000 = t.nanos := by omega
  unfold Sql.ofMicroseconds
  rw [seconds, nanos]
  rfl

end Timestamp

section
variable (time : Timestamp → Timestamp)

def PantryItem.mapTimes (item : PantryItem) : PantryItem :=
  { item with
    expiresAt := item.expiresAt.map time, addedAt := time item.addedAt, updatedAt := time item.updatedAt }

def Job.mapTimes (job : Job) : Job :=
  { job with createdAt := time job.createdAt, updatedAt := time job.updatedAt }

def StagedItem.mapTimes (item : StagedItem) : StagedItem :=
  { item with createdAt := time item.createdAt, updatedAt := time item.updatedAt }

end

structure PantryItem.IsWhole (item : PantryItem) : Prop where
  expiresAt : ∀ t ∈ item.expiresAt, t.IsWhole
  addedAt : item.addedAt.IsWhole
  updatedAt : item.updatedAt.IsWhole

structure Job.IsWhole (job : Job) : Prop where
  createdAt : job.createdAt.IsWhole
  updatedAt : job.updatedAt.IsWhole

structure StagedItem.IsWhole (item : StagedItem) : Prop where
  createdAt : item.createdAt.IsWhole
  updatedAt : item.updatedAt.IsWhole

namespace Store

open Sql

theorem readPantryItem_pantryRow {item : PantryItem} (whole : item.IsWhole) :
    readPantryItem (pantryRow item) = .ok (item.mapTimes .utc) := by
  have read : readPantryItem (pantryRow item) =
      .ok (item.mapTimes fun t => ofMicroseconds (microseconds t)) := by
    cases item with
    | mk id ingredientId quantity unit expiresAt addedAt updatedAt => cases expiresAt <;> rfl
  have expiry : item.expiresAt.map (fun t => ofMicroseconds (microseconds t)) =
      item.expiresAt.map .utc :=
    Option.map_congr fun t there => Timestamp.ofMicroseconds_microseconds (whole.expiresAt t there)
  rw [read, PantryItem.mapTimes, PantryItem.mapTimes, expiry,
    Timestamp.ofMicroseconds_microseconds whole.addedAt,
    Timestamp.ofMicroseconds_microseconds whole.updatedAt]

theorem readJob_jobRow {job : Job} (whole : job.IsWhole) :
    readJob (jobRow job) = .ok (job.mapTimes .utc) := by
  have read : readJob (jobRow job) = .ok (job.mapTimes fun t => ofMicroseconds (microseconds t)) := by
    cases job with
    | mk id kind rawInput status error createdAt updatedAt => cases error <;> rfl
  rw [read, Job.mapTimes, Timestamp.ofMicroseconds_microseconds whole.createdAt,
    Timestamp.ofMicroseconds_microseconds whole.updatedAt]
  rfl

theorem readStagedItem_stagedRow {item : StagedItem} (whole : item.IsWhole) :
    readStagedItem (stagedRow item) = .ok (item.mapTimes .utc) := by
  have read : readStagedItem (stagedRow item) =
      .ok (item.mapTimes fun t => ofMicroseconds (microseconds t)) := by
    cases item with
    | mk id jobId ingredientId rawText quantity unit confidence needsReview createdAt updatedAt =>
        cases ingredientId <;> rfl
  rw [read, StagedItem.mapTimes, Timestamp.ofMicroseconds_microseconds whole.createdAt,
    Timestamp.ofMicroseconds_microseconds whole.updatedAt]
  rfl

theorem mapM_read {α : Type} {read : Row → Except BackendFault α} {row : α → Row} {view : α → α}
    {entries : List α} (back : ∀ x ∈ entries, read (row x) = .ok (view x)) :
    (entries.map row).mapM read = .ok (entries.map view) := by
  induction entries with
  | nil => rfl
  | cons x rest ih =>
      rw [List.forall_mem_cons] at back
      rw [List.map_cons, List.mapM_cons, back.1, ih back.2]
      rfl

theorem readFirst_read {α : Type} {read : Row → Except BackendFault α} {row : α → Row}
    {view : α → α} {entries : List α} (back : ∀ x ∈ entries, read (row x) = .ok (view x)) :
    readFirst read (entries.map row) = .ok (entries.head?.map view) := by
  cases entries with
  | nil => rfl
  | cons x rest =>
      rw [List.map_cons, readFirst, back x List.mem_cons_self]
      rfl

/-! ## Listings -/

theorem pantryOrder_pantryRow {a b : PantryItem} (wholeA : a.IsWhole) (wholeB : b.IsWhole) :
    Memory.pantryOrder a b = (pantryRow a).isBefore ["added_at", "item_id"] (pantryRow b) := by
  have order : (pantryRow a).isBefore ["added_at", "item_id"] (pantryRow b) =
      (((ofMicroseconds (microseconds a.addedAt)).compareInstant
        (ofMicroseconds (microseconds b.addedAt))).then ((compare a.id b.id).then .eq)).isLE := rfl
  rw [order, Timestamp.ofMicroseconds_microseconds wholeA.addedAt,
    Timestamp.ofMicroseconds_microseconds wholeB.addedAt, Ordering.then_eq]
  rfl

theorem stagedOrder_stagedRow (a b : StagedItem) :
    Memory.stagedOrder a b = (stagedRow a).isBefore ["raw_text", "staged_item_id"] (stagedRow b) := by
  have order : (stagedRow a).isBefore ["raw_text", "staged_item_id"] (stagedRow b) =
      ((compare a.rawText b.rawText).then ((compare a.id b.id).then .eq)).isLE := rfl
  rw [order, Ordering.then_eq]
  rfl

end Store

end Larder
