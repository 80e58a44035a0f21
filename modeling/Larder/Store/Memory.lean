import Larder.Store.Call

/-!
A store held in memory.

It keeps the rules of the tables it stands for: one pantry row for each ingredient, staged items only
of jobs that exist, and a transition only from the status it names. It can be told to fail: every
pantry write after the first few, or every insertion of a staged item.
-/

namespace Larder

/-- The rows of a store in the order they were put there, and how it is told to fail. -/
structure Memory where
  pantry : List PantryItem
  jobs : List Job
  staged : List StagedItem
  upserts : Nat
  failUpsertsAfter : Option Nat
  failStagedInserts : Bool
deriving Inhabited

namespace Memory

def empty : Memory := ⟨[], [], [], 0, none, false⟩

def job? (m : Memory) (id : Uuid) : Option Job :=
  m.jobs.find? (·.id == id)

def replaceFirst {α : Type} (picks : α → Bool) (change : α → α) : List α → List α
  | [] => []
  | entry :: rest =>
      if picks entry then change entry :: rest else entry :: replaceFirst picks change rest

/-- Puts a job there without any check, in place of one with its id. -/
def putJob (m : Memory) (job : Job) : Memory :=
  if (m.job? job.id).isSome then
    { m with jobs := replaceFirst (·.id == job.id) (fun _ => job) m.jobs }
  else { m with jobs := m.jobs ++ [job] }

def putStaged (m : Memory) (item : StagedItem) : Memory :=
  { m with staged := m.staged ++ [item] }

def upsertFails (m : Memory) : Bool :=
  match m.failUpsertsAfter with
  | some limit => limit < m.upserts + 1
  | none => false

def upsertItem (m : Memory) (write : PantryWrite) : Except StoreError PantryItem × Memory :=
  let counted := { m with upserts := m.upserts + 1 }
  if m.upsertFails then (.error (.backend (.injected "pantry upsert")), counted)
  else
    match m.pantry.find? (·.ingredientId == write.ingredientId) with
    | some item =>
        (.ok (item.replaced write),
          { counted with
            pantry := replaceFirst (·.ingredientId == write.ingredientId) (·.replaced write)
              m.pantry })
    | none =>
        (.ok (.ofWrite write), { counted with pantry := m.pantry ++ [.ofWrite write] })

def deleteItem (m : Memory) (id : Uuid) : Except StoreError Unit × Memory :=
  if m.pantry.any (·.id == id) then
    (.ok (), { m with pantry := m.pantry.filter (·.id != id) })
  else (.error (.noPantryItem id), m)

def deleteAllItems (m : Memory) : Except StoreError Nat × Memory :=
  (.ok m.pantry.length, { m with pantry := [] })

def pantryOrder (a b : PantryItem) : Bool :=
  ((a.addedAt.compareInstant b.addedAt).then (compare a.id b.id)).isLE

def listItems (m : Memory) : List PantryItem :=
  m.pantry.mergeSort pantryOrder

def insertJob (m : Memory) (job : Job) : Except StoreError Unit × Memory :=
  if (m.job? job.id).isSome then (.error (.jobExists job.id), m)
  else (.ok (), { m with jobs := m.jobs ++ [job] })

def transition (m : Memory) (t : Transition) : Except StoreError (Option Job) × Memory :=
  match m.job? t.jobId with
  | some job =>
      if job.status == t.source then
        (.ok (some (job.apply t)),
          { m with jobs := replaceFirst (·.id == t.jobId) (·.apply t) m.jobs })
      else (.ok none, m)
  | none => (.ok none, m)

def insertStaged (m : Memory) (item : StagedItem) : Except StoreError Unit × Memory :=
  if m.failStagedInserts then (.error (.backend (.injected "staged item insert")), m)
  else if (m.job? item.jobId).isNone then (.error (.noSuchJob item.jobId), m)
  else (.ok (), m.putStaged item)

def stagedOrder (a b : StagedItem) : Bool :=
  ((compare a.rawText b.rawText).then (compare a.id b.id)).isLE

def listStaged (m : Memory) (jobId : Uuid) : List StagedItem :=
  (m.staged.filter (·.jobId == jobId)).mergeSort stagedOrder

def sameStaged (changed stored : StagedItem) : Bool :=
  stored.id == changed.id && stored.jobId == changed.jobId

def editedRow (changed stored : StagedItem) : StagedItem :=
  { stored with
    ingredientId := changed.ingredientId
    quantity := changed.quantity
    unit := changed.unit
    needsReview := changed.needsReview
    updatedAt := changed.updatedAt }

def updateStaged (m : Memory) (item : StagedItem) : Except StoreError StagedItem × Memory :=
  match m.staged.find? (sameStaged item) with
  | some stored =>
      (.ok (editedRow item stored),
        { m with staged := replaceFirst (sameStaged item) (editedRow item) m.staged })
  | none => (.error (.noStagedItem item.id), m)

def perform (m : Memory) : (call : StoreCall) → call.Answer × Memory
  | .upsertItem write => m.upsertItem write
  | .deleteItem id => m.deleteItem id
  | .deleteAllItems => m.deleteAllItems
  | .listItems => (.ok m.listItems, m)
  | .insertJob job => m.insertJob job
  | .getJob id => (.ok (m.job? id), m)
  | .transition change => m.transition change
  | .insertStaged item => m.insertStaged item
  | .listStaged jobId => (.ok (m.listStaged jobId), m)
  | .updateStaged item => m.updateStaged item

end Memory

end Larder
