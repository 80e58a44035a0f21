import Larder.Service.Intake

/-!
Reviewing a staged job: looking at it, editing its items, and committing them to the pantry.

A confirmation writes the items in the order of their listing, each with its override if there is
one, and skips items without an ingredient. A failed write stops it: the rows already written stay,
and the job stays staged.
-/

namespace Larder

structure JobView where
  id : Uuid
  kind : JobKind
  status : JobStatus
  rawInput : String
  error : Option String
  createdAt : Timestamp
  updatedAt : Timestamp
  items : List StagedItem
deriving Inhabited

/-- What a confirmation did: the pantry rows written, in the order of the staged items, and the staged
items without an ingredient. -/
structure Confirmation where
  jobId : Uuid
  status : JobStatus
  itemIds : List Uuid
  skipped : List Uuid
deriving DecidableEq, Inhabited

namespace Service

def loadJob (jobId : Uuid) : Operation Job := do
  match ← Operation.store (.getJob jobId) with
  | some job => return job
  | none => throw (.notFound ("Job " ++ toString jobId ++ "."))

def getJob (jobId : Uuid) : Operation JobView := do
  let job ← loadJob jobId
  let items ← Operation.store (.listStaged jobId)
  let kind ← Operation.parseStored (JobKind.parse job.kind)
  let status ← Operation.parseStored (JobStatus.parse job.status)
  return ⟨job.id, kind, status, job.rawInput, job.error, job.createdAt, job.updatedAt, items⟩

def requireStaged (job : Job) (action : String) : Operation Unit := do
  let status ← Operation.parseStored (JobStatus.parse job.status)
  if status ≠ .staged then
    throw (.invalidState ("Job " ++ toString job.id ++ " must be staged to " ++ action ++
      "; current status is " ++ status.name ++ "."))

/-- A staged item with an edit. With an ingredient it counts as reviewed. -/
def editedItem (item : StagedItem) (edit : Edit) (now : Timestamp) : StagedItem :=
  let values := (Commitment.ofItem item).edited edit
  { item with
    ingredientId := values.ingredientId
    quantity := values.quantity
    unit := values.unit
    needsReview := values.ingredientId.isNone
    updatedAt := now }

def editItem (jobId stagedItemId : Uuid) (edit : Edit) : Operation StagedItem := do
  Operation.check edit.validate
  let job ← loadJob jobId
  requireStaged job "edit"
  let items ← Operation.store (.listStaged jobId)
  match items.find? (·.id == stagedItemId) with
  | none =>
      throw (.notFound ("Staged item " ++ toString stagedItemId ++ " is not part of job " ++
        toString jobId ++ "."))
  | some item =>
      let now ← Operation.ask .now
      Operation.store (.updateStaged (editedItem item edit now))

def overrideOf (overrides : List Override) (stagedItemId : Uuid) : Option Edit :=
  (overrides.find? (·.stagedItemId == stagedItemId)).map (·.edit)

/-- Checks overrides in order: each one's values, then that it refers to one of the staged items, then
that no earlier one refers to the same. -/
def checkOverrides (jobId : Uuid) (known seen : List Uuid) (index : Nat) :
    List Override → Except ServiceError Unit
  | [] => .ok ()
  | given :: rest =>
      match given.edit.validate with
      | .error fault =>
          .error (.invalidRequest ("overrides[" ++ toString index ++ "]." ++ fault.message))
      | .ok () =>
          if !known.contains given.stagedItemId then
            .error (.invalidRequest ("Override references staged item " ++
              toString given.stagedItemId ++ ", which is not part of job " ++ toString jobId ++ "."))
          else if seen.contains given.stagedItemId then
            .error (.invalidRequest ("Staged item " ++ toString given.stagedItemId ++
              " is overridden more than once."))
          else checkOverrides jobId known (given.stagedItemId :: seen) (index + 1) rest

/-- Writes values for an ingredient; the only way into the pantry. -/
def writeItem (ingredientId : Uuid) (quantity : Float) (unit : String)
    (expiresAt : Option Timestamp) : Operation PantryItem := do
  let now ← Operation.ask .now
  let id ← Operation.ask (.newId .pantryItem)
  Operation.store (.upsertItem ⟨id, ingredientId, quantity, Text.trim unit, expiresAt, now⟩)

/-- Tells the publisher which rows changed. A publisher that fails changes nothing. -/
def publish (ids : List Uuid) : Operation Unit := do
  let _ ← Operation.ask (.publish ids)
  return ()

/-- What came of writing the items of a job: the rows written and the items skipped, in order, and the
error that stopped it, if one did. -/
structure Written where
  itemIds : List Uuid
  skipped : List Uuid
  fault : Option ServiceError
deriving Inhabited

def writeAll (overrides : List Override) : List StagedItem → Program Written
  | [] => return ⟨[], [], none⟩
  | item :: rest => do
      let values := (Commitment.ofItem item).apply (overrideOf overrides item.id)
      match values.ingredientId with
      | none =>
          let written ← writeAll overrides rest
          return { written with skipped := item.id :: written.skipped }
      | some ingredientId =>
          match ← (writeItem ingredientId values.quantity values.unit none).run with
          | .error fault => return ⟨[], [], some fault⟩
          | .ok row =>
              let written ← writeAll overrides rest
              return { written with itemIds := row.id :: written.itemIds }

def publishWritten (ids : List Uuid) : Operation Unit :=
  if ids.isEmpty then return () else publish ids

/-- Ends a confirmation after its writes: what was written is published, and if all writes went through
the job becomes confirmed. -/
def conclude (jobId : Uuid) (written : Written) : Operation Confirmation := do
  publishWritten written.itemIds
  match written.fault with
  | some fault => throw fault
  | none =>
      match ← transition jobId .staged .confirmed none with
      | some _ => return ⟨jobId, .confirmed, written.itemIds, written.skipped⟩
      | none => throw (.conflict ("Job " ++ toString jobId ++ " was confirmed concurrently."))

def confirmJob (jobId : Uuid) (overrides : List Override) : Operation Confirmation := do
  let job ← loadJob jobId
  requireStaged job "confirm"
  let items ← Operation.store (.listStaged jobId)
  checkOverrides jobId (items.map (·.id)) [] 0 overrides
  let written ← ExceptT.lift (writeAll overrides items)
  conclude jobId written

end Service

end Larder
