import Larder.Service.Program
import Larder.Service.Settings

/-!
Taking in a text: a job is created, and its text is processed in the background.

Processing extracts candidates, looks each one's name up, stores each as a staged item and moves the
job to `staged` last, so that a staged job is complete. A name that cannot be resolved only leaves
the item without an ingredient; any other failure ends the job as `failed`. Processing never touches
the pantry.
-/

namespace Larder

/-- A text handed in for ingestion; the kind is `text_blob` when none is named. -/
structure Submission where
  kind : Option String
  content : String
deriving Inhabited

structure Receipt where
  jobId : Uuid
  status : JobStatus
deriving DecidableEq, Inhabited

namespace Service

def submittedKind (kind : Option String) : Except ServiceError JobKind :=
  match kind with
  | none => .ok .default
  | some name =>
      match JobKind.parse name with
      | .ok kind => .ok kind
      | .error unknown => .error (.invalidRequest unknown.message)

def newJob (id : Uuid) (kind : JobKind) (content : String) (now : Timestamp) : Job :=
  { id
    kind := kind.name
    rawInput := content
    status := JobStatus.pending.name
    error := none
    createdAt := now
    updatedAt := now }

def createJob (submission : Submission) : Operation Job := do
  let kind ← submittedKind submission.kind
  if Text.isBlankText submission.content then
    throw (.invalidRequest "content must not be empty.")
  let now ← Operation.ask .now
  let id ← Operation.ask (.newId .job)
  let job := newJob id kind submission.content now
  Operation.store (.insertJob job)
  return job

def submit (submission : Submission) : Operation Receipt := do
  let job ← createJob submission
  Operation.ask (.process job.id job.rawInput)
  return ⟨job.id, .pending⟩

def resolveName (settings : IngestSettings) (name : String) : Operation Resolution := do
  match ← Operation.ask (.resolve name settings.resolveTimeout) with
  | .answered (.ok resolution) => return resolution
  | .answered (.error fault) => throw (.ofProvider fault)
  | .timedOut =>
      throw (.provider ("Resolver timed out after " ++ toString settings.resolveTimeout ++ " ms."))

def extractCandidates (settings : IngestSettings) (text : String) : Operation (List Candidate) := do
  match ← Operation.ask (.extract text settings.extractTimeout) with
  | .answered (.ok candidates) => return candidates
  | .answered (.error fault) => throw (.ofProvider fault)
  | .timedOut =>
      throw (.provider ("Extraction timed out after " ++ toString settings.extractTimeout ++ " ms."))

def candidateIngredient (settings : IngestSettings) (candidate : Candidate) :
    Program (Option Uuid) := do
  let name := Text.trim candidate.name
  if name == "" then return none
  else
    match ← (resolveName settings name).run with
    | .ok resolution => return some resolution.ingredient.id
    | .error _ => return none

def stagedItem (threshold : Float) (jobId : Uuid) (candidate : Candidate) (ingredient : Option Uuid)
    (id : Uuid) (now : Timestamp) : StagedItem :=
  let repaired := Candidate.repair candidate.quantity candidate.unit candidate.confidence
  { id
    jobId
    ingredientId := ingredient
    rawText := candidate.rawText
    quantity := repaired.quantity
    unit := repaired.unit
    confidence := repaired.confidence
    needsReview :=
      repaired.replaced || Candidate.needsReview repaired.confidence threshold ingredient
    createdAt := now
    updatedAt := now }

def stageCandidate (settings : IngestSettings) (jobId : Uuid) (candidate : Candidate) :
    Program StagedItem := do
  let ingredient ← candidateIngredient settings candidate
  let now ← Program.ask .now
  let id ← Program.ask (.newId .stagedItem)
  return stagedItem settings.reviewThreshold jobId candidate ingredient id now

/-- Changes the status of a job that still has the status `source`. Only the steps that a job may take
are tried. -/
def transition (jobId : Uuid) (source target : JobStatus) (error : Option String) :
    Operation (Option Job) := do
  if !source.canBecome target then
    throw (.invalidState ("Job " ++ toString jobId ++ " cannot move from " ++ source.name ++ " to " ++
      target.name ++ "."))
  let now ← Operation.ask .now
  Operation.store (.transition ⟨jobId, source.name, target.name, error, now⟩)

def stageAll (settings : IngestSettings) (jobId : Uuid) : List Candidate → Operation Unit
  | [] => return ()
  | candidate :: rest => do
      let item ← ExceptT.lift (stageCandidate settings jobId candidate)
      Operation.store (.insertStaged item)
      stageAll settings jobId rest

def processJob (settings : IngestSettings) (jobId : Uuid) (text : String) : Operation Nat := do
  let candidates ← extractCandidates settings text
  stageAll settings jobId candidates
  match ← transition jobId .pending .staged none with
  | some _ => return candidates.length
  | none => throw (.conflict ("Job " ++ toString jobId ++ " is no longer pending."))

def processTimedOut (settings : IngestSettings) : ServiceError :=
  .provider ("Processing timed out after " ++ toString settings.processTimeout ++ " ms.")

/-- Ends background processing: an error is recorded on the job, if that is still pending. -/
def settle (jobId : Uuid) (outcome : Except ServiceError Nat) : Program Unit :=
  match outcome with
  | .ok _ => return ()
  | .error fault => do
      let _ ← (transition jobId .pending .failed (some fault.message)).run
      return ()

end Service

end Larder
