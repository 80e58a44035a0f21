import Larder.Text.Quoted
import Larder.Time.Timestamp
import Larder.Uuid

/-!
Ingestion jobs: what a submitted text goes through until its items are in the pantry.

A job is `pending` until its text has been processed, then `staged` or `failed`; a staged job becomes
`confirmed`. Kind and status are stored as their names, so a stored name may be unknown.
-/

namespace Larder

structure UnknownValue where
  field : String
  value : String
deriving DecidableEq, Repr

def UnknownValue.message (unknown : UnknownValue) : String :=
  "Unknown " ++ unknown.field ++ " " ++ Text.quoted unknown.value ++ "."

/-- The channel a text came from; all kinds are processed alike. -/
inductive JobKind
  | textBlob
  | externalChannel
deriving DecidableEq, Repr, Inhabited

namespace JobKind

def default : JobKind := .textBlob

def all : List JobKind := [.textBlob, .externalChannel]

def name : JobKind → String
  | .textBlob => "text_blob"
  | .externalChannel => "external_channel"

def ofName? (name : String) : Option JobKind :=
  all.find? (·.name == name)

def parse (name : String) : Except UnknownValue JobKind :=
  match ofName? name with
  | some kind => .ok kind
  | none => .error ⟨"kind", name⟩

end JobKind

/-- How far a job has come. `processing` is known but never stored by this library. -/
inductive JobStatus
  | pending
  | processing
  | staged
  | confirmed
  | failed
deriving DecidableEq, Repr, Inhabited

namespace JobStatus

def all : List JobStatus := [.pending, .processing, .staged, .confirmed, .failed]

def name : JobStatus → String
  | .pending => "pending"
  | .processing => "processing"
  | .staged => "staged"
  | .confirmed => "confirmed"
  | .failed => "failed"

def ofName? (name : String) : Option JobStatus :=
  all.find? (·.name == name)

def parse (name : String) : Except UnknownValue JobStatus :=
  match ofName? name with
  | some status => .ok status
  | none => .error ⟨"status", name⟩

def canBecome : JobStatus → JobStatus → Bool
  | .pending, .staged | .pending, .failed | .staged, .confirmed => true
  | _, _ => false

end JobStatus

theorem JobKind.parse_name (kind : JobKind) : JobKind.parse kind.name = .ok kind := by
  cases kind <;> rfl

theorem JobStatus.parse_name (status : JobStatus) : JobStatus.parse status.name = .ok status := by
  cases status <;> rfl

structure Job where
  id : Uuid
  kind : String
  rawInput : String
  status : String
  error : Option String
  createdAt : Timestamp
  updatedAt : Timestamp
deriving DecidableEq, Inhabited

/-- A change of status that applies only while the job still has the status `source`. -/
structure Transition where
  jobId : Uuid
  source : String
  target : String
  error : Option String
  time : Timestamp

def Job.apply (job : Job) (t : Transition) : Job :=
  { job with status := t.target, error := t.error, updatedAt := t.time }

end Larder
