import Larder.Simulation.Script
import Larder.Service.Stock
import Larder.Store.Memory

/-!
The world in which a scripted session runs.

Time stands still except where the scheduler lets it pass. Ids are numbered by kind, and time stamps
by store writes, so that a session's record does not depend on anything outside its script.
-/

namespace Larder.Simulation

/-- A point in time at which somebody is woken, and its place among all such appointments. -/
structure Timer where
  time : Nat
  place : Nat

structure Waiting (α : Type) where
  answer : Option Timer
  budget : Timer
  answered : Program α
  timedOut : Program α

inductive Halted (α : Type)
  | finished (value : α)
  | waiting (call : Waiting α)

/-- Background processing of a job, which has a deadline from when it begins to wait. -/
inductive Progress
  | fresh (text : String)
  | started (deadline : Timer) (call : Waiting (Except ServiceError Nat))

structure Task where
  jobId : Uuid
  progress : Progress

structure Script where
  settings : IngestSettings
  providers : Providers
  publisherFails : Bool
  faults : List Fault

/-- What a session changes. Background tasks are ready, in the order in which they became so, or they
sleep until one of their appointments. -/
structure World where
  memory : Memory
  clock : Nat
  appointments : Nat
  writes : Nat
  calls : List Method
  jobs : Nat
  stagedItems : Nat
  pantryItems : Nat
  extractorCalls : List String
  resolverCalls : List String
  extractRequests : List Provider.Request
  resolveRequests : List Provider.Request
  published : List (List Uuid)
  ready : List Task
  asleep : List Task

def World.initial (memory : Memory) : World :=
  ⟨memory, 0, 0, 0, [], 0, 0, 0, [], [], [], [], [], [], []⟩

/-- The instant from which time stamps are counted, 2026-01-01T00:00:00Z. -/
def epoch : Int := 1767225600

def World.stamp (world : World) : Timestamp :=
  .ofSeconds (epoch + (world.writes + 1 : Nat))

/-- The numbered id of a kind: a digit for the kind in front and the number behind. -/
def numberedId (kind : IdKind) (number : Nat) : Uuid :=
  let digit :=
    match kind with
    | .job => 1
    | .stagedItem => 2
    | .pantryItem => 3
  ⟨BitVec.ofNat 128 (digit <<< 124 + 4 <<< 76 + 8 <<< 60 + number)⟩

def World.nextId (world : World) : IdKind → Uuid
  | .job => numberedId .job (world.jobs + 1)
  | .stagedItem => numberedId .stagedItem (world.stagedItems + 1)
  | .pantryItem => numberedId .pantryItem (world.pantryItems + 1)

def Method.isWrite : Method → Bool
  | .insertJob | .insertStaged | .transition | .updateStaged | .upsertItem => true
  | _ => false

def World.count (world : World) (method : Method) : World :=
  { world with
    calls := method :: world.calls
    writes := if method.isWrite then world.writes + 1 else world.writes
    stagedItems := if method == .insertStaged then world.stagedItems + 1 else world.stagedItems }

def scriptedAnswer? (script : Script) (world : World) (call : StoreCall) : Option call.Answer :=
  let method := methodOf call
  let number := world.calls.count method
  script.faults.findSome? fun fault =>
    if fault.method == method && (fault.nth == 0 || fault.nth == number) then
      fault.kind.answer? call
    else none

def World.counted (world : World) (method : Method) (before : Memory) : World :=
  { world with
    jobs := if method == .insertJob then world.jobs + 1 else world.jobs
    pantryItems := world.pantryItems + (world.memory.pantry.length - before.pantry.length) }

def World.callStore (script : Script) (world : World) (call : StoreCall) : call.Answer × World :=
  let world := world.count (methodOf call)
  match scriptedAnswer? script world call with
  | some answer => (answer, world)
  | none =>
      let (answer, memory) := world.memory.perform call
      (answer, { world with memory }.counted (methodOf call) world.memory)

def World.answerTimer (world : World) : Latency → Option Timer × World
  | .never => (none, world)
  | .millis count =>
      (some ⟨world.clock + count, world.appointments⟩,
        { world with appointments := world.appointments + 1 })

def World.await {α β : Type} (world : World) (latency : Latency) (budget : Nat)
    (outcome : Except ProviderError β) (next : Awaited β → Program α) :
    Except (Awaited β) (Waiting α) × World :=
  match latency with
  | .millis 0 => (.error (.answered outcome), world)
  | latency =>
      if budget = 0 then (.error .timedOut, world)
      else
        let (answer, world) := world.answerTimer latency
        let timer : Timer := ⟨world.clock + budget, world.appointments⟩
        (.ok ⟨answer, timer, next (.answered outcome), next .timedOut⟩,
          { world with appointments := world.appointments + 1 })

def World.run {α : Type} (script : Script) (world : World) : Program α → Halted α × World
  | .done value => (.finished value, world)
  | .perform (.store call) next =>
      let (answer, world) := world.callStore script call
      run script world (next answer)
  | .perform (.extract text budget) next =>
      let reply :=
        script.providers.extract world.extractorCalls.length world.extractRequests.length text
      let world := { world with
        extractorCalls := text :: world.extractorCalls
        extractRequests := world.extractRequests ++ reply.requests }
      match world.await reply.latency budget reply.outcome next with
      | (.error answer, world) => run script world (next answer)
      | (.ok call, world) => (.waiting call, world)
  | .perform (.resolve name budget) next =>
      let reply :=
        script.providers.resolve world.resolverCalls.length world.resolveRequests.length name
      let world := { world with
        resolverCalls := name :: world.resolverCalls
        resolveRequests := world.resolveRequests ++ reply.requests }
      match world.await reply.latency budget reply.outcome next with
      | (.error answer, world) => run script world (next answer)
      | (.ok call, world) => (.waiting call, world)
  | .perform (.publish ids) next =>
      let world := { world with published := ids :: world.published }
      run script world
        (next (if script.publisherFails then .error (.storage "publisher failed") else .ok ()))
  | .perform (.process jobId text) next =>
      run script { world with ready := world.ready ++ [⟨jobId, .fresh text⟩] } (next ())
  | .perform .now next => run script world (next world.stamp)
  | .perform (.newId kind) next => run script world (next (world.nextId kind))

end Larder.Simulation
