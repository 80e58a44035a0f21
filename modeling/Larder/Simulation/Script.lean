import Larder.Provider.Exchange
import Larder.Service.Program

namespace Larder.Simulation

inductive Latency
  | millis (count : Nat)
  | never
deriving Inhabited

structure Reply (α : Type) where
  latency : Latency
  outcome : Except ProviderError α
  requests : List Provider.Request

/-- The extractor's replies: the first to its first call, and so on; the last one repeats. -/
structure ExtractorScript where
  replies : List (Reply (List Candidate))

def ExtractorScript.reply (script : ExtractorScript) (call : Nat) : Reply (List Candidate) :=
  (script.replies[call]?.or script.replies.getLast?).getD ⟨.millis 0, .ok [], []⟩

/-- The resolver's answers by name. A name that is not known is answered with status 404. -/
structure ResolverScript where
  known : Named Uuid
  latency : Latency
  latencies : Named Latency
  errors : Named ProviderError

def ResolverScript.reply (script : ResolverScript) (name : String) : Reply Resolution :=
  let outcome : Except ProviderError Resolution :=
    match script.errors.get? name, script.known.get? name with
    | some fault, _ => .error fault
    | none, some id => .ok ⟨⟨id, name⟩, 1.0, false⟩
    | none, none => .error (.status 404 ("unknown ingredient " ++ name))
  ⟨(script.latencies.get? name).getD script.latency, outcome, []⟩

structure Providers where
  extract : (calls requests : Nat) → (text : String) → Reply (List Candidate)
  resolve : (calls requests : Nat) → (name : String) → Reply Resolution

def Providers.scripted (extractor : ExtractorScript) (resolver : ResolverScript) : Providers :=
  ⟨fun calls _ _ => extractor.reply calls, fun _ _ name => resolver.reply name⟩

inductive Method
  | upsertItem
  | deleteItem
  | deleteAllItems
  | listItems
  | insertJob
  | getJob
  | transition
  | insertStaged
  | listStaged
  | updateStaged
deriving DecidableEq, Inhabited

def methodOf : StoreCall → Method
  | .upsertItem _ => .upsertItem
  | .deleteItem _ => .deleteItem
  | .deleteAllItems => .deleteAllItems
  | .listItems => .listItems
  | .insertJob _ => .insertJob
  | .getJob _ => .getJob
  | .transition _ => .transition
  | .insertStaged _ => .insertStaged
  | .listStaged _ => .listStaged
  | .updateStaged _ => .updateStaged

/-- How a call fails before it reaches the store: with an error, or, where a call may answer no row,
with that. -/
inductive FaultKind
  | error (fault : StoreError)
  | lost

/-- A scripted fault of the `nth` call of a method, or of every one for zero. -/
structure Fault where
  method : Method
  nth : Nat
  kind : FaultKind

def FaultKind.answer? (kind : FaultKind) (call : StoreCall) : Option call.Answer :=
  match kind, call with
  | .error fault, _ => some (.error fault)
  | .lost, .getJob _ => some (.ok none)
  | .lost, .transition _ => some (.ok none)
  | .lost, _ => none

end Larder.Simulation
