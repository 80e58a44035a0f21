import Larder.Provider.Error
import Larder.Store.Call

/-!
Service operations as programs.

A program is a value: either a result, or one effect together with what follows for each answer to
it. An effect is a call to the store, to a provider or to the publisher, a reading of the clock, a
new id, or the start of background processing. How effects are answered is not part of a program;
the same program runs alone, against scripted providers on a virtual clock, or interleaved with
others.
-/

namespace Larder

inductive ServiceError
  | invalidRequest (message : String)
  | notFound (message : String)
  | invalidState (message : String)
  | conflict (message : String)
  | provider (message : String)
  | storage (message : String)
deriving DecidableEq, Repr

namespace ServiceError

def detail : ServiceError → String
  | .invalidRequest message | .notFound message | .invalidState message | .conflict message
  | .provider message | .storage message => message

def message : ServiceError → String
  | .invalidRequest message => "Invalid request: " ++ message
  | .notFound message => "Not found: " ++ message
  | .invalidState message => "Invalid state: " ++ message
  | .conflict message => "Conflict: " ++ message
  | .provider message => "Provider error: " ++ message
  | .storage message => "Storage error: " ++ message

def ofStore : StoreError → ServiceError
  | .backend fault => .storage fault.message
  | .invalidArgument detail => .invalidRequest detail
  | .notFound detail => .notFound detail
  | .conflict detail => .conflict detail

def ofProvider (fault : ProviderError) : ServiceError :=
  .provider fault.message

def ofField (fault : InvalidField) : ServiceError :=
  .invalidRequest fault.message

end ServiceError

/-- What comes of a provider call that is given a time budget. -/
inductive Awaited (α : Type)
  | answered (outcome : Except ProviderError α)
  | timedOut

inductive IdKind
  | job
  | stagedItem
  | pantryItem
deriving DecidableEq

/-- One thing a program asks of the world. Budgets are in milliseconds. -/
inductive Effect
  | store (call : StoreCall)
  | extract (text : String) (budget : Nat)
  | resolve (name : String) (budget : Nat)
  | publish (ids : List Uuid)
  | process (jobId : Uuid) (text : String)
  | now
  | newId (kind : IdKind)

abbrev Effect.Answer : Effect → Type
  | .store call => call.Answer
  | .extract _ _ => Awaited (List Candidate)
  | .resolve _ _ => Awaited Resolution
  | .publish _ => Except ServiceError Unit
  | .process _ _ => Unit
  | .now => Timestamp
  | .newId _ => Uuid

inductive Program (α : Type) : Type
  | done (value : α)
  | perform (effect : Effect) (next : effect.Answer → Program α)

namespace Program

def bind {α β : Type} (program : Program α) (next : α → Program β) : Program β :=
  match program with
  | .done value => next value
  | .perform effect follow => .perform effect fun answer => (follow answer).bind next

instance : Monad Program where
  pure := .done
  bind := .bind

def ask (effect : Effect) : Program effect.Answer :=
  .perform effect .done

@[simp] theorem done_bind {α β : Type} (value : α) (next : α → Program β) :
    (Program.done value).bind next = next value := rfl

@[simp] theorem perform_bind {α β : Type} (effect : Effect)
    (follow : effect.Answer → Program α) (next : α → Program β) :
    (Program.perform effect follow).bind next =
      .perform effect fun answer => (follow answer).bind next := rfl

@[simp] theorem bind_done {α : Type} (program : Program α) : program.bind .done = program := by
  induction program with
  | done value => rfl
  | perform effect follow ih => simp [ih]

theorem bind_assoc {α β γ : Type} (program : Program α) (f : α → Program β) (g : β → Program γ) :
    (program.bind f).bind g = program.bind fun value => (f value).bind g := by
  induction program with
  | done value => rfl
  | perform effect follow ih => simp [ih]

instance : LawfulMonad Program :=
  LawfulMonad.mk' _ bind_done (fun _ _ => rfl) bind_assoc

end Program

abbrev Operation (α : Type) := ExceptT ServiceError Program α

namespace Operation

def ask (effect : Effect) : Operation effect.Answer :=
  ExceptT.lift (Program.ask effect)

def store (call : StoreCall) : Operation call.Value := do
  match ← ask (.store call) with
  | .ok value => return value
  | .error fault => throw (.ofStore fault)

def check (outcome : Except InvalidField Unit) : Operation Unit :=
  match outcome with
  | .ok () => return ()
  | .error fault => throw (.ofField fault)

def parseStored {α : Type} (outcome : Except UnknownValue α) : Operation α :=
  match outcome with
  | .ok value => return value
  | .error unknown => throw (.storage unknown.message)

end Operation

end Larder
