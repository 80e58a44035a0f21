import Larder.Proofs.Service.Values

/-!
# How the service's programs conduct themselves

A program uses an id that it has made for at most one row, and it holds the id until then. `Permits`
says which calls a program may make while it holds an id: rows under the held id, with values that may
be stored, and only the lawful steps of jobs. `Obeys` says that a program makes no others, whatever
answers it gets; of the answers it only expects that listed staged items are fit.

Each of the service's operations obeys. What they do to a shared store follows from this alone.
-/

namespace Larder

structure Job.IsNew (job : Job) : Prop where
  kind : ∃ kind : JobKind, job.kind = kind.name
  status : job.status = JobStatus.pending.name
  error : job.error = none

/-- A step that a job may take, with an error exactly when the job fails by it. -/
def Transition.IsLawful (t : Transition) : Prop :=
  ∃ source target : JobStatus, source.canBecome target = true ∧ t.source = source.name ∧
    t.target = target.name ∧ (t.error.isSome ↔ target = .failed)

namespace Interleaving

/-- The effects that are allowed to a program while it holds an id. -/
def Permits (held : Option Uuid) : Effect → Prop
  | .store (.upsertItem w) => held = some w.itemId ∧ Storable w.quantity w.unit
  | .store (.insertJob job) => held = some job.id ∧ job.IsNew
  | .store (.transition t) => t.IsLawful
  | .store (.insertStaged item) => held = some item.id ∧ item.Fit
  | .store (.updateStaged item) => item.Fit
  | _ => True

def IsLawful : Effect → Prop
  | .store (.insertJob job) => job.IsNew
  | .store (.transition t) => t.IsLawful
  | _ => True

theorem Permits.isLawful {held : Option Uuid} {effect : Effect} (permitted : Permits held effect) :
    IsLawful effect := by
  cases effect with
  | store call =>
      cases call with
      | insertJob job => exact permitted.2
      | transition t => exact permitted
      | _ => trivial
  | _ => trivial

def Expects : (effect : Effect) → effect.Answer → Prop
  | .store (.listStaged _), .ok items => ∀ item ∈ items, item.Fit
  | _, _ => True

def heldAfter (held : Option Uuid) : (effect : Effect) → effect.Answer → Option Uuid
  | .newId _, id => some id
  | .store (.upsertItem _), _ | .store (.insertJob _), _ | .store (.insertStaged _), _ => none
  | _, _ => held

end Interleaving

open Interleaving

variable {α β : Type} {held : Option Uuid}

/-- Starting with an id it may hold, a program performs permitted effects only, and its result meets a
condition together with the id that it holds in the end. -/
def Program.Obeys (post : α → Option Uuid → Prop) (held : Option Uuid) : Program α → Prop
  | .done value => post value held
  | .perform effect next => Permits held effect ∧
      ∀ answer, Expects effect answer → (next answer).Obeys post (heldAfter held effect answer)

def Operation.Obeys (post : α → Option Uuid → Prop) (held : Option Uuid) (operation : Operation α) :
    Prop :=
  Program.Obeys (fun result after => ∀ value, result = .ok value → post value after) held operation.run

abbrev Operation.Conforms (held : Option Uuid) (operation : Operation α) : Prop :=
  operation.Obeys (fun _ _ => True) held

namespace Program

variable {post : α → Option Uuid → Prop} {post' : β → Option Uuid → Prop}

theorem obeys_perform {effect : Effect} {next : effect.Answer → Program α} :
    (Program.perform effect next).Obeys post held ↔ Permits held effect ∧
      ∀ answer, Expects effect answer → (next answer).Obeys post (heldAfter held effect answer) :=
  Iff.rfl

theorem obeys_pure {value : α} (holds : post value held) : (pure value : Program α).Obeys post held :=
  holds

theorem Obeys.bind {program : Program α} {next : α → Program β} (first : program.Obeys post held)
    (later : ∀ value after, post value after → (next value).Obeys post' after) :
    (program >>= next).Obeys post' held := by
  change (program.bind next).Obeys post' held
  induction program generalizing held with
  | done value => exact later value held first
  | perform effect follow ih =>
      obtain ⟨permitted, rest⟩ := first
      exact ⟨permitted, fun answer expected => ih answer (rest answer expected)⟩

theorem Obeys.mono {weaker : α → Option Uuid → Prop} {program : Program α}
    (obeys : program.Obeys post held) (implies : ∀ value after, post value after → weaker value after) :
    program.Obeys weaker held := by
  induction program generalizing held with
  | done value => exact implies value held obeys
  | perform effect next ih =>
      obtain ⟨permitted, rest⟩ := obeys
      exact ⟨permitted, fun answer expected => ih answer (rest answer expected)⟩

theorem obeys_ask {effect : Effect} {post : effect.Answer → Option Uuid → Prop}
    (permitted : Permits held effect)
    (holds : ∀ answer, Expects effect answer → post answer (heldAfter held effect answer)) :
    (ask effect).Obeys post held :=
  ⟨permitted, holds⟩

theorem obeys_now : (ask .now).Obeys (fun _ _ => True) held :=
  obeys_ask trivial fun _ _ => trivial

theorem obeys_newId (kind : IdKind) :
    (ask (.newId kind)).Obeys (fun (id : Uuid) after => after = some id) held :=
  obeys_ask trivial fun _ _ => rfl

end Program

namespace Operation

variable {post : α → Option Uuid → Prop} {post' : β → Option Uuid → Prop}

theorem Obeys.bind {operation : Operation α} {next : α → Operation β}
    (first : operation.Obeys post held)
    (later : ∀ value after, post value after → (next value).Obeys post' after) :
    (operation >>= next).Obeys post' held := by
  unfold Obeys
  rw [ExceptT.run_bind]
  apply Program.Obeys.bind first
  intro result after meets
  cases result with
  | ok value => exact later value after (meets value rfl)
  | error fault => exact fun value impossible => nomatch impossible

theorem Obeys.run {operation : Operation α} (obeys : operation.Obeys post held) :
    operation.run.Obeys (fun _ _ => True) held :=
  Program.Obeys.mono obeys fun _ _ _ => trivial

theorem Obeys.mono {weaker : α → Option Uuid → Prop} {operation : Operation α}
    (obeys : operation.Obeys post held)
    (implies : ∀ value after, post value after → weaker value after) : operation.Obeys weaker held :=
  Program.Obeys.mono obeys fun _ _ meets value succeeds => implies value _ (meets value succeeds)

theorem Obeys.conforms {operation : Operation α} (obeys : operation.Obeys post held) :
    operation.Conforms held :=
  obeys.mono fun _ _ _ => trivial

theorem obeys_pure {value : α} (holds : post value held) : (pure value : Operation α).Obeys post held := by
  rintro _ ⟨⟩
  exact holds

theorem obeys_throw (fault : ServiceError) : (throw fault : Operation α).Obeys post held :=
  fun _ impossible => nomatch impossible

theorem obeys_lift {program : Program α} (obeys : program.Obeys post held) :
    Obeys post held (ExceptT.lift program) := by
  unfold Obeys
  rw [ExceptT.run_lift]
  apply Program.Obeys.bind obeys
  rintro value after meets _ ⟨⟩
  exact meets

theorem obeys_ask {effect : Effect} {post : effect.Answer → Option Uuid → Prop}
    (permitted : Permits held effect)
    (holds : ∀ answer, Expects effect answer → post answer (heldAfter held effect answer)) :
    (ask effect).Obeys post held :=
  obeys_lift (Program.obeys_ask permitted holds)

theorem conforms_ask (effect : Effect) (permitted : Permits held effect) :
    (ask effect).Conforms held :=
  obeys_ask permitted fun _ _ => trivial

theorem obeys_newId (kind : IdKind) :
    (ask (.newId kind)).Obeys (fun (id : Uuid) after => after = some id) held :=
  obeys_ask trivial fun _ _ => rfl

theorem obeys_liftM (result : Except ServiceError α) :
    Obeys (fun value after => result = .ok value ∧ after = held) held (liftM result) := by
  intro value succeeds
  exact ⟨succeeds, rfl⟩

theorem obeys_check (outcome : Except InvalidField Unit) :
    (check outcome).Obeys (fun _ after => outcome = .ok () ∧ after = held) held := by
  cases outcome with
  | ok value => exact obeys_pure ⟨rfl, rfl⟩
  | error fault => exact obeys_throw _

theorem obeys_parseStored (outcome : Except UnknownValue α) :
    (parseStored outcome).Obeys (fun _ after => after = held) held := by
  cases outcome with
  | ok value => exact obeys_pure rfl
  | error unknown => exact obeys_throw _

theorem obeys_store {call : StoreCall} {post : call.Value → Option Uuid → Prop}
    (permitted : Permits held (.store call))
    (holds : ∀ value, Expects (.store call) (.ok value) →
      post value (heldAfter held (.store call) (.ok value))) :
    (store call).Obeys post held := by
  have asks : (ask (.store call)).Obeys (fun (answer : call.Answer) after =>
      ∀ value, answer = .ok value → post value after) held := by
    apply obeys_ask permitted
    rintro answer expected value rfl
    exact holds value expected
  unfold store
  apply asks.bind
  intro answer after meets
  cases answer with
  | ok value => exact obeys_pure (meets value rfl)
  | error fault => exact obeys_throw _

theorem conforms_store (call : StoreCall) (permitted : Permits held (.store call)) :
    (store call).Conforms held :=
  obeys_store permitted fun _ _ => trivial

end Operation

-- A program obeys by the lemmas above; unfolding the definitions would run it.
attribute [irreducible] Program.Obeys Operation.Obeys

end Larder
