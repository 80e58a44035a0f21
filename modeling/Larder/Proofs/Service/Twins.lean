import Larder.Proofs.Service.Uses

/-!
# Programs that go alike

Two programs are twins when they ask alike, go on alike wherever they hear alike, and come to results that are
related. What counts as alike is a parameter: answers may differ in whatever the programs make nothing of.
That programs are twins is proved along their texts, as for protocols. A program that hears the same whenever
it hears alike is its own twin (`Uses.twins`).

Twins that run alone keep what is kept by asking alike, and hear alike if that is so at every step
(`Twins.run`).
-/

namespace Larder

structure Likeness where
  asks : Effect → Effect → Prop
  hears : Event → Event → Prop

variable {α β γ δ : Type} {likeness : Likeness}

def Program.Twins (likeness : Likeness) (ends : α → β → Prop) : Program α → Program β → Prop
  | .done first, .done second => ends first second
  | .perform effect next, .perform effect' next' => likeness.asks effect effect' ∧
      ∀ answer answer', likeness.hears ⟨effect, answer⟩ ⟨effect', answer'⟩ →
        (next answer).Twins likeness ends (next' answer')
  | _, _ => False

def BothEnd (ends : α → β → Prop) : Except ServiceError α → Except ServiceError β → Prop
  | .ok first, .ok second => ends first second
  | .error fault, .error fault' => fault = fault'
  | _, _ => False

def Operation.Twins (likeness : Likeness) (ends : α → β → Prop) (first : Operation α)
    (second : Operation β) : Prop :=
  Program.Twins likeness (BothEnd ends) first.run second.run

theorem bothEnd_eq {first second : Except ServiceError α} (both : BothEnd Eq first second) :
    first = second := by
  cases first <;> cases second
  · exact congrArg Except.error both
  · cases both
  · cases both
  · exact congrArg Except.ok both

namespace Program

variable {ends : α → β → Prop} {ends' : γ → δ → Prop}

theorem twins_perform {effect effect' : Effect} {next : effect.Answer → Program α}
    {next' : effect'.Answer → Program β} :
    (Program.perform effect next).Twins likeness ends (.perform effect' next') ↔
      likeness.asks effect effect' ∧ ∀ answer answer', likeness.hears ⟨effect, answer⟩ ⟨effect', answer'⟩ →
        (next answer).Twins likeness ends (next' answer') := Iff.rfl

theorem not_twins_done {value : α} {effect : Effect} {next : effect.Answer → Program β} :
    ¬ (Program.done value).Twins likeness ends (.perform effect next) := id

theorem not_twins_perform {value : β} {effect : Effect} {next : effect.Answer → Program α} :
    ¬ (Program.perform effect next).Twins likeness ends (.done value) := id

theorem twins_pure {first : α} {second : β} (related : ends first second) :
    (pure first : Program α).Twins likeness ends (pure second) := related

theorem Twins.bind {first : Program α} {second : Program β} {next : α → Program γ} {next' : β → Program δ}
    (twins : first.Twins likeness ends second)
    (later : ∀ value value', ends value value' → (next value).Twins likeness ends' (next' value')) :
    (first >>= next).Twins likeness ends' (second >>= next') := by
  change (first.bind next).Twins likeness ends' (second.bind next')
  induction first generalizing second with
  | done value =>
      cases second with
      | done value' => exact later value value' twins
      | perform effect' follow' => cases twins
  | perform effect follow ih =>
      cases second with
      | done value' => cases twins
      | perform effect' follow' =>
          obtain ⟨asks, goesOn⟩ := twins
          exact ⟨asks, fun answer answer' hears => ih answer (goesOn answer answer' hears)⟩

theorem Twins.mono {weaker : α → β → Prop} {first : Program α} {second : Program β}
    (twins : first.Twins likeness ends second)
    (implies : ∀ value value', ends value value' → weaker value value') :
    first.Twins likeness weaker second := by
  induction first generalizing second with
  | done value =>
      cases second with
      | done value' => exact implies value value' twins
      | perform effect' follow' => cases twins
  | perform effect follow ih =>
      cases second with
      | done value' => cases twins
      | perform effect' follow' =>
          obtain ⟨asks, goesOn⟩ := twins
          exact ⟨asks, fun answer answer' hears => ih answer (goesOn answer answer' hears)⟩

theorem twins_ask (effect effect' : Effect) {ends : effect.Answer → effect'.Answer → Prop}
    (asks : likeness.asks effect effect')
    (related : ∀ answer answer', likeness.hears ⟨effect, answer⟩ ⟨effect', answer'⟩ → ends answer answer') :
    (ask effect).Twins likeness ends (ask effect') := ⟨asks, related⟩

theorem Twins.within {first : Program α} {second : Program β} (twins : first.Twins likeness ends second)
    (effects : Nat) :
    (first.within effects).Twins likeness (Option.Rel ends) (second.within effects) := by
  induction effects generalizing first second with
  | zero =>
      cases first <;> cases second
      · exact .some twins
      · cases twins
      · cases twins
      · exact .none
  | succ effects ih =>
      cases first <;> cases second
      · exact .some twins
      · cases twins
      · cases twins
      · exact ⟨twins.1, fun answer answer' hears => ih (twins.2 answer answer' hears)⟩

theorem Uses.twins {kinds : Effect → Prop} {program : Program α} (uses : program.Uses kinds)
    (asks : ∀ effect, kinds effect → likeness.asks effect effect)
    (same : ∀ effect answer answer', kinds effect →
      likeness.hears ⟨effect, answer⟩ ⟨effect, answer'⟩ → answer = answer') :
    program.Twins likeness Eq program := by
  induction program with
  | done value => exact rfl
  | perform effect next ih =>
      obtain ⟨used, later⟩ := follows_perform.mp uses
      refine ⟨asks effect used, fun answer answer' hears => ?_⟩
      obtain rfl := same effect answer answer' used hears
      exact ih answer (later answer)

theorem Twins.run {first : Program α} {second : Program β} (twins : first.Twins likeness ends second)
    (around around' : Surroundings) (kept : Situation → Situation → Prop)
    (step : ∀ s s' effect effect', likeness.asks effect effect' → kept s s' →
      likeness.hears ⟨effect, s.answer around effect⟩ ⟨effect', s'.answer around' effect'⟩ ∧
        kept (s.next around effect) (s'.next around' effect'))
    {s s' : Situation} (start : kept s s') :
    ends (first.run around s).1 (second.run around' s').1 ∧
      kept (first.run around s).2 (second.run around' s').2 := by
  induction first generalizing second s s' with
  | done value =>
      cases second with
      | done value' => exact ⟨twins, start⟩
      | perform effect' next' => cases twins
  | perform effect next ih =>
      cases second with
      | done value' => cases twins
      | perform effect' next' =>
          obtain ⟨asks, goesOn⟩ := twins
          obtain ⟨hears, later⟩ := step s s' effect effect' asks start
          exact ih _ (goesOn _ _ hears) later

end Program

namespace Operation

variable {ends : α → β → Prop} {ends' : γ → δ → Prop}

theorem twins_pure {first : α} {second : β} (related : ends first second) :
    Twins likeness ends (pure first) (pure second) := related

theorem twins_throw {fault fault' : ServiceError} (same : fault = fault') :
    Twins likeness ends (throw fault) (throw fault') := same

theorem Twins.bind {first : Operation α} {second : Operation β} {next : α → Operation γ}
    {next' : β → Operation δ} (twins : first.Twins likeness ends second)
    (later : ∀ value value', ends value value' → (next value).Twins likeness ends' (next' value')) :
    (first >>= next).Twins likeness ends' (second >>= next') := by
  unfold Twins
  rw [ExceptT.run_bind, ExceptT.run_bind]
  apply Program.Twins.bind twins
  intro result result' both
  cases result <;> cases result'
  · exact Program.twins_pure both
  · cases both
  · cases both
  · exact later _ _ both

theorem Twins.run {first : Operation α} {second : Operation β} (twins : first.Twins likeness ends second) :
    first.run.Twins likeness (BothEnd ends) second.run := twins

theorem twins_lift {first : Program α} {second : Program β} (twins : first.Twins likeness ends second) :
    Twins likeness ends (ExceptT.lift first) (ExceptT.lift second) := by
  unfold Twins
  rw [ExceptT.run_lift, ExceptT.run_lift]
  apply twins.bind
  exact fun _ _ related => Program.twins_pure related

theorem twins_ask (effect effect' : Effect) {ends : effect.Answer → effect'.Answer → Prop}
    (asks : likeness.asks effect effect')
    (related : ∀ answer answer', likeness.hears ⟨effect, answer⟩ ⟨effect', answer'⟩ → ends answer answer') :
    Twins likeness ends (ask effect) (ask effect') :=
  twins_lift (Program.twins_ask effect effect' asks related)

theorem twins_store (call call' : StoreCall) {ends : call.Value → call'.Value → Prop}
    (asks : likeness.asks (.store call) (.store call'))
    (related : ∀ answer answer', likeness.hears ⟨.store call, answer⟩ ⟨.store call', answer'⟩ →
      BothEnd ends (answer.mapError .ofStore) (answer'.mapError .ofStore)) :
    Twins likeness ends (store call) (store call') := by
  have asked : Twins likeness (fun (answer : call.Answer) (answer' : call'.Answer) =>
      BothEnd ends (answer.mapError .ofStore) (answer'.mapError .ofStore)) (ask (.store call))
      (ask (.store call')) := twins_ask _ _ asks related
  unfold store
  apply asked.bind
  intro answer answer' both
  cases answer <;> cases answer'
  · exact twins_throw both
  · cases both
  · cases both
  · exact twins_pure both

theorem Uses.twins {kinds : Effect → Prop} {operation : Operation α} (uses : operation.Uses kinds)
    (asks : ∀ effect, kinds effect → likeness.asks effect effect)
    (same : ∀ effect answer answer', kinds effect →
      likeness.hears ⟨effect, answer⟩ ⟨effect, answer'⟩ → answer = answer') :
    operation.Twins likeness Eq operation := by
  unfold Twins
  apply (Program.Uses.twins uses.run asks same).mono
  rintro result _ rfl
  cases result <;> rfl

end Operation

-- Programs are twins by the rules above; unfolding the definitions would run them.
attribute [irreducible] Program.Twins Operation.Twins

end Larder
