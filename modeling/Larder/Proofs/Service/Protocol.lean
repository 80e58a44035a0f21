import Larder.Proofs.Service.Run
import Mathlib.Data.List.Induction

/-!
# Protocols

A protocol has a state that moves on with every effect and its answer, and the state says which effects
may come next. A program that follows a protocol does so whatever answers it gets, and what it ends with
fits the state that it ends in. That a program follows is proved along its text, by one rule for each way
to put programs together.

What follows a protocol keeps, effect by effect, what the protocol's steps keep (`Follows.run_keeps`), and
that at every point where it may be cut off (`Follows.runWithin`). Events that a protocol accepts lead it from
one state to another, and such are the events of a run (`Follows.run_accepts`).
-/

namespace Larder

structure Protocol (σ : Type) where
  allows : σ → Effect → Prop
  next : σ → (effect : Effect) → effect.Answer → σ

variable {σ τ α β : Type} {protocol : Protocol σ} {state : σ}

def Program.Follows (protocol : Protocol σ) (ends : σ → α → Prop) : Program α → σ → Prop
  | .done value, state => ends state value
  | .perform effect follow, state => protocol.allows state effect ∧
      ∀ answer, (follow answer).Follows protocol ends (protocol.next state effect answer)

def Operation.Ends (ends : σ → α → Prop) (fails : σ → ServiceError → Prop) (state : σ) :
    Except ServiceError α → Prop
  | .ok value => ends state value
  | .error fault => fails state fault

def Operation.Follows (protocol : Protocol σ) (ends : σ → α → Prop) (fails : σ → ServiceError → Prop)
    (operation : Operation α) (state : σ) : Prop :=
  Program.Follows protocol (Operation.Ends ends fails) operation.run state

namespace Program

variable {ends : σ → α → Prop} {ends' : σ → β → Prop}

theorem follows_done {value : α} :
    (Program.done value).Follows protocol ends state ↔ ends state value := Iff.rfl

theorem follows_perform {effect : Effect} {follow : effect.Answer → Program α} :
    (Program.perform effect follow).Follows protocol ends state ↔ protocol.allows state effect ∧
      ∀ answer, (follow answer).Follows protocol ends (protocol.next state effect answer) := Iff.rfl

theorem follows_pure {value : α} (holds : ends state value) :
    (pure value : Program α).Follows protocol ends state := holds

theorem Follows.bind {program : Program α} {follow : α → Program β}
    (first : program.Follows protocol ends state)
    (later : ∀ state value, ends state value → (follow value).Follows protocol ends' state) :
    (program >>= follow).Follows protocol ends' state := by
  change (program.bind follow).Follows protocol ends' state
  induction program generalizing state with
  | done value => exact later state value first
  | perform effect rest ih => exact ⟨first.1, fun answer => ih answer (first.2 answer)⟩

theorem Follows.mono {weaker : σ → α → Prop} {program : Program α}
    (follows : program.Follows protocol ends state)
    (implies : ∀ state value, ends state value → weaker state value) :
    program.Follows protocol weaker state := by
  induction program generalizing state with
  | done value => exact implies state value follows
  | perform effect rest ih => exact ⟨follows.1, fun answer => ih answer (follows.2 answer)⟩

theorem follows_ask {effect : Effect} {ends : σ → effect.Answer → Prop}
    (allowed : protocol.allows state effect)
    (holds : ∀ answer, ends (protocol.next state effect answer) answer) :
    (ask effect).Follows protocol ends state := ⟨allowed, holds⟩

end Program

namespace Operation

variable {ends : σ → α → Prop} {ends' : σ → β → Prop} {fails : σ → ServiceError → Prop}

theorem follows_pure {value : α} (holds : ends state value) :
    Follows protocol ends fails (pure value) state := holds

theorem follows_throw {fault : ServiceError} (holds : fails state fault) :
    Follows protocol ends fails (throw fault : Operation α) state := holds

theorem Follows.bind {operation : Operation α} {follow : α → Operation β}
    (first : operation.Follows protocol ends fails state)
    (later : ∀ state value, ends state value → (follow value).Follows protocol ends' fails state) :
    (operation >>= follow).Follows protocol ends' fails state := by
  unfold Follows
  rw [ExceptT.run_bind]
  apply Program.Follows.bind first
  intro state result meets
  cases result with
  | ok value => exact later state value meets
  | error fault => exact Program.follows_pure meets

theorem Follows.run {operation : Operation α} (follows : operation.Follows protocol ends fails state) :
    operation.run.Follows protocol (Ends ends fails) state := follows

theorem Follows.mono {weaker : σ → α → Prop} {milder : σ → ServiceError → Prop} {operation : Operation α}
    (follows : operation.Follows protocol ends fails state)
    (implies : ∀ state value, ends state value → weaker state value)
    (tolerates : ∀ state fault, fails state fault → milder state fault) :
    operation.Follows protocol weaker milder state := by
  unfold Follows
  apply Program.Follows.mono follows
  intro state result meets
  cases result with
  | ok value => exact implies state value meets
  | error fault => exact tolerates state fault meets

theorem follows_lift {program : Program α} (follows : program.Follows protocol ends state) :
    Follows protocol ends fails (ExceptT.lift program) state := by
  unfold Follows
  rw [ExceptT.run_lift]
  apply Program.Follows.bind follows
  exact fun state value meets => Program.follows_pure meets

theorem follows_ask {effect : Effect} {ends : σ → effect.Answer → Prop}
    (allowed : protocol.allows state effect)
    (holds : ∀ answer, ends (protocol.next state effect answer) answer) :
    Follows protocol ends fails (ask effect) state :=
  follows_lift (Program.follows_ask allowed holds)

theorem follows_result {result : Except ServiceError α} (holds : Ends ends fails state result) :
    Follows protocol ends fails (liftM result) state := by
  cases result with
  | ok value => exact holds
  | error fault => exact holds

theorem follows_store (call : StoreCall) {ends : σ → call.Value → Prop}
    (allowed : protocol.allows state (.store call))
    (succeeds : ∀ value, ends (protocol.next state (.store call) (.ok value)) value)
    (stops : ∀ fault, fails (protocol.next state (.store call) (.error fault)) (.ofStore fault)) :
    Follows protocol ends fails (store call) state := by
  have asks : Follows protocol (fun state (answer : call.Answer) =>
      Ends ends fails state (answer.mapError .ofStore)) fails (ask (.store call)) state := by
    apply follows_ask allowed
    intro answer
    cases answer with
    | ok value => exact succeeds value
    | error fault => exact stops fault
  unfold store
  apply asks.bind
  intro state answer meets
  cases answer with
  | ok value => exact follows_pure meets
  | error fault => exact follows_throw meets

end Operation

/-! ## Keeping -/

theorem Program.Follows.run_keeps {ends : σ → α → Prop} {program : Program α}
    (follows : program.Follows protocol ends state) (around : Surroundings)
    {kept : σ → Situation → Prop}
    (step : ∀ state s effect, protocol.allows state effect → kept state s →
      kept (protocol.next state effect (s.answer around effect)) (s.next around effect))
    {s : Situation} (start : kept state s) :
    ∃ last, kept last (program.run around s).2 ∧ ends last (program.run around s).1 := by
  induction program generalizing state s with
  | done value => exact ⟨state, start, follows⟩
  | perform effect rest ih => exact ih _ (follows.2 _) (step state s effect follows.1 start)

theorem Program.Follows.within {ends : σ → α → Prop} {program : Program α}
    (follows : program.Follows protocol ends state) (effects : Nat) :
    (program.within effects).Follows protocol (fun state result => match result with
      | some value => ends state value
      | none => ∃ effect, protocol.allows state effect) state := by
  induction effects generalizing program state with
  | zero =>
      cases program with
      | done value => exact follows
      | perform effect rest => exact ⟨effect, follows.1⟩
  | succ effects ih =>
      cases program with
      | done value => exact follows
      | perform effect rest => exact ⟨follows.1, fun answer => ih (follows.2 answer)⟩

/-- A run that is cut off anywhere has kept what each allowed effect keeps. It was cut off before an effect
that was allowed next. -/
theorem Program.Follows.runWithin {ends : σ → α → Prop} {program : Program α}
    (follows : program.Follows protocol ends state) (around : Surroundings)
    {kept : σ → Situation → Prop}
    (step : ∀ state s effect, protocol.allows state effect → kept state s →
      kept (protocol.next state effect (s.answer around effect)) (s.next around effect))
    (effects : Nat) {s : Situation} (start : kept state s) :
    ∃ last, kept last (program.runWithin around effects s).2 ∧
      match (program.runWithin around effects s).1 with
      | some value => ends last value
      | none => ∃ effect, protocol.allows last effect := by
  rw [← Program.run_within]
  exact (follows.within effects).run_keeps around step start

/-! ## From one protocol to another -/

theorem Program.Follows.map {other : Protocol τ} {ends : σ → α → Prop} {ends' : τ → α → Prop}
    {program : Program α} (follows : program.Follows protocol ends state) (view : σ → τ)
    (allows : ∀ state effect, protocol.allows state effect → other.allows (view state) effect)
    (next : ∀ state effect answer, protocol.allows state effect →
      other.next (view state) effect answer = view (protocol.next state effect answer))
    (implies : ∀ state value, ends state value → ends' (view state) value) :
    program.Follows other ends' (view state) := by
  induction program generalizing state with
  | done value => exact implies state value follows
  | perform effect rest ih =>
      refine ⟨allows state effect follows.1, fun answer => ?_⟩
      rw [next state effect answer follows.1]
      exact ih answer (follows.2 answer)

/-! ## Events -/

namespace Protocol

def after (protocol : Protocol σ) (state : σ) (events : List Event) : σ :=
  events.foldl (fun state event => protocol.next state event.1 event.2) state

def Accepts (protocol : Protocol σ) : σ → List Event → Prop
  | _, [] => True
  | state, event :: rest => protocol.allows state event.1 ∧
      protocol.Accepts (protocol.next state event.1 event.2) rest

def recording : Protocol (List Event) where
  allows _ _ := True
  next events effect answer := events ++ [⟨effect, answer⟩]

theorem recording_after (earlier events : List Event) :
    recording.after earlier events = earlier ++ events := by
  induction events generalizing earlier with
  | nil => exact (List.append_nil _).symm
  | cons event rest ih => exact (ih _).trans (List.append_assoc _ _ _)

theorem after_concat (events : List Event) (event : Event) :
    protocol.after state (events ++ [event]) =
      protocol.next (protocol.after state events) event.1 event.2 := by
  unfold after
  rw [List.foldl_append, List.foldl_cons, List.foldl_nil]

theorem accepts_concat {events : List Event} {event : Event} :
    protocol.Accepts state (events ++ [event]) ↔
      protocol.Accepts state events ∧ protocol.allows (protocol.after state events) event.1 := by
  induction events generalizing state with
  | nil => simp [Accepts, after]
  | cons first rest ih => exact (and_congr_right fun _ => ih).trans and_assoc.symm

theorem Accepts.keeps {events : List Event} (accepts : protocol.Accepts state events)
    {kept : σ → List Event → Prop} (start : kept state [])
    (step : ∀ state events effect answer, protocol.allows state effect → kept state events →
      kept (protocol.next state effect answer) (events ++ [⟨effect, answer⟩])) :
    kept (protocol.after state events) events := by
  induction events using List.reverseRecOn with
  | nil => exact start
  | append_singleton events event ih =>
      obtain ⟨earlier, allowed⟩ := accepts_concat.mp accepts
      rw [after_concat]
      exact step _ events event.1 event.2 allowed (ih earlier)

end Protocol

theorem Program.Follows.run_accepts {ends : σ → α → Prop} {program : Program α}
    (follows : program.Follows protocol ends state) (around : Surroundings) (s : Situation) :
    ∃ events, (program.run around s).2.past = s.past ++ events ∧ protocol.Accepts state events ∧
      ends (protocol.after state events) (program.run around s).1 := by
  induction program generalizing state s with
  | done value => exact ⟨[], (List.append_nil _).symm, trivial, follows⟩
  | perform effect rest ih =>
      obtain ⟨events, past, accepts, ended⟩ := ih _ (follows.2 (s.answer around effect)) (s.next around effect)
      refine ⟨⟨effect, s.answer around effect⟩ :: events, ?_, ⟨follows.1, accepts⟩, ended⟩
      exact past.trans (List.append_assoc _ _ _)

-- A program follows by the rules above; unfolding the definitions would run it.
attribute [irreducible] Program.Follows Operation.Follows

end Larder
