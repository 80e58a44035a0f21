import Larder.Service.Program
import Larder.Store.Memory

/-!
# Programs that run alone

A program that runs alone has its store calls answered by a store in memory and all other effects by
its surroundings: the clock, the source of ids, the providers, the publisher and whatever starts
background work. Nothing is assumed about these, and an answer may depend on everything that happened
before. A run keeps the record of its effects, so that what was published can be read off.

`run_bind` and `outcome_bind` take a run apart where the program was put together. `runWithin` is a run
that may be cut off before the program has come to its end, and `within` is a program that cuts itself off
there.
-/

namespace Larder

abbrev Event := (effect : Effect) × effect.Answer

/-- What answers the effects that do not go to the store, from what happened before. -/
abbrev Surroundings := List Event → (effect : Effect) → effect.Answer

def Effect.batches : Effect → List (List Uuid)
  | .publish ids => [ids]
  | _ => []

def published (events : List Event) : List (List Uuid) :=
  events.flatMap (·.1.batches)

structure Situation where
  memory : Memory
  past : List Event

namespace Situation

def answer (around : Surroundings) (s : Situation) : (effect : Effect) → effect.Answer
  | .store call => (s.memory.perform call).1
  | effect => around s.past effect

def memoryAfter (s : Situation) : Effect → Memory
  | .store call => (s.memory.perform call).2
  | _ => s.memory

def next (around : Surroundings) (s : Situation) (effect : Effect) : Situation :=
  ⟨s.memoryAfter effect, s.past ++ [⟨effect, s.answer around effect⟩]⟩

@[simp] theorem next_memory (around : Surroundings) (s : Situation) (effect : Effect) :
    (s.next around effect).memory = s.memoryAfter effect := rfl

@[simp] theorem published_next (around : Surroundings) (s : Situation) (effect : Effect) :
    published (s.next around effect).past =
      published s.past ++ effect.batches := by
  simp [published, next]

end Situation

variable {α β : Type} (around : Surroundings)

namespace Program

def run : Program α → Situation → α × Situation
  | .done value, s => (value, s)
  | .perform effect follow, s => (follow (s.answer around effect)).run (s.next around effect)

/-- A run that is cut off after so many effects, unless the program has ended by then. -/
def runWithin : Nat → Program α → Situation → Option α × Situation
  | _, .done value, s => (some value, s)
  | 0, .perform _ _, s => (none, s)
  | effects + 1, .perform effect follow, s =>
      runWithin effects (follow (s.answer around effect)) (s.next around effect)

def within : Nat → Program α → Program (Option α)
  | _, .done value => .done (some value)
  | 0, .perform _ _ => .done none
  | effects + 1, .perform effect follow => .perform effect fun answer => (follow answer).within effects

def Lasts : Nat → Program α → Prop
  | _, .done _ => True
  | 0, .perform _ _ => False
  | effects + 1, .perform _ follow => ∀ answer, (follow answer).Lasts effects

@[simp] theorem run_done (value : α) (s : Situation) :
    (Program.done value).run around s = (value, s) := rfl

@[simp] theorem run_pure (value : α) (s : Situation) :
    (pure value : Program α).run around s = (value, s) := rfl

@[simp] theorem run_ask (effect : Effect) (s : Situation) :
    (ask effect).run around s = (s.answer around effect, s.next around effect) := rfl

@[simp] theorem run_bind (program : Program α) (follow : α → Program β) (s : Situation) :
    (program >>= follow).run around s =
      (follow (program.run around s).1).run around (program.run around s).2 := by
  change (program.bind follow).run around s = _
  induction program generalizing s with
  | done value => rfl
  | perform effect next ih => exact ih _ _

@[simp] theorem run_map (f : α → β) (program : Program α) (s : Situation) :
    (f <$> program).run around s = (f (program.run around s).1, (program.run around s).2) := by
  rw [map_eq_pure_bind, run_bind, run_pure]

theorem run_within (effects : Nat) (program : Program α) (s : Situation) :
    (program.within effects).run around s = program.runWithin around effects s := by
  induction effects generalizing program s with
  | zero => cases program <;> rfl
  | succ effects ih =>
      cases program with
      | done value => rfl
      | perform effect follow => exact ih _ _

theorem lasts_within (effects : Nat) (program : Program α) : (program.within effects).Lasts effects := by
  induction effects generalizing program with
  | zero => cases program <;> trivial
  | succ effects ih =>
      cases program with
      | done value => trivial
      | perform effect follow => exact fun answer => ih _

theorem Lasts.more {effects : Nat} {program : Program α} (lasts : program.Lasts effects) (more : Nat) :
    program.Lasts (effects + more) := by
  induction effects generalizing program with
  | zero =>
      cases program with
      | done value => cases more <;> trivial
      | perform effect follow => cases lasts
  | succ effects ih =>
      rw [Nat.succ_add]
      cases program with
      | done value => trivial
      | perform effect follow => exact fun answer => ih (lasts answer)

theorem Lasts.bind {effects more : Nat} {program : Program α} {follow : α → Program β}
    (first : program.Lasts effects) (later : ∀ value, (follow value).Lasts more) :
    (program >>= follow).Lasts (effects + more) := by
  change (program.bind follow).Lasts _
  induction effects generalizing program with
  | zero =>
      cases program with
      | done value => exact (Nat.zero_add more).symm ▸ later value
      | perform effect next => cases first
  | succ effects ih =>
      cases program with
      | done value =>
          rw [Nat.add_comm]
          exact (later value).more _
      | perform effect next =>
          rw [Nat.succ_add]
          exact fun answer => ih (first answer)

end Program

namespace Operation

def outcome (operation : Operation α) (s : Situation) : Except ServiceError α × Situation :=
  Program.run around operation.run s

@[simp] theorem outcome_pure (value : α) (s : Situation) :
    outcome around (pure value : Operation α) s = (.ok value, s) := rfl

@[simp] theorem outcome_throw (fault : ServiceError) (s : Situation) :
    outcome around (throw fault : Operation α) s = (.error fault, s) := rfl

theorem outcome_bind (operation : Operation α) (follow : α → Operation β) (s : Situation) :
    outcome around (operation >>= follow) s =
      match outcome around operation s with
      | (.ok value, s') => outcome around (follow value) s'
      | (.error fault, s') => (.error fault, s') := by
  unfold outcome
  rw [ExceptT.run_bind, Program.run_bind]
  rcases Program.run around operation.run s with ⟨result, s'⟩
  cases result <;> rfl

@[simp] theorem outcome_lift (program : Program α) (s : Situation) :
    outcome around (ExceptT.lift program) s =
      (.ok (program.run around s).1, (program.run around s).2) := by
  unfold outcome
  rw [ExceptT.run_lift]
  exact Program.run_bind around program _ s

@[simp] theorem outcome_ask (effect : Effect) (s : Situation) :
    outcome around (ask effect) s = (.ok (s.answer around effect), s.next around effect) :=
  outcome_lift around _ s

@[simp] theorem outcome_liftM (result : Except ServiceError α) (s : Situation) :
    outcome around (liftM result : Operation α) s = (result, s) := rfl

@[simp] theorem outcome_store (call : StoreCall) (s : Situation) :
    outcome around (store call) s =
      ((s.memory.perform call).1.mapError .ofStore, s.next around (.store call)) := by
  unfold store
  rw [outcome_bind, outcome_ask]
  change outcome around (match (s.memory.perform call).1 with
    | .ok value => pure value
    | .error fault => throw (.ofStore fault)) _ = _
  cases (s.memory.perform call).1 <;> rfl

end Operation

end Larder
