import Larder.Proofs.Service.Accounts
import Larder.Proofs.Service.Twins

namespace Larder.Service
open Interleaving

variable {α : Type}

/-- An event without the answer of the publisher. -/
def hushed : Event → Event
  | ⟨.publish ids, _⟩ => ⟨.publish ids, .ok ()⟩
  | event => event

abbrev Publisher := List Event → List Uuid → Except ServiceError Unit

/-- Surroundings in which nothing but the programs hears what the publisher answers. -/
def withPublisher (world : Surroundings) (publisher : Publisher) : Surroundings := fun past effect =>
  match effect with
  | .publish ids => publisher past ids
  | effect => world (past.map hushed) effect

def overheard : Likeness :=
  ⟨fun effect effect' => effect = effect', fun event event' => hushed event = hushed event'⟩

def IsUnpublished : Effect → Prop
  | .publish _ => False
  | _ => True

theorem eq_of_hushed {effect : Effect} (unpublished : IsUnpublished effect) {answer answer' : effect.Answer}
    (same : hushed ⟨effect, answer⟩ = hushed ⟨effect, answer'⟩) : answer = answer' := by
  cases effect with
  | publish => cases unpublished
  | _ => exact eq_of_heq (Sigma.mk.inj same).2

theorem unpublished_twins {operation : Operation α} (uses : operation.Uses IsUnpublished) :
    operation.Twins overheard Eq operation :=
  uses.twins (fun _ _ => rfl) fun _ _ _ unpublished same => eq_of_hushed unpublished same

theorem unpublished_of_quiet {effect : Effect} (quiet : IsQuiet effect) : IsUnpublished effect := by
  cases effect with
  | publish => cases quiet
  | _ => trivial

theorem quiet_twins {operation : Operation α} (uses : operation.Uses IsQuiet) :
    operation.Twins overheard Eq operation :=
  unpublished_twins (uses.mono fun _ => unpublished_of_quiet)

theorem unpublished_of_writes {effect : Effect} (writes : Writes effect) : IsUnpublished effect := by
  cases writes <;> trivial

theorem publish_twins (ids : List Uuid) : (publish ids).Twins overheard Eq (publish ids) := by
  have asks : (Operation.ask (.publish ids)).Twins overheard (fun _ _ => True)
      (Operation.ask (.publish ids)) := Operation.twins_ask _ _ rfl fun _ _ _ => trivial
  unfold publish
  apply asks.bind
  exact fun _ _ _ => Operation.twins_pure rfl

theorem conclude_twins (jobId : Uuid) (written : Written) :
    (conclude jobId written).Twins overheard Eq (conclude jobId written) := by
  have publishes : (publishWritten written.itemIds).Twins overheard Eq (publishWritten written.itemIds) := by
    unfold publishWritten
    split
    · exact Operation.twins_pure rfl
    · exact publish_twins _
  unfold conclude
  apply publishes.bind
  intro _ _ _
  split
  · exact Operation.twins_throw rfl
  · apply (quiet_twins ((transition_uses jobId .staged .confirmed none).mono fun _ => quiet_of_moves)).bind
    rintro moved _ rfl
    split
    · exact Operation.twins_pure rfl
    · exact Operation.twins_throw rfl

theorem confirmJob_twins (jobId : Uuid) (overrides : List Override) :
    (confirmJob jobId overrides).Twins overheard Eq (confirmJob jobId overrides) := by
  have lists : (Operation.store (.listStaged jobId)).Uses IsQuiet := Operation.uses_store trivial
  unfold confirmJob
  apply (quiet_twins ((loadJob_uses jobId).mono fun _ => quiet_of_reads)).bind
  rintro job _ rfl
  apply (quiet_twins (requireStaged_uses job "confirm")).bind
  intro _ _ _
  apply (quiet_twins lists).bind
  rintro items _ rfl
  apply (quiet_twins (Operation.uses_liftM _)).bind
  intro _ _ _
  have writes : (writeAll overrides items).Uses IsUnpublished :=
    (writeAll_uses overrides items).mono fun _ => unpublished_of_writes
  apply (unpublished_twins (Operation.uses_lift writes)).bind
  rintro written _ rfl
  exact conclude_twins jobId written

theorem addItem_twins (settings : IngestSettings) (addition : Addition) :
    (addItem settings addition).Twins overheard Eq (addItem settings addition) := by
  unfold addItem
  apply (quiet_twins (Operation.uses_check _)).bind
  intro _ _ _
  apply (quiet_twins (Operation.uses_check _)).bind
  intro _ _ _
  apply (quiet_twins (Operation.uses_liftM _)).bind
  rintro expiresAt _ rfl
  apply (quiet_twins ((namedIngredient_uses settings addition).mono fun _ => quiet_of_resolves)).bind
  rintro ingredientId _ rfl
  apply (unpublished_twins ((writeItem_uses ingredientId _ _ expiresAt).mono
    fun _ => unpublished_of_writes)).bind
  rintro row _ rfl
  apply (publish_twins [row.id]).bind
  exact fun _ _ _ => Operation.twins_pure rfl

theorem deleteItem_twins (id : Uuid) : (deleteItem id).Twins overheard Eq (deleteItem id) := by
  have removes : (Operation.store (.deleteItem id)).Uses IsUnpublished := Operation.uses_store trivial
  unfold deleteItem
  apply (unpublished_twins removes).bind
  exact fun _ _ _ => publish_twins [id]

theorem reset_twins : reset.Twins overheard Eq reset := by
  have removes : (Operation.store .deleteAllItems).Uses IsUnpublished := Operation.uses_store trivial
  unfold reset
  apply (unpublished_twins removes).bind
  rintro removed _ rfl
  apply (publish_twins []).bind
  exact fun _ _ _ => Operation.twins_pure rfl

theorem run_twins {operation : Operation α} (twins : operation.Twins overheard Eq operation) :
    operation.run.Twins overheard Eq operation.run :=
  twins.run.mono fun _ _ => bothEnd_eq

theorem quietRun_twins {program : Program α} (uses : program.Uses IsQuiet) :
    program.Twins overheard Eq program :=
  uses.twins (fun _ _ => rfl) fun _ _ _ quiet => eq_of_hushed (unpublished_of_quiet quiet)

theorem program_twins (settings : IngestSettings) (effects : Nat) (request : Request) :
    (request.program settings effects).Twins overheard Eq (request.program settings effects) := by
  cases request with
  | createJob submission =>
      exact quietRun_twins ((createJob_uses submission).run.mono fun _ => quiet_of_creates)
  | submit submission => exact quietRun_twins ((submit_uses submission).run.mono fun _ => quiet_of_creates)
  | process jobId text => exact quietRun_twins ((processWithin_uses effects).mono fun _ => quiet_of_processes)
  | processAlone jobId text =>
      exact quietRun_twins ((processJob_uses settings jobId text).mono fun _ => quiet_of_processes)
  | getJob jobId => exact quietRun_twins ((getJob_uses jobId).run.mono fun _ => quiet_of_reads)
  | edit jobId stagedItemId change =>
      exact quietRun_twins ((editItem_uses jobId stagedItemId change).run.mono fun _ => quiet_of_edits)
  | listItems =>
      have lists : Service.listItems.Uses IsQuiet := Operation.uses_store trivial
      exact quietRun_twins lists.run
  | confirm jobId overrides => exact run_twins (confirmJob_twins jobId overrides)
  | addItem addition => exact run_twins (addItem_twins settings addition)
  | deleteItem id => exact run_twins (deleteItem_twins id)
  | reset => exact run_twins reset_twins

/-! ## Two publishers -/

structure SameBut (s s' : Situation) : Prop where
  memory : s.memory = s'.memory
  past : s.past.map hushed = s'.past.map hushed

variable {settings : IngestSettings} {world : Surroundings} {publisher publisher' : Publisher}
  {s s' : Situation}

theorem SameBut.next (same : SameBut s s') (effect : Effect) :
    hushed ⟨effect, s.answer (withPublisher world publisher) effect⟩ =
        hushed ⟨effect, s'.answer (withPublisher world publisher') effect⟩ ∧
      SameBut (s.next (withPublisher world publisher) effect)
        (s'.next (withPublisher world publisher') effect) := by
  obtain ⟨memory, past⟩ := s
  obtain ⟨memory', past'⟩ := s'
  obtain ⟨rfl, samePast⟩ := same
  dsimp only at samePast
  have hears : hushed ⟨effect, Situation.answer (withPublisher world publisher) ⟨memory, past⟩ effect⟩ =
      hushed ⟨effect, Situation.answer (withPublisher world publisher') ⟨memory, past'⟩ effect⟩ := by
    cases effect with
    | store | publish => rfl
    | _ => simp only [Situation.answer, withPublisher, samePast]
  refine ⟨hears, ?_, ?_⟩
  · cases effect <;> rfl
  · simp only [Situation.next, List.map_append, List.map_cons, List.map_nil, samePast, hears]

end Larder.Service
