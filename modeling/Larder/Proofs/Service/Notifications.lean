import Larder.Proofs.Service.Publisher

namespace Larder.Service
open Interleaving

/-- A request to be served. The number of effects counts for background processing only. -/
structure Turn where
  request : Request
  effects : Nat

structure Served where
  request : Request
  value : request.Value
  events : List Event

def serve (settings : IngestSettings) (around : Surroundings) (turn : Turn) (s : Situation) :
    Served × Situation :=
  let ran := (turn.request.program settings turn.effects).run around s
  (⟨turn.request, ran.1, ran.2.past.drop s.past.length⟩, ran.2)

def serveAll (settings : IngestSettings) (around : Surroundings) :
    List Turn → Situation → List Served × Situation
  | [], s => ([], s)
  | turn :: rest, s =>
      let first := serve settings around turn s
      let later := serveAll settings around rest first.2
      (first.1 :: later.1, later.2)

namespace Served

def IsReset : Served → Prop
  | ⟨.reset, .ok _, _⟩ => True
  | _ => False

structure Announces (served : Served) : Prop where
  inOrder : (published served.events).flatten = changedIds served.events
  once : (published served.events).length ≤ 1
  reset : served.IsReset → published served.events = [[]]
  empty : [] ∈ published served.events → served.IsReset
  quiet : changedIds served.events = [] → ¬ served.IsReset → published served.events = []

theorem announces_of_told {served : Served} (unreset : ¬ served.IsReset)
    (told : (⟨changedIds served.events, published served.events⟩ : Account).Told) : served.Announces := by
  have batches : published served.events =
      if changedIds served.events = [] then [] else [changedIds served.events] := told
  constructor
  case reset => exact fun isReset => absurd isReset unreset
  all_goals
    rw [batches]
    split
  · rename_i none
    exact none.symm
  · exact List.flatten_singleton
  · exact Nat.zero_le _
  · exact Nat.le_refl _
  · exact fun member => nomatch member
  · rename_i some
    exact fun member => absurd (List.mem_singleton.mp member).symm some
  · exact fun _ _ => rfl
  · rename_i some
    exact fun none => absurd none some

theorem announces_of_tells {served : Served}
    (tells : Tells served.request served.value ⟨changedIds served.events, published served.events⟩) :
    served.Announces := by
  obtain ⟨request, value, events⟩ := served
  cases request with
  | reset =>
      cases value with
      | ok count =>
          obtain ⟨unchanged, batches⟩ := Account.mk.inj tells
          have isReset : IsReset ⟨.reset, .ok count, events⟩ := trivial
          constructor
          case reset => exact fun _ => batches
          case empty => exact fun _ => isReset
          case quiet => exact fun _ unreset => absurd isReset unreset
          case inOrder => rw [batches, unchanged]; rfl
          case once => rw [batches]; exact Nat.le_refl _
      | error fault => exact announces_of_told id tells
  | _ => exact announces_of_told id tells

end Served

theorem serve_announces (settings : IngestSettings) (around : Surroundings) (turn : Turn) (s : Situation) :
    (serve settings around turn s).2.past = s.past ++ (serve settings around turn s).1.events ∧
      (serve settings around turn s).1.Announces := by
  obtain ⟨events, past, _, tells⟩ :=
    (program_tells settings turn.effects turn.request).run_accepts around s
  have done : (serve settings around turn s).1.events = events := by
    unfold serve
    dsimp only
    rw [past, List.drop_left]
  rw [accounting_after, ← done] at tells
  exact ⟨by rw [done]; exact past, Served.announces_of_tells tells⟩

structure MirrorsChanges (s : Situation) (run : List Served × Situation) : Prop where
  past : run.2.past = s.past ++ run.1.flatMap (·.events)
  inOrder : (published (run.1.flatMap (·.events))).flatten = changedIds (run.1.flatMap (·.events))
  each : ∀ served ∈ run.1, served.Announces

theorem serveAll_mirrorsChanges (settings : IngestSettings) (around : Surroundings) (turns : List Turn)
    (s : Situation) : MirrorsChanges s (serveAll settings around turns s) := by
  induction turns generalizing s with
  | nil => exact ⟨(List.append_nil _).symm, rfl, fun _ member => nomatch member⟩
  | cons turn rest ih =>
      obtain ⟨firstPast, announces⟩ := serve_announces settings around turn s
      have later := ih (serve settings around turn s).2
      unfold serveAll
      dsimp only
      constructor
      case past =>
        dsimp only
        rw [later.past, firstPast, List.flatMap_cons, List.append_assoc]
      case inOrder =>
        have batches (first rest : List Event) : (published (first ++ rest)).flatten =
            (published first).flatten ++ (published rest).flatten := by simp [published]
        have changes (first rest : List Event) : changedIds (first ++ rest) =
            changedIds first ++ changedIds rest := List.flatMap_append
        dsimp only
        rw [List.flatMap_cons, batches, changes, announces.inOrder, later.inOrder]
      case each => exact List.forall_mem_cons.mpr ⟨announces, later.each⟩

/-! ## Two publishers -/

variable {settings : IngestSettings} {world : Surroundings} {publisher publisher' : Publisher}
  {s s' : Situation}

def Served.hushed (served : Served) : Served :=
  { served with events := served.events.map Service.hushed }

theorem SameBut.serve (same : SameBut s s') (turn : Turn) :
    (serve settings (withPublisher world publisher) turn s).1.hushed =
        (serve settings (withPublisher world publisher') turn s').1.hushed ∧
      SameBut (serve settings (withPublisher world publisher) turn s).2
        (serve settings (withPublisher world publisher') turn s').2 := by
  have step (s s' : Situation) (effect effect' : Effect) (asks : overheard.asks effect effect')
      (same : SameBut s s') : overheard.hears ⟨effect, s.answer (withPublisher world publisher) effect⟩
          ⟨effect', s'.answer (withPublisher world publisher') effect'⟩ ∧
        SameBut (s.next (withPublisher world publisher) effect)
          (s'.next (withPublisher world publisher') effect') := by
    obtain rfl : effect = effect' := asks
    exact same.next effect
  obtain ⟨value, later⟩ := (program_twins settings turn.effects turn.request).run _ _ SameBut step same
  have lengths : s.past.length = s'.past.length := by
    rw [← List.length_map, same.past, List.length_map]
  refine ⟨?_, later⟩
  unfold Service.serve Served.hushed
  dsimp only
  rw [value, List.map_drop, List.map_drop, later.past, lengths]

theorem SameBut.serveAll (same : SameBut s s') (turns : List Turn) :
    (serveAll settings (withPublisher world publisher) turns s).1.map (·.hushed) =
        (serveAll settings (withPublisher world publisher') turns s').1.map (·.hushed) ∧
      SameBut (serveAll settings (withPublisher world publisher) turns s).2
        (serveAll settings (withPublisher world publisher') turns s').2 := by
  induction turns generalizing s s' with
  | nil => exact ⟨rfl, same⟩
  | cons turn rest ih =>
      obtain ⟨first, stillSame⟩ := same.serve turn
      obtain ⟨later, last⟩ := ih stillSame
      refine ⟨?_, last⟩
      unfold Service.serveAll
      dsimp only
      rw [List.map_cons, List.map_cons, first, later]

/-- In a run of requests one after another, each request publishes all its changes in one batch, only a reset
publishes an empty one, and without a change nothing is published. With another publisher every request is
told the same and does the same, and the store is the same in the end. -/
theorem serveAll_mirrors (settings : IngestSettings) (turns : List Turn) (s : Situation) :
    (∀ around, MirrorsChanges s (serveAll settings around turns s)) ∧
      ∀ world publisher publisher',
        (serveAll settings (withPublisher world publisher) turns s).1.map (·.hushed) =
            (serveAll settings (withPublisher world publisher') turns s).1.map (·.hushed) ∧
          (serveAll settings (withPublisher world publisher) turns s).2.memory =
            (serveAll settings (withPublisher world publisher') turns s).2.memory := by
  refine ⟨fun around => serveAll_mirrorsChanges settings around turns s, fun world publisher publisher' => ?_⟩
  have same : SameBut s s := ⟨rfl, rfl⟩
  obtain ⟨served, last⟩ := same.serveAll turns
  exact ⟨served, last.memory⟩

end Larder.Service
