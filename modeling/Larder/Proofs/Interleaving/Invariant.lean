import Larder.Proofs.Interleaving.Calls
import Larder.Proofs.Interleaving.Operations
import Larder.Proofs.Interleaving.Pool
import Mathlib.Data.List.Forall2
import Mathlib.Logic.Relation

/-!
# The invariant of tasks that share a store

In a sound pool the store is fit, every task obeys, and the ids of all rows together with those that
tasks hold are ids that were made, none of them counted more often than it was made. Every step keeps a
pool sound, whichever task takes it, and takes each job at most one lawful step further
(`Pool.Sound.step`).
-/

namespace Larder.Interleaving

def Task.Obeys (held : Option Uuid) : Task → Prop
  | .operation program => program.Obeys (fun _ _ => True) held
  | .processing _ program => program.Obeys (fun _ _ => True) held

def heldIds (helds : List (Option Uuid)) : Multiset Uuid :=
  ↑(helds.flatMap Option.toList)

structure Pool.Sound (pool : Pool) (helds : List (Option Uuid)) : Prop where
  fit : pool.memory.Fit
  tasks : List.Forall₂ Task.Obeys helds pool.tasks
  ids : pool.memory.ids + heldIds helds ≤ pool.issued

theorem heldIds_append (first second : List (Option Uuid)) :
    heldIds (first ++ second) = heldIds first + heldIds second := by
  unfold heldIds
  rw [List.flatMap_append, ← Multiset.coe_add]

theorem heldIds_split (before after : List (Option Uuid)) (held : Option Uuid) :
    heldIds (before ++ held :: after) = heldIds before + heldIds after + held.toList := by
  have front : heldIds (held :: after) = held.toList + heldIds after := by
    unfold heldIds
    rw [List.flatMap_cons, ← Multiset.coe_add]
  rw [heldIds_append, front]
  abel

theorem heldIds_snoc (helds : List (Option Uuid)) : heldIds (helds ++ [none]) = heldIds helds :=
  (heldIds_append helds [none]).trans (add_zero _)

/-! ## Tasks -/

theorem Task.ofOperation_obeys {α : Type} {operation : Operation α} {held : Option Uuid}
    (conforms : operation.Conforms held) : (Task.ofOperation operation).Obeys held := by
  apply conforms.run.bind
  exact fun _ _ _ => Program.obeys_pure trivial

theorem Request.task_obeys (settings : IngestSettings) (request : Request) (held : Option Uuid) :
    (request.task settings).Obeys held := by
  cases request with
  | createJob submission => exact Task.ofOperation_obeys (Service.createJob_conforms submission)
  | submit submission => exact Task.ofOperation_obeys (Service.submit_conforms submission)
  | process jobId text => exact (Service.processJob_conforms settings jobId text).run
  | processAlone jobId text =>
      exact Task.ofOperation_obeys (Service.processJob_conforms settings jobId text)
  | getJob jobId => exact Task.ofOperation_obeys (Service.getJob_conforms jobId)
  | edit jobId stagedItemId change =>
      exact Task.ofOperation_obeys (Service.editItem_conforms jobId stagedItemId change)
  | confirm jobId overrides =>
      exact Task.ofOperation_obeys (Service.confirmJob_conforms jobId overrides)
  | addItem addition => exact Task.ofOperation_obeys (Service.addItem_conforms settings addition)
  | listItems => exact Task.ofOperation_obeys Service.listItems_conforms
  | deleteItem id => exact Task.ofOperation_obeys (Service.deleteItem_conforms id)
  | reset => exact Task.ofOperation_obeys Service.reset_conforms

theorem Task.Obeys.asks {task : Task} {held : Option Uuid} {effect : Effect}
    {next : effect.Answer → Task} (obeys : task.Obeys held) (asks : task.Asks effect next) :
    Permits held effect ∧
      ∀ answer, Expects effect answer → (next answer).Obeys (heldAfter held effect answer) := by
  cases asks with
  | operation next => exact Program.obeys_perform.mp obeys
  | processing jobId next => exact Program.obeys_perform.mp obeys

theorem Task.Ends.obeys {settings : IngestSettings} {task ending : Task} (ends : task.Ends settings ending)
    (held : Option Uuid) : ending.Obeys held := by
  cases ends with
  | finished jobId outcome => exact Service.settle_obeys jobId outcome
  | cutOff jobId next => exact Service.settle_obeys jobId _

/-! ## Steps -/

variable {settings : IngestSettings}

theorem split_helds {helds : List (Option Uuid)} {before after : List Task} {task : Task}
    (obey : List.Forall₂ Task.Obeys helds (before ++ task :: after)) :
    ∃ first held last, helds = first ++ held :: last ∧ List.Forall₂ Task.Obeys first before ∧
      task.Obeys held ∧ List.Forall₂ Task.Obeys last after := by
  have front := List.forall₂_take_append _ _ _ obey
  have back := List.forall₂_drop_append _ _ _ obey
  obtain ⟨held, last, obeys, later, split⟩ := List.forall₂_cons_right_iff.mp back
  refine ⟨helds.take before.length, held, last, ?_, front, obeys, later⟩
  rw [← split, List.take_append_drop]

theorem forall₂_split {first last : List (Option Uuid)} {held : Option Uuid} {before after : List Task}
    {task : Task} (front : List.Forall₂ Task.Obeys first before) (obeys : task.Obeys held)
    (back : List.Forall₂ Task.Obeys last after) :
    List.Forall₂ Task.Obeys (first ++ held :: last) (before ++ task :: after) :=
  List.rel_append front (.cons obeys back)

namespace Pool.Sound

variable {pool next : Pool} {helds : List (Option Uuid)}

theorem start (sound : pool.Sound helds) (request : Request) :
    Pool.Sound { pool with tasks := pool.tasks ++ [request.task settings] } (helds ++ [none]) := by
  constructor
  case fit => exact sound.fit
  case tasks => exact List.rel_append sound.tasks (.cons (request.task_obeys settings none) .nil)
  case ids =>
    rw [heldIds_snoc]
    exact sound.ids

theorem replace {first last : List (Option Uuid)} {held : Option Uuid} {before after : List Task}
    {ending : Task} (sound : pool.Sound (first ++ held :: last))
    (front : List.Forall₂ Task.Obeys first before) (obeys : ending.Obeys held)
    (back : List.Forall₂ Task.Obeys last after) :
    Pool.Sound { pool with tasks := before ++ ending :: after } (first ++ held :: last) :=
  ⟨sound.fit, forall₂_split front obeys back, sound.ids⟩

theorem perform {first last : List (Option Uuid)} {held : Option Uuid} {before after : List Task}
    {effect : Effect} {rest : Task} {answer : effect.Answer}
    (sound : pool.Sound (first ++ held :: last)) (front : List.Forall₂ Task.Obeys first before)
    (permitted : Permits held effect) (answers : pool.MayAnswer effect answer)
    (obeys : rest.Obeys (heldAfter held effect answer)) (back : List.Forall₂ Task.Obeys last after) :
    ∃ helds, Pool.Sound
      ({ pool with tasks := before ++ rest :: after }.after settings effect answer) helds := by
  -- Of the ids that are held only those of the task itself can change: it may get a new one, or give
  -- the one it has to a row.
  have counted := sound.ids
  rw [heldIds_split] at counted
  have tasks := forall₂_split front obeys back
  cases effect with
  | store call =>
      refine ⟨_, fit_perform sound.fit permitted, tasks, ?_⟩
      rw [heldIds_split]
      have stored := ids_perform (m := pool.memory) permitted answer
      calc (pool.memory.perform call).2.ids +
            (heldIds first + heldIds last + (heldAfter held (.store call) answer).toList)
          = (pool.memory.perform call).2.ids + (heldAfter held (.store call) answer).toList +
              (heldIds first + heldIds last) := by abel
        _ ≤ pool.memory.ids + held.toList + (heldIds first + heldIds last) := by gcongr
        _ = pool.memory.ids + (heldIds first + heldIds last + held.toList) := by abel
        _ ≤ pool.issued := counted
  | newId kind =>
      refine ⟨_, sound.fit, tasks, ?_⟩
      rw [heldIds_split]
      calc pool.memory.ids + (heldIds first + heldIds last + {answer})
          = pool.memory.ids + (heldIds first + heldIds last) + {answer} := by abel
        _ ≤ pool.memory.ids + (heldIds first + heldIds last + held.toList) + {answer} := by
            gcongr pool.memory.ids + ?_ + _
            exact Multiset.le_add_right _ _
        _ ≤ pool.issued + {answer} := by gcongr
        _ = ↑(answer :: pool.issued) := by rw [add_comm]; rfl
  | process jobId text =>
      refine ⟨(first ++ held :: last) ++ [none], sound.fit, ?_, ?_⟩
      · exact List.rel_append tasks (.cons (Request.task_obeys settings _ none) .nil)
      · rw [heldIds_snoc, heldIds_split]
        exact counted
  | extract text budget | resolve name budget | publish ids | now =>
      refine ⟨_, sound.fit, tasks, ?_⟩
      rw [heldIds_split]
      exact counted

theorem step (sound : pool.Sound helds) (taken : Step settings pool next) :
    (∃ helds', next.Sound helds') ∧ ∀ id, JobMove (pool.memory.job? id) (next.memory.job? id) := by
  cases taken with
  | start request => exact ⟨⟨_, sound.start request⟩, fun id => .stays _⟩
  | @perform before after task effect rest answer split asks answers =>
      obtain ⟨first, held, last, rfl, front, obeys, back⟩ := split_helds (split ▸ sound.tasks)
      obtain ⟨permitted, continues⟩ := obeys.asks asks
      -- Tasks expect something of the store's answers only, and those come from a fit store.
      have expected : Expects effect answer := by
        cases effect with
        | store call =>
            obtain rfl : answer = (pool.memory.perform call).1 := answers
            exact expects_perform sound.fit call
        | _ => trivial
      refine ⟨sound.perform front permitted answers (continues answer expected) back, fun id => ?_⟩
      cases effect with
      | store call => exact jobMove_perform permitted id
      | _ => exact .stays _
  | finish split ends =>
      obtain ⟨first, held, last, rfl, front, _, back⟩ := split_helds (split ▸ sound.tasks)
      exact ⟨⟨_, sound.replace front (ends.obeys held) back⟩, fun id => .stays _⟩

end Pool.Sound

theorem initial_sound (failUpsertsAfter : Option Nat) (failStagedInserts : Bool) :
    (Pool.initial failUpsertsAfter failStagedInserts).Sound [] := by
  constructor
  case fit =>
    constructor
    case onePerIngredient => exact List.nodup_nil
    case pantry | jobs | staged | owners => exact fun _ member => nomatch member
  case tasks => exact .nil
  case ids => exact le_refl _

theorem sound_of_reachable {failUpsertsAfter : Option Nat} {failStagedInserts : Bool} {pool : Pool}
    (reach : Relation.ReflTransGen (Step settings) (Pool.initial failUpsertsAfter failStagedInserts)
      pool) : ∃ helds, pool.Sound helds := by
  induction reach with
  | refl => exact ⟨[], initial_sound _ _⟩
  | tail _ taken ih =>
      obtain ⟨helds, sound⟩ := ih
      exact (sound.step taken).1

end Larder.Interleaving
