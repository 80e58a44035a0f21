import Larder.Proofs.Store.Constraints
import Larder.Proofs.Store.Jobs
import Larder.Proofs.Store.Listing
import Larder.Proofs.Store.Writes

namespace Larder

namespace StoreCall

/-- What each row that a call adds or changes has to be, for rows of some kind to stay of this kind. -/
def Brings (pantry : PantryItem → Prop) (jobs : Job → Prop) (staged : StagedItem → Prop) :
    StoreCall → Prop
  | .upsertItem w => pantry (.ofWrite w) ∧ ∀ item, pantry item → pantry (item.replaced w)
  | .insertJob job => jobs job
  | .transition t => ∀ job, jobs job → jobs (job.apply t)
  | .insertStaged item => staged item
  | .updateStaged item => ∀ stored, staged stored → staged (Memory.editedRow item stored)
  | .deleteItem _ | .deleteAllItems | .listItems | .getJob _ | .listStaged _ => True

def IsBounded : StoreCall → Prop
  | .upsertItem w => Sql.Bound.notNegative.admits (.double w.quantity) = true
  | .insertJob job => job.IsBounded
  | .transition t => statusBound.admits (.text t.target) = true
  | .insertStaged item => item.IsBounded
  | .updateStaged item => Sql.Bound.notNegative.admits (.double item.quantity) = true
  | .deleteItem _ | .deleteAllItems | .listItems | .getJob _ | .listStaged _ => True

def IsFresh (m : Memory) : StoreCall → Prop
  | .upsertItem w => w.ingredientId ∉ m.pantry.map (·.ingredientId) → w.itemId ∉ m.pantry.map (·.id)
  | .insertStaged item => item.id ∉ m.staged.map (·.id)
  | _ => True

theorem IsBounded.brings {call : StoreCall} (bounded : call.IsBounded) :
    call.Brings PantryItem.IsBounded Job.IsBounded StagedItem.IsBounded := by
  cases call with
  | upsertItem w => exact ⟨bounded, fun _ _ => bounded⟩
  | insertJob job => exact bounded
  | transition t => exact fun _ _ => bounded
  | insertStaged item => exact bounded
  | updateStaged item => exact fun _ stored => ⟨bounded, stored.2⟩
  | deleteItem | deleteAllItems | listItems | getJob | listStaged => trivial

end StoreCall

namespace Memory

variable {m m' : Memory}

section
variable {items : PantryItem → Prop} {jobs : Job → Prop} {staged : StagedItem → Prop}

theorem Throughout.perform (all : m.Throughout items jobs staged) {call : StoreCall}
    (brings : call.Brings items jobs staged) : (m.perform call).2.Throughout items jobs staged := by
  cases call with
  | upsertItem w =>
      rcases upsertItem_cases m w with
        ⟨_, done⟩ | ⟨_, before, item, after, split, _, _, done⟩ | ⟨_, _, done⟩
      · rw [Memory.perform, done]
        exact { all with }
      · have old := all.pantry
        rw [split, List.forall_mem_append, List.forall_mem_cons] at old
        rw [Memory.perform, done]
        refine { all with pantry := List.forall_mem_append.mpr ⟨old.1, ?_⟩ }
        exact List.forall_mem_cons.mpr ⟨brings.2 item old.2.1, old.2.2⟩
      · rw [Memory.perform, done]
        refine { all with pantry := List.forall_mem_append.mpr ⟨all.pantry, ?_⟩ }
        exact List.forall_mem_singleton.mpr brings.1
  | deleteItem id =>
      obtain ⟨rows, fewer, done⟩ := deleteItem_cases m id
      rw [Memory.perform, done]
      exact { all with pantry := fun item there => all.pantry item (fewer.subset there) }
  | deleteAllItems => exact { all with pantry := fun _ there => nomatch there }
  | insertJob job =>
      rcases insertJob_cases m job with ⟨_, done⟩ | ⟨_, done, _⟩
      · rw [Memory.perform, done]
        exact all
      · rw [Memory.perform, done]
        refine { all with jobs := List.forall_mem_append.mpr ⟨all.jobs, ?_⟩ }
        exact List.forall_mem_singleton.mpr brings
  | transition t =>
      rcases transition_cases m t with ⟨_, after, _, _, done, rfl, _⟩ | ⟨done, _⟩
      · rw [Memory.perform, done]
        refine { all with jobs := ?_ }
        intro job there
        rcases mem_replaceFirst there with kept | ⟨old, present, _, rfl⟩
        · exact all.jobs job kept
        · exact brings old (all.jobs old present)
      · rw [Memory.perform, done]
        exact all
  | insertStaged item =>
      rcases insertStaged_cases m item with done | ⟨_, done⟩
      · rw [Memory.perform, done]
        exact all
      · rw [Memory.perform, done]
        refine { all with staged := List.forall_mem_append.mpr ⟨all.staged, ?_⟩ }
        exact List.forall_mem_singleton.mpr brings
  | updateStaged item =>
      rcases updateStaged_cases m item with done | done
      · rw [Memory.perform, done]
        exact all
      · rw [Memory.perform, done]
        refine { all with staged := ?_ }
        intro row there
        rcases mem_replaceFirst there with kept | ⟨old, present, _, rfl⟩
        · exact all.staged row kept
        · exact brings old (all.staged old present)
  | listItems | getJob | listStaged => exact all

end

/-! ## Rules -/

theorem nodup_concat {ids : List Uuid} {id : Uuid} (nodup : ids.Nodup) (fresh : id ∉ ids) :
    (ids ++ [id]).Nodup := by
  rw [← List.concat_eq_append]
  exact nodup.concat fresh

theorem KeepsRules.perform (rules : m.KeepsRules) {call : StoreCall} (bounded : call.IsBounded)
    (fresh : call.IsFresh m) : (m.perform call).2.KeepsRules := by
  have values := rules.bounded.perform bounded.brings
  cases call with
  | upsertItem w =>
      rcases upsertItem_cases m w with
        ⟨_, done⟩ | ⟨_, before, item, after, split, _, same, done⟩ | ⟨_, absent, done⟩
      · rw [Memory.perform, done] at values ⊢
        exact { rules with bounded := values }
      · have ids : (before ++ item.replaced w :: after).map (·.id) = m.pantry.map (·.id) := by
          simp [split, PantryItem.replaced]
        have ingredientIds : (before ++ item.replaced w :: after).map (·.ingredientId) =
            m.pantry.map (·.ingredientId) := by
          simp [split, PantryItem.replaced]
        rw [Memory.perform, done] at values ⊢
        exact {
          rules with
          itemIds := ids ▸ rules.itemIds
          ingredientIds := ingredientIds ▸ rules.ingredientIds
          bounded := values }
      · have unnamed : w.ingredientId ∉ m.pantry.map (·.ingredientId) := by
          rw [List.mem_map]
          rintro ⟨item, there, same⟩
          exact absent item there same
        rw [Memory.perform, done] at values ⊢
        refine { rules with itemIds := ?_, ingredientIds := ?_, bounded := values }
        · rw [List.map_append]
          exact nodup_concat rules.itemIds (fresh unnamed)
        · rw [List.map_append]
          exact nodup_concat rules.ingredientIds unnamed
  | deleteItem id =>
      obtain ⟨rows, fewer, done⟩ := deleteItem_cases m id
      rw [Memory.perform, done] at values ⊢
      exact {
        rules with
        itemIds := rules.itemIds.sublist (fewer.map _)
        ingredientIds := rules.ingredientIds.sublist (fewer.map _)
        bounded := values }
  | deleteAllItems => exact { rules with itemIds := .nil, ingredientIds := .nil, bounded := values }
  | insertJob job =>
      rcases insertJob_cases m job with ⟨_, done⟩ | ⟨absent, done, _⟩
      · rw [Memory.perform, done]
        exact rules
      · have unused : job.id ∉ m.jobs.map (·.id) := by
          rw [List.mem_map]
          rintro ⟨other, there, same⟩
          exact absurd same (by simpa using List.find?_eq_none.mp absent other there)
        rw [Memory.perform, done] at values ⊢
        refine { rules with jobIds := ?_, bounded := values, owners := ?_ }
        · rw [List.map_append]
          exact nodup_concat rules.jobIds unused
        · intro item there
          rw [List.map_append]
          exact List.mem_append_left _ (rules.owners item there)
  | transition t =>
      rcases transition_cases m t with ⟨_, after, _, _, done, rfl, _⟩ | ⟨done, _⟩
      · have ids : (replaceFirst (·.id == t.jobId) (·.apply t) m.jobs).map (·.id) =
            m.jobs.map (·.id) := by
          apply map_replaceFirst
          exact fun _ _ => rfl
        rw [Memory.perform, done] at values ⊢
        exact { rules with jobIds := ids ▸ rules.jobIds, bounded := values, owners := ids ▸ rules.owners }
      · rw [Memory.perform, done]
        exact rules
  | insertStaged item =>
      rcases insertStaged_cases m item with done | ⟨owned, done⟩
      · rw [Memory.perform, done]
        exact rules
      · have owner : item.jobId ∈ m.jobs.map (·.id) := by
          obtain ⟨job, found⟩ := Option.isSome_iff_exists.mp owned
          exact List.mem_map.mpr ⟨job, List.mem_of_find?_eq_some found, job?_id found⟩
        rw [Memory.perform, done] at values ⊢
        refine { rules with stagedIds := ?_, bounded := values, owners := ?_ }
        · rw [List.map_append]
          exact nodup_concat rules.stagedIds fresh
        · exact List.forall_mem_append.mpr ⟨rules.owners, List.forall_mem_singleton.mpr owner⟩
  | updateStaged item =>
      have owned : m.Throughout (fun _ => True) (fun _ => True) (·.jobId ∈ m.jobs.map (·.id)) :=
        ⟨fun _ _ => trivial, fun _ _ => trivial, rules.owners⟩
      have brings : (StoreCall.updateStaged item).Brings (fun _ => True) (fun _ => True)
        (·.jobId ∈ m.jobs.map (·.id)) := fun _ stored => stored
      have owners := (owned.perform brings).staged
      rcases updateStaged_cases m item with done | done
      · rw [Memory.perform, done]
        exact rules
      · have ids : (replaceFirst (sameStaged item) (editedRow item) m.staged).map (·.id) =
            m.staged.map (·.id) := by
          apply map_replaceFirst
          exact fun _ _ => rfl
        rw [Memory.perform, done] at values owners ⊢
        exact { rules with stagedIds := ids ▸ rules.stagedIds, bounded := values, owners := owners }
  | listItems | getJob | listStaged => exact rules

/-! ## The order of rows -/

structure SameRows (m m' : Memory) : Prop where
  pantry : m.pantry.Perm m'.pantry
  jobs : m.jobs.Perm m'.jobs
  staged : m.staged.Perm m'.staged

structure NeverFails (m : Memory) : Prop where
  upserts : m.failUpsertsAfter = none
  stagedInserts : m.failStagedInserts = false

theorem NeverFails.upsertFails (never : m.NeverFails) : m.upsertFails = false := by
  unfold Memory.upsertFails
  rw [never.upserts]

theorem NeverFails.perform (never : m.NeverFails) (call : StoreCall) : (m.perform call).2.NeverFails := by
  cases call with
  | upsertItem w =>
      rcases upsertItem_cases m w with ⟨_, done⟩ | ⟨_, _, _, _, _, _, _, done⟩ | ⟨_, _, done⟩ <;>
        rw [Memory.perform, done] <;> exact ⟨never.upserts, never.stagedInserts⟩
  | deleteItem id =>
      obtain ⟨rows, _, done⟩ := deleteItem_cases m id
      rw [Memory.perform, done]
      exact ⟨never.upserts, never.stagedInserts⟩
  | insertJob job =>
      rcases insertJob_cases m job with ⟨_, done⟩ | ⟨_, done, _⟩ <;>
        rw [Memory.perform, done] <;> exact ⟨never.upserts, never.stagedInserts⟩
  | transition t =>
      rcases transition_cases m t with ⟨_, _, _, _, done, rfl, _⟩ | ⟨done, _⟩ <;>
        rw [Memory.perform, done] <;> exact ⟨never.upserts, never.stagedInserts⟩
  | insertStaged item =>
      rcases insertStaged_cases m item with done | ⟨_, done⟩ <;>
        rw [Memory.perform, done] <;> exact ⟨never.upserts, never.stagedInserts⟩
  | updateStaged item =>
      rcases updateStaged_cases m item with done | done <;>
        rw [Memory.perform, done] <;> exact ⟨never.upserts, never.stagedInserts⟩
  | deleteAllItems | listItems | getJob | listStaged => exact ⟨never.upserts, never.stagedInserts⟩

theorem KeepsRules.atMostOne_ingredient (rules : m.KeepsRules) (i : Uuid) :
    AtMostOne (·.ingredientId == i) m.pantry :=
  atMostOne_of_nodup (k := i) rules.ingredientIds fun _ picked => by simpa using picked

theorem KeepsRules.atMostOne_job (rules : m.KeepsRules) (id : Uuid) : AtMostOne (·.id == id) m.jobs :=
  atMostOne_of_nodup (k := id) rules.jobIds fun _ picked => by simpa using picked

theorem KeepsRules.atMostOne_staged (rules : m.KeepsRules) (item : StagedItem) :
    AtMostOne (sameStaged item) m.staged := by
  apply atMostOne_of_nodup (k := item.id) rules.stagedIds
  intro stored picked
  rw [sameStaged, Bool.and_eq_true, beq_iff_eq] at picked
  exact picked.1

namespace SameRows

theorem symm (same : SameRows m m') : SameRows m' m :=
  ⟨same.pantry.symm, same.jobs.symm, same.staged.symm⟩

theorem throughout {items : PantryItem → Prop} {jobs : Job → Prop} {staged : StagedItem → Prop}
    (same : SameRows m m') (all : m.Throughout items jobs staged) : m'.Throughout items jobs staged where
  pantry item there := all.pantry item (same.pantry.mem_iff.mpr there)
  jobs job there := all.jobs job (same.jobs.mem_iff.mpr there)
  staged item there := all.staged item (same.staged.mem_iff.mpr there)

theorem keepsRules (same : SameRows m m') (rules : m.KeepsRules) : m'.KeepsRules where
  itemIds := (same.pantry.map _).nodup_iff.mp rules.itemIds
  ingredientIds := (same.pantry.map _).nodup_iff.mp rules.ingredientIds
  jobIds := (same.jobs.map _).nodup_iff.mp rules.jobIds
  stagedIds := (same.staged.map _).nodup_iff.mp rules.stagedIds
  bounded := same.throughout rules.bounded
  owners item there := (same.jobs.map _).mem_iff.mp (rules.owners item (same.staged.mem_iff.mpr there))

theorem job? (same : SameRows m m') (rules : m.KeepsRules) (id : Uuid) : m.job? id = m'.job? id :=
  find?_perm same.jobs (rules.atMostOne_job id)

theorem upsertItem (same : SameRows m m') (rules : m.KeepsRules) (never : m.NeverFails)
    (never' : m'.NeverFails) (w : PantryWrite) :
    (m.upsertItem w).1 = (m'.upsertItem w).1 ∧ SameRows (m.upsertItem w).2 (m'.upsertItem w).2 := by
  have one := rules.atMostOne_ingredient w.ingredientId
  unfold Memory.upsertItem
  rw [never.upsertFails, never'.upsertFails, ← find?_perm same.pantry one]
  cases m.pantry.find? (·.ingredientId == w.ingredientId) with
  | some item => exact ⟨rfl, replaceFirst_perm same.pantry one, same.jobs, same.staged⟩
  | none => exact ⟨rfl, same.pantry.append_right _, same.jobs, same.staged⟩

theorem deleteItem (same : SameRows m m') (id : Uuid) :
    (m.deleteItem id).1 = (m'.deleteItem id).1 ∧ SameRows (m.deleteItem id).2 (m'.deleteItem id).2 := by
  have there : m.pantry.any (·.id == id) = m'.pantry.any (·.id == id) := same.pantry.any_eq
  unfold Memory.deleteItem
  rw [← there]
  split
  · exact ⟨rfl, same.pantry.filter _, same.jobs, same.staged⟩
  · exact ⟨rfl, same⟩

theorem listItems (same : SameRows m m') (rules : m.KeepsRules) : m.listItems = m'.listItems := by
  have perm : m.listItems.Perm m'.listItems :=
    m.listItems_perm.trans (same.pantry.trans m'.listItems_perm.symm)
  apply List.Perm.eq_of_pairwise _ m.listItems_sorted m'.listItems_sorted perm
  intro a b thereA thereB forth back
  have presentA := m.listItems_perm.mem_iff.mp thereA
  have presentB := m.listItems_perm.mem_iff.mp (perm.mem_iff.mpr thereB)
  exact List.inj_on_of_nodup_map rules.itemIds presentA presentB (id_eq_of_pantryOrder forth back)

theorem listStaged (same : SameRows m m') (rules : m.KeepsRules) (jobId : Uuid) :
    m.listStaged jobId = m'.listStaged jobId :=
  listStaged_eq_of_perm (same.staged.filter _) (rules.stagedIds.sublist (List.filter_sublist.map _))

theorem insertJob (same : SameRows m m') (rules : m.KeepsRules) (job : Job) :
    (m.insertJob job).1 = (m'.insertJob job).1 ∧ SameRows (m.insertJob job).2 (m'.insertJob job).2 := by
  unfold Memory.insertJob
  rw [← same.job? rules]
  split
  · exact ⟨rfl, same⟩
  · exact ⟨rfl, same.pantry, same.jobs.append_right _, same.staged⟩

theorem transition (same : SameRows m m') (rules : m.KeepsRules) (t : Transition) :
    (m.transition t).1 = (m'.transition t).1 ∧ SameRows (m.transition t).2 (m'.transition t).2 := by
  unfold Memory.transition
  rw [← same.job? rules]
  split
  · split
    · exact ⟨rfl, same.pantry, replaceFirst_perm same.jobs (rules.atMostOne_job t.jobId), same.staged⟩
    · exact ⟨rfl, same⟩
  · exact ⟨rfl, same⟩

theorem insertStaged (same : SameRows m m') (rules : m.KeepsRules) (never : m.NeverFails)
    (never' : m'.NeverFails) (item : StagedItem) :
    (m.insertStaged item).1 = (m'.insertStaged item).1 ∧
      SameRows (m.insertStaged item).2 (m'.insertStaged item).2 := by
  unfold Memory.insertStaged
  rw [never.stagedInserts, never'.stagedInserts, ← same.job? rules]
  split
  · exact ⟨rfl, same⟩
  · split
    · exact ⟨rfl, same⟩
    · exact ⟨rfl, same.pantry, same.jobs, same.staged.append_right _⟩

theorem updateStaged (same : SameRows m m') (rules : m.KeepsRules) (item : StagedItem) :
    (m.updateStaged item).1 = (m'.updateStaged item).1 ∧
      SameRows (m.updateStaged item).2 (m'.updateStaged item).2 := by
  have one := rules.atMostOne_staged item
  unfold Memory.updateStaged
  rw [← find?_perm same.staged one]
  split
  · exact ⟨rfl, same.pantry, same.jobs, replaceFirst_perm same.staged one⟩
  · exact ⟨rfl, same⟩

theorem perform (same : SameRows m m') (rules : m.KeepsRules) (never : m.NeverFails)
    (never' : m'.NeverFails) (call : StoreCall) :
    (m.perform call).1 = (m'.perform call).1 ∧ SameRows (m.perform call).2 (m'.perform call).2 := by
  cases call with
  | upsertItem w => exact same.upsertItem rules never never' w
  | deleteItem id => exact same.deleteItem id
  | deleteAllItems =>
      have count : m.pantry.length = m'.pantry.length := same.pantry.length_eq
      exact ⟨congrArg Except.ok count, .nil, same.jobs, same.staged⟩
  | listItems => exact ⟨congrArg Except.ok (same.listItems rules), same⟩
  | insertJob job => exact same.insertJob rules job
  | getJob id => exact ⟨congrArg Except.ok (same.job? rules id), same⟩
  | transition t => exact same.transition rules t
  | insertStaged item => exact same.insertStaged rules never never' item
  | listStaged jobId => exact ⟨congrArg Except.ok (same.listStaged rules jobId), same⟩
  | updateStaged item => exact same.updateStaged rules item

end SameRows

end Memory

end Larder
