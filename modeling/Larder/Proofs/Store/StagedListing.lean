import Larder.Proofs.Store.Inventory
import Larder.Proofs.Store.Jobs
import Larder.Proofs.Store.Listing

namespace Larder

def StagedItem.Precedes (a b : StagedItem) : Prop :=
  a.rawText < b.rawText ∨ a.rawText = b.rawText ∧ a.id.value.toNat < b.id.value.toNat

namespace StoreCall

def OnStaged : StoreCall → Prop
  | .insertStaged _ | .updateStaged _ => True
  | _ => False

def revise : StoreCall → StagedItem → StagedItem
  | .updateStaged item, row => if Memory.sameStaged item row then Memory.editedRow item row else row
  | _, row => row

def Edits (jobId : Uuid) : StoreCall → Prop
  | .updateStaged item => item.jobId = jobId
  | _ => False

theorem revise_cases (call : StoreCall) (row : StagedItem) :
    call.revise row = row ∨ ∃ item, call.revise row = Memory.editedRow item row := by
  unfold revise
  split
  · rename_i item
    split
    · exact .inr ⟨item, rfl⟩
    · exact .inl rfl
  · exact .inl rfl

@[simp] theorem revise_id (call : StoreCall) (row : StagedItem) : (call.revise row).id = row.id := by
  obtain same | ⟨item, edited⟩ := call.revise_cases row
  · rw [same]
  · rw [edited, Memory.editedRow]

@[simp] theorem revise_jobId (call : StoreCall) (row : StagedItem) : (call.revise row).jobId = row.jobId := by
  obtain same | ⟨item, edited⟩ := call.revise_cases row
  · rw [same]
  · rw [edited, Memory.editedRow]

@[simp] theorem revise_rawText (call : StoreCall) (row : StagedItem) :
    (call.revise row).rawText = row.rawText := by
  obtain same | ⟨item, edited⟩ := call.revise_cases row
  · rw [same]
  · rw [edited, Memory.editedRow]

theorem revise_of_not_edits {call : StoreCall} {row : StagedItem} (spares : ¬ call.Edits row.jobId) :
    call.revise row = row := by
  cases call with
  | updateStaged item =>
      have other : Memory.sameStaged item row = false := by
        rw [Memory.sameStaged, Bool.and_eq_false_iff, beq_eq_false_iff_ne, beq_eq_false_iff_ne]
        exact .inr fun same => spares same.symm
      exact if_neg (by simp [other])
  | upsertItem | deleteItem | deleteAllItems | listItems | insertJob | getJob | transition | insertStaged
  | listStaged => rfl

end StoreCall

namespace Memory

variable {m : Memory} {calls : List StoreCall} {jobId : Uuid}

def accepts (m : Memory) (item : StagedItem) : Bool :=
  !m.failStagedInserts && (m.job? item.jobId).isSome

def accepted (m : Memory) (calls : List StoreCall) : List StagedItem :=
  calls.flatMap fun
    | .insertStaged item => if m.accepts item then [item] else []
    | _ => []

def revised (calls : List StoreCall) (row : StagedItem) : StagedItem :=
  calls.foldl (fun row call => call.revise row) row

/-- A row that was there, or was inserted, with all edits since then. -/
def IsStaged (m : Memory) (calls : List StoreCall) (row : StagedItem) : Prop :=
  (∃ old ∈ m.staged, row = revised calls old) ∨
    ∃ before item after, calls = before ++ .insertStaged item :: after ∧ m.accepts item = true ∧
      row = revised after item

def DistinctStaged (m : Memory) (calls : List StoreCall) : Prop :=
  ((m.staged ++ m.accepted calls).map (·.id)).Nodup

/-! ## One call -/

theorem accepted_append (before after : List StoreCall) :
    m.accepted (before ++ after) = m.accepted before ++ m.accepted after :=
  List.flatMap_append

theorem insertStaged_accepts (m : Memory) (item : StagedItem) :
    (m.insertStaged item).2 = if m.accepts item then m.putStaged item else m := by
  unfold insertStaged accepts
  cases m.failStagedInserts <;> cases m.job? item.jobId <;> rfl

theorem accepts_perform {call : StoreCall} (onStaged : call.OnStaged) :
    (m.perform call).2.accepts = m.accepts := by
  funext other
  cases call with
  | insertStaged item =>
      change (m.insertStaged item).2.accepts other = _
      rw [insertStaged_accepts]
      split <;> rfl
  | updateStaged item =>
      change (m.updateStaged item).2.accepts other = _
      obtain same | changed := updateStaged_cases m item
      · rw [same]
      · rw [changed]
        rfl
  | upsertItem | deleteItem | deleteAllItems | listItems | insertJob | getJob | transition | listStaged =>
      cases onStaged

theorem staged_perform {call : StoreCall} (onStaged : call.OnStaged) (distinct : (m.staged.map (·.id)).Nodup) :
    (m.perform call).2.staged = m.staged.map call.revise ++ m.accepted [call] := by
  cases call with
  | insertStaged item =>
      change (m.insertStaged item).2.staged = m.staged.map id ++ m.accepted [.insertStaged item]
      rw [insertStaged_accepts, List.map_id]
      simp only [accepted, List.flatMap_cons, List.flatMap_nil, List.append_nil]
      split
      · rfl
      · rw [List.append_nil]
  | updateStaged item =>
      have unique : AtMostOne (sameStaged item) m.staged := by
        apply atMostOne_of_nodup distinct (k := item.id)
        intro row picked
        simp only [sameStaged, Bool.and_eq_true, beq_iff_eq] at picked
        exact picked.1
      change (m.updateStaged item).2.staged = m.staged.map (StoreCall.updateStaged item).revise ++ []
      rw [List.append_nil]
      have mapped : replaceFirst (sameStaged item) (editedRow item) m.staged =
          m.staged.map (StoreCall.updateStaged item).revise := replaceFirst_eq_map unique
      unfold updateStaged
      cases found : m.staged.find? (sameStaged item) with
      | some stored => exact mapped
      | none =>
          have untouched : m.staged.map (StoreCall.updateStaged item).revise = m.staged.map id := by
            apply List.map_congr_left
            intro row member
            exact if_neg (by simpa using List.find?_eq_none.mp found row member)
          rw [untouched, List.map_id]
  | upsertItem | deleteItem | deleteAllItems | listItems | insertJob | getJob | transition | listStaged =>
      cases onStaged

/-! ## Many calls -/

theorem accepted_congr {m' : Memory} (same : m'.accepts = m.accepts) : m'.accepted calls = m.accepted calls := by
  unfold accepted
  rw [same]

theorem mem_accepted_singleton {call : StoreCall} {row : StagedItem} :
    row ∈ m.accepted [call] ↔ call = .insertStaged row ∧ m.accepts row = true := by
  cases call with
  | insertStaged item =>
      simp only [accepted, List.flatMap_cons, List.flatMap_nil, List.append_nil, StoreCall.insertStaged.injEq]
      split
      · rename_i accepts
        rw [List.mem_singleton]
        exact ⟨fun same => ⟨same.symm, same ▸ accepts⟩, fun ⟨same, _⟩ => same.symm⟩
      · rename_i refused
        exact iff_of_false List.not_mem_nil fun ⟨same, accepts⟩ => refused (same ▸ accepts)
  | upsertItem | deleteItem | deleteAllItems | listItems | insertJob | getJob | transition | listStaged
  | updateStaged => simp [accepted]

theorem revised_concat (calls : List StoreCall) (call : StoreCall) (row : StagedItem) :
    revised (calls ++ [call]) row = call.revise (revised calls row) := by
  rw [revised, List.foldl_append]
  rfl

theorem isStaged_concat {call : StoreCall} {row : StagedItem} :
    m.IsStaged (calls ++ [call]) row ↔
      (∃ old, m.IsStaged calls old ∧ row = call.revise old) ∨ row ∈ m.accepted [call] := by
  rw [mem_accepted_singleton]
  constructor
  · rintro (⟨old, there, rfl⟩ | ⟨before, item, after, split, accepts, rfl⟩)
    · exact .inl ⟨_, .inl ⟨old, there, rfl⟩, revised_concat calls call old⟩
    · obtain rfl | ⟨rest, last, rfl⟩ := List.eq_nil_or_concat after
      · obtain ⟨-, same⟩ := List.append_inj' split rfl
        exact .inr ⟨List.singleton_inj.mp same, accepts⟩
      · rw [List.concat_eq_append] at split ⊢
        rw [← List.cons_append, ← List.append_assoc] at split
        obtain ⟨rfl, same⟩ := List.append_inj' split rfl
        rw [List.singleton_inj.mp same]
        exact .inl ⟨_, .inr ⟨before, item, rest, rfl, accepts, rfl⟩, revised_concat rest last item⟩
  · rintro (⟨old, ⟨first, there, rfl⟩ | ⟨before, item, after, rfl, accepts, rfl⟩, rfl⟩ | ⟨rfl, accepts⟩)
    · exact .inl ⟨first, there, (revised_concat calls call first).symm⟩
    · refine .inr ⟨before, item, after ++ [call], ?_, accepts, (revised_concat after call item).symm⟩
      rw [List.append_assoc, List.cons_append]
    · exact .inr ⟨calls, row, [], rfl, accepts, rfl⟩

theorem DistinctStaged.before {later : List StoreCall} (distinct : m.DistinctStaged (calls ++ later)) :
    m.DistinctStaged calls := by
  unfold DistinctStaged at *
  rw [accepted_append, ← List.append_assoc] at distinct
  exact distinct.sublist ((List.sublist_append_left _ _).map _)

structure Stages (m : Memory) (calls : List StoreCall) (after : Memory) : Prop where
  accepts : after.accepts = m.accepts
  ids : after.staged.map (·.id) = (m.staged ++ m.accepted calls).map (·.id)
  rows : ∀ row, row ∈ after.staged ↔ m.IsStaged calls row

theorem Stages.perform {after : Memory} (stages : m.Stages calls after) {call : StoreCall}
    (onStaged : call.OnStaged) (distinct : m.DistinctStaged calls) :
    m.Stages (calls ++ [call]) (after.perform call).2 := by
  have unique : (after.staged.map (·.id)).Nodup := stages.ids ▸ distinct
  have rows := staged_perform onStaged unique
  rw [accepted_congr stages.accepts] at rows
  constructor
  case accepts => exact (accepts_perform onStaged).trans stages.accepts
  case ids =>
    rw [rows, List.map_append, List.map_map, accepted_append, ← List.append_assoc, List.map_append, ← stages.ids]
    congr 1
    exact List.map_congr_left fun row _ => call.revise_id row
  case rows =>
    intro row
    rw [rows, List.mem_append, isStaged_concat]
    refine or_congr ?_ Iff.rfl
    simp only [List.mem_map, stages.rows, eq_comm]

theorem stages_performAll (onStaged : ∀ call ∈ calls, call.OnStaged) (distinct : m.DistinctStaged calls) :
    m.Stages calls (m.performAll calls) := by
  induction calls using List.reverseRecOn with
  | nil =>
      refine ⟨rfl, by rw [accepted, List.flatMap_nil, List.append_nil]; rfl, fun row => ?_⟩
      simp [performAll, IsStaged, revised]
  | append_singleton before call ih =>
      rw [List.forall_mem_append, List.forall_mem_singleton] at onStaged
      rw [performAll_concat]
      exact (ih onStaged.1 distinct.before).perform onStaged.2 distinct.before

theorem filter_staged_performAll (onStaged : ∀ call ∈ calls, call.OnStaged) (distinct : m.DistinctStaged calls)
    (spares : ∀ call ∈ calls, ¬ call.Edits jobId) :
    (m.performAll calls).staged.filter (·.jobId == jobId) =
      (m.staged ++ m.accepted calls).filter (·.jobId == jobId) := by
  induction calls using List.reverseRecOn with
  | nil => rw [accepted, List.flatMap_nil, List.append_nil]; rfl
  | append_singleton before call ih =>
      rw [List.forall_mem_append, List.forall_mem_singleton] at onStaged spares
      have stages := stages_performAll onStaged.1 distinct.before
      have unique : ((m.performAll before).staged.map (·.id)).Nodup := stages.ids ▸ distinct.before
      have untouched : ((m.performAll before).staged.map call.revise).filter (·.jobId == jobId) =
          (m.performAll before).staged.filter (·.jobId == jobId) := by
        rw [List.filter_map]
        simp only [Function.comp_def, StoreCall.revise_jobId]
        apply (List.map_congr_left _).trans (List.map_id _)
        intro row member
        have own : row.jobId = jobId := by simpa using (List.mem_filter.mp member).2
        exact StoreCall.revise_of_not_edits (own ▸ spares.2)
      rw [performAll_concat, staged_perform onStaged.2 unique, accepted_congr stages.accepts, List.filter_append,
        untouched, ih onStaged.1 distinct.before spares.1, ← List.filter_append, List.append_assoc,
        accepted_append]

/-! ## Listings -/

theorem precedes_of_stagedOrder {a b : StagedItem} (le : stagedOrder a b = true) (ne : a.id ≠ b.id) :
    a.Precedes b := by
  obtain before | ⟨same, le⟩ := (stagedOrder_iff a b).mp le
  · exact .inl before
  · exact .inr ⟨same, Uuid.lt_of_le_of_ne le ne⟩

theorem listStaged_precedes (distinct : (m.staged.map (·.id)).Nodup) (jobId : Uuid) :
    (m.listStaged jobId).Pairwise StagedItem.Precedes := by
  have own : ((m.staged.filter (·.jobId == jobId)).map (·.id)).Nodup :=
    distinct.sublist (List.filter_sublist.map _)
  have ids : ((m.listStaged jobId).map (·.id)).Nodup := ((m.listStaged_perm jobId).map _).nodup_iff.mpr own
  exact ((m.listStaged_ordered jobId).and (List.pairwise_map.mp ids)).imp fun ⟨le, ne⟩ =>
    precedes_of_stagedOrder le ne

/-- A listing after insertions and edits: its rows and their order, which an edit keeps, and what it depends
on where no row of the job is edited. -/
theorem listStaged_performAll (onStaged : ∀ call ∈ calls, call.OnStaged) (distinct : m.DistinctStaged calls)
    (jobId : Uuid) :
    let listing := (m.performAll calls).listStaged jobId
    (∀ row, row ∈ listing ↔ row.jobId = jobId ∧ m.IsStaged calls row) ∧
    listing.Pairwise StagedItem.Precedes ∧
    (∀ item, let edited := (m.performAll (calls ++ [.updateStaged item])).listStaged jobId
      edited = listing.map (StoreCall.updateStaged item).revise ∧ edited.map (·.id) = listing.map (·.id)) ∧
    ∀ others, (∀ call ∈ others, call.OnStaged) → m.DistinctStaged others →
      (∀ call ∈ calls ++ others, ¬ call.Edits jobId) →
      ((m.accepted calls).filter (·.jobId == jobId)).Perm ((m.accepted others).filter (·.jobId == jobId)) →
      (m.performAll others).listStaged jobId = listing := by
  intro listing
  have stages := stages_performAll onStaged distinct
  have unique : ((m.performAll calls).staged.map (·.id)).Nodup := stages.ids ▸ distinct
  refine ⟨?_, listStaged_precedes unique jobId, ?_, ?_⟩
  · intro row
    rw [mem_listStaged, stages.rows, and_comm]
  · intro item
    have rows : (m.performAll (calls ++ [.updateStaged item])).staged =
        (m.performAll calls).staged.map (StoreCall.updateStaged item).revise := by
      have onStaged : (StoreCall.updateStaged item).OnStaged := trivial
      rw [performAll_concat, staged_perform onStaged unique]
      exact List.append_nil _
    have edited : (m.performAll (calls ++ [.updateStaged item])).listStaged jobId =
        listing.map (StoreCall.updateStaged item).revise :=
      listStaged_map rows (StoreCall.revise_jobId _) (StoreCall.revise_rawText _) (StoreCall.revise_id _)
    refine ⟨edited, ?_⟩
    rw [edited, List.map_map]
    exact List.map_congr_left fun row _ => StoreCall.revise_id _ row
  · intro others onStaged' distinct' spares perm
    rw [List.forall_mem_append] at spares
    have own := filter_staged_performAll onStaged distinct spares.1
    have own' := filter_staged_performAll onStaged' distinct' spares.2
    apply (listStaged_eq_of_perm _ _).symm
    · rw [own, own', List.filter_append, List.filter_append]
      exact perm.append_left _
    · exact unique.sublist (List.filter_sublist.map _)

namespace Board

def job (id : Nat) : Job :=
  { (default : Job) with id := ⟨id⟩ }

def item (id jobId : Nat) (rawText : String) : StagedItem :=
  { (default : StagedItem) with id := ⟨id⟩, jobId := ⟨jobId⟩, rawText }

def memory : Memory :=
  { empty with jobs := [job 1, job 2] }

def flour : StagedItem := item 12 1 "flour"
def eggs : StagedItem := item 11 1 "eggs"
def moreFlour : StagedItem := item 13 1 "flour"
def salt : StagedItem := item 14 2 "salt"

def inserts : List StoreCall :=
  [.insertStaged moreFlour, .insertStaged flour, .insertStaged eggs]

def others : List StoreCall :=
  [.insertStaged eggs, .insertStaged salt, .insertStaged flour, .updateStaged salt, .insertStaged moreFlour]

end Board

open Board in
theorem listStaged_performAll_board :
    memory.DistinctStaged inserts ∧
      flour ∈ (memory.performAll inserts).listStaged ⟨1⟩ ∧
      ((memory.performAll inserts).listStaged ⟨1⟩).Pairwise StagedItem.Precedes ∧
      (memory.performAll others).listStaged ⟨1⟩ = (memory.performAll inserts).listStaged ⟨1⟩ := by
  have onStaged : ∀ call ∈ inserts, call.OnStaged := by simp [inserts, StoreCall.OnStaged]
  have onStaged' : ∀ call ∈ others, call.OnStaged := by simp [others, StoreCall.OnStaged]
  have distinct : memory.DistinctStaged inserts := by
    unfold DistinctStaged
    decide
  have distinct' : memory.DistinctStaged others := by
    unfold DistinctStaged
    decide
  obtain ⟨rows, ordered, -, sameRows⟩ := listStaged_performAll onStaged distinct ⟨1⟩
  refine ⟨distinct, (rows flour).mpr ⟨rfl, .inr ⟨[.insertStaged moreFlour], flour, [.insertStaged eggs], rfl,
    by decide, rfl⟩⟩, ordered, sameRows others onStaged' distinct' ?_ ?_⟩
  · simp [inserts, others, StoreCall.Edits, salt, item]
  · have own : (memory.accepted inserts).filter (·.jobId == ⟨1⟩) = [moreFlour, flour, eggs] := rfl
    have own' : (memory.accepted others).filter (·.jobId == ⟨1⟩) = [moreFlour, flour, eggs].reverse := rfl
    rw [own, own']
    exact (List.reverse_perm _).symm

end Memory

end Larder
