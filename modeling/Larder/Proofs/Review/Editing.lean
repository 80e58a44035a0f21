import Larder.Proofs.Review.Amendment
import Larder.Proofs.Review.Merging
import Larder.Proofs.Store.Constraints
import Larder.Proofs.Store.Stocks

namespace Larder.Service
open Memory

def editAll (jobId : Uuid) : List Override → Operation Unit
  | [] => return ()
  | given :: rest => do
      let _ ← editItem jobId given.stagedItemId given.edit
      editAll jobId rest

variable (around : Surroundings)

theorem editItem_cases {s : Situation} {jobId : Uuid} {job : Job}
    (present : s.memory.job? jobId = some job) (staged : job.status = JobStatus.staged.name)
    (distinct : DistinctItems s.memory jobId) (given : Override) :
    (given.edit.validate = .ok () ∧ given.stagedItemId ∈ (s.memory.listStaged jobId).map (·.id) ∧
      ∃ row now s', (editItem jobId given.stagedItemId given.edit).outcome around s = (.ok row, s') ∧
        s'.memory = { s.memory with staged := s.memory.staged.map (editedOne jobId given now) }) ∨
    (¬(given.edit.validate = .ok () ∧
        given.stagedItemId ∈ (s.memory.listStaged jobId).map (·.id)) ∧
      ∃ fault s', (editItem jobId given.stagedItemId given.edit).outcome around s =
        (.error fault, s')) := by
  rcases unedited_or_editable s.memory jobId given.stagedItemId given.edit with
    ⟨fault, unedited⟩ | ⟨valid, _, item, there, sameId, ofJob⟩
  · obtain ⟨s', refused, _, _⟩ := outcome_editItem_refused around unedited
    refine .inr ⟨?_, fault, s', refused⟩
    rintro ⟨valid, known⟩
    obtain ⟨item, listed, sameId⟩ := List.mem_map.mp known
    obtain ⟨there, ofJob⟩ := mem_listStaged.mp listed
    exact unedited.not_editable ⟨valid, ⟨job, present, staged⟩, item, there, sameId, ofJob⟩
  · have listed := mem_listStaged.mpr ⟨there, ofJob⟩
    obtain ⟨now, s', accepted, changed, _⟩ :=
      outcome_editItem around valid present staged distinct listed sameId
    exact .inl ⟨valid, List.mem_map.mpr ⟨item, listed, sameId⟩, _, now, s', accepted, changed⟩

/-! ## Edits one after the other -/

structure Edited (jobId : Uuid) (edits : List Override) (before after : Memory) : Prop where
  jobs : after.jobs = before.jobs
  same : SameStocks after before
  ids : (after.listStaged jobId).map (·.id) = (before.listStaged jobId).map (·.id)
  commitments : ∀ editOf, commitments editOf (after.listStaged jobId) =
    commitments (fun id => (combined id edits).followedBy (editOf id)) (before.listStaged jobId)

theorem commitments_editedOne {m : Memory} {jobId : Uuid} (given : Override) (now : Timestamp)
    (editOf : Uuid → Edit) :
    commitments editOf ((m.listStaged jobId).map (editedOne jobId given now)) =
      commitments (fun id => (combined id [given]).followedBy (editOf id)) (m.listStaged jobId) := by
  unfold commitments
  rw [List.map_map]
  apply List.map_congr_left
  intro item listed
  obtain ⟨_, ofJob⟩ := mem_listStaged.mp listed
  dsimp only [Function.comp]
  rw [editedOne_id]
  by_cases target : given.stagedItemId = item.id
  · have edited : editedOne jobId given now item = editedItem item given.edit now :=
      if_pos ⟨target.symm, ofJob⟩
    rw [edited, committedWith_editedItem]
    simp [combined, target]
  · have untouched : editedOne jobId given now item = item :=
      if_neg fun both => target both.1.symm
    rw [untouched]
    simp [combined, target]

theorem edited_one {m : Memory} (jobId : Uuid) (given : Override) (now : Timestamp) :
    Edited jobId [given] m { m with staged := m.staged.map (editedOne jobId given now) } := by
  have listing : Memory.listStaged { m with staged := m.staged.map (editedOne jobId given now) } jobId =
      (m.listStaged jobId).map (editedOne jobId given now) := by
    apply listStaged_map
    · rfl
    · exact editedOne_jobId jobId given now
    · exact editedOne_rawText jobId given now
    · exact editedOne_id jobId given now
  constructor
  case jobs => rfl
  case same => exact ⟨rfl, rfl, rfl⟩
  case ids => simp [listing, Function.comp_def]
  case commitments =>
    intro editOf
    rw [listing]
    exact commitments_editedOne given now editOf

theorem combined_append (id : Uuid) (first second : List Override) :
    combined id (first ++ second) = (combined id first).followedBy (combined id second) := by
  induction first with
  | nil => exact (Edit.none_followedBy _).symm
  | cons given rest ih =>
      simp only [List.cons_append, combined, ih]
      split
      · exact (Edit.followedBy_assoc _ _ _).symm
      · rfl

namespace Edited

variable {jobId : Uuid} {first second : List Override} {before middle after : Memory}

theorem none (jobId : Uuid) (m : Memory) : Edited jobId [] m m := by
  constructor
  case jobs => rfl
  case same => exact ⟨rfl, rfl, rfl⟩
  case ids => rfl
  case commitments => simp [combined]

theorem trans (h : Edited jobId first before middle) (h' : Edited jobId second middle after) :
    Edited jobId (first ++ second) before after := by
  constructor
  case jobs => exact h'.jobs.trans h.jobs
  case same =>
    exact ⟨h'.same.stocks.trans h.same.stocks, h'.same.upserts.trans h.same.upserts,
      h'.same.failUpsertsAfter.trans h.same.failUpsertsAfter⟩
  case ids => exact h'.ids.trans h.ids
  case commitments =>
    intro editOf
    rw [h'.commitments, h.commitments]
    simp only [combined_append, Edit.followedBy_assoc]

theorem job? (h : Edited jobId first before after) (id : Uuid) : after.job? id = before.job? id := by
  unfold Memory.job?
  rw [h.jobs]

theorem distinct (h : Edited jobId first before after) (distinct : DistinctItems before jobId) :
    DistinctItems after jobId := by
  unfold DistinctItems
  rw [h.ids]
  exact distinct

end Edited

theorem editAll_cases {s : Situation} {jobId : Uuid} {job : Job}
    (present : s.memory.job? jobId = some job) (staged : job.status = JobStatus.staged.name)
    (distinct : DistinctItems s.memory jobId) (edits : List Override) :
    ((∀ given ∈ edits, given.edit.validate = .ok () ∧
        given.stagedItemId ∈ (s.memory.listStaged jobId).map (·.id)) ∧
      ∃ s', (editAll jobId edits).outcome around s = (.ok (), s') ∧
        Edited jobId edits s.memory s'.memory) ∨
    ∃ fault s', (editAll jobId edits).outcome around s = (.error fault, s') ∧
      ¬ ∀ given ∈ edits, given.edit.validate = .ok () ∧
        given.stagedItemId ∈ (s.memory.listStaged jobId).map (·.id) := by
  induction edits generalizing s with
  | nil => exact .inl ⟨by simp, s, rfl, .none jobId s.memory⟩
  | cons given rest ih =>
      unfold editAll
      rw [Operation.outcome_bind]
      rcases editItem_cases around present staged distinct given with
        ⟨valid, known, row, now, s', edits, memoryAfter⟩ | ⟨refused, fault, s', edits⟩
      · -- The job is as it was and its items have the same ids, so the rest can be edited as well.
        have one : Edited jobId [given] s.memory s'.memory := by
          rw [memoryAfter]
          exact edited_one jobId given now
        rw [edits]
        dsimp only
        rcases ih ((one.job? jobId).trans present) (one.distinct distinct) with
          ⟨later, last, goes, edited⟩ | ⟨fault, last, stops, refused⟩
        · rw [one.ids] at later
          exact .inl ⟨List.forall_mem_cons.mpr ⟨⟨valid, known⟩, later⟩, last, goes, one.trans edited⟩
        · rw [one.ids] at refused
          exact .inr ⟨fault, last, stops, fun all => refused (List.forall_mem_cons.mp all).2⟩
      · rw [edits]
        exact .inr ⟨fault, s', rfl, fun all => refused (List.forall_mem_cons.mp all).1⟩

/-! ## The same outcome -/

/-- Two confirmations with the same result, apart from the ids of rows, after the same number of tried
writes, which leave the same stocks and jobs of the same statuses. -/
structure SameOutcome (a b : Except ServiceError Confirmation × Situation) : Prop where
  result : a.1.map (·.skipped) = b.1.map (·.skipped)
  upserts : a.2.memory.upserts = b.2.memory.upserts
  stocks : a.2.memory.stocks = b.2.memory.stocks
  statuses : ∀ id, (a.2.memory.job? id).map (·.status) = (b.2.memory.job? id).map (·.status)

theorem confirmJob_sameOutcome {around around' : Surroundings} {s t : Situation} {jobId : Uuid}
    {job : Job} {overrides others : List Override} (jobs : s.memory.jobs = t.memory.jobs)
    (same : SameStocks s.memory t.memory) (present : t.memory.job? jobId = some job)
    (staged : job.status = JobStatus.staged.name)
    (accepted : checkOverrides jobId ((s.memory.listStaged jobId).map (·.id)) [] 0 overrides = .ok ())
    (accepted' : checkOverrides jobId ((t.memory.listStaged jobId).map (·.id)) [] 0 others = .ok ())
    (agree : commitments (fun id => (overrideOf overrides id).getD .none) (s.memory.listStaged jobId) =
      commitments (fun id => (overrideOf others id).getD .none) (t.memory.listStaged jobId)) :
    SameOutcome ((confirmJob jobId overrides).outcome around s)
      ((confirmJob jobId others).outcome around' t) := by
  have sameJobs (id : Uuid) : s.memory.job? id = t.memory.job? id := by
    unfold Memory.job?
    rw [jobs]
  have distinct := distinct_of_accepted accepted
  have distinct' := distinct_of_accepted accepted'
  have sameWalk : walk overrides (s.memory.listStaged jobId) =
      walk others (t.memory.listStaged jobId) := by
    rw [walk_eq_filterMap distinct, walk_eq_filterMap distinct', agree]
  have sameLeftOut : leftOut overrides (s.memory.listStaged jobId) =
      leftOut others (t.memory.listStaged jobId) := by
    rw [leftOut_eq_map distinct, leftOut_eq_map distinct', agree]
  obtain ⟨written, writes, walked, s', walks, _, ends⟩ :=
    outcome_confirmJob around ((sameJobs jobId).trans present) staged accepted
  obtain ⟨written', writes', walked', t', walks', _, ends'⟩ :=
    outcome_confirmJob around' present staged accepted'
  -- The ids and times of the writes differ, their stocks do not, and only those decide what follows.
  have sameWrites : writes.map (·.stock) = writes'.map (·.stock) := by
    rw [walks.stocks, walks'.stocks, sameWalk]
    unfold tried
    rw [same.upserts, same.failUpsertsAfter]
  have sameWalked : SameStocks walked walked' := by
    rw [walks.memory, walks'.memory]
    exact same.writeAll sameWrites
  have walkedJobs (id : Uuid) : walked.job? id = walked'.job? id := by
    rw [walks.memory, walks'.memory, job?_writeAll, job?_writeAll, sameJobs]
  have sameFault : written.fault = none ↔ written'.fault = none := by
    rw [walks.fault_eq_none_iff, walks'.fault_eq_none_iff, same.admits_iff, sameWalk]
  cases noFault : written.fault with
  | none =>
      have noFault' := sameFault.mp noFault
      rw [noFault] at ends
      rw [noFault'] at ends'
      obtain ⟨goes, time, memoryAfter⟩ := ends
      obtain ⟨goes', time', memoryAfter'⟩ := ends'
      have stillPresent : walked'.job? jobId = some job := by rw [walks'.memory, job?_writeAll, present]
      have stillPresent' : walked.job? jobId = some job := (walkedJobs jobId).trans stillPresent
      rw [goes, goes']
      constructor
      case result =>
        simp only [Except.map, walks.skipped noFault, walks'.skipped noFault', sameLeftOut]
      case upserts =>
        rw [memoryAfter, memoryAfter', transition_upserts, transition_upserts, sameWalked.upserts]
      case stocks =>
        unfold Memory.stocks
        rw [memoryAfter, memoryAfter', transition_pantry, transition_pantry]
        exact sameWalked.stocks
      case statuses =>
        intro id
        rw [memoryAfter, memoryAfter', job?_transition stillPresent' staged,
          job?_transition stillPresent staged, walkedJobs]
        dsimp only
        split <;> rfl
  | some fault =>
      cases fault' : written'.fault with
      | none => rw [sameFault.mpr fault'] at noFault; cases noFault
      | some other =>
          rw [noFault] at ends
          rw [fault'] at ends'
          obtain ⟨stops, memoryAfter⟩ := ends
          obtain ⟨stops', memoryAfter'⟩ := ends'
          rw [stops, stops']
          constructor
          case result => rw [walks.fault_eq fault noFault, walks'.fault_eq other fault']
          case upserts => rw [memoryAfter, memoryAfter', sameWalked.upserts]
          case stocks => rw [memoryAfter, memoryAfter', sameWalked.stocks]
          case statuses => simp [memoryAfter, memoryAfter', walkedJobs]

theorem confirmJob_sameOutcome_of_memory_eq {around around' : Surroundings} {s t : Situation}
    (same : s.memory = t.memory) (jobId : Uuid) (overrides : List Override) :
    SameOutcome ((confirmJob jobId overrides).outcome around s)
      ((confirmJob jobId overrides).outcome around' t) := by
  rcases refused_or_accepted t.memory jobId overrides with ⟨fault, refused⟩ | ⟨job, present, staged, accepted⟩
  · obtain ⟨s', stops, unchanged, _⟩ := outcome_confirmJob_refused around (same ▸ refused)
    obtain ⟨t', stops', unchanged', _⟩ := outcome_confirmJob_refused around' refused
    have sameAfter : s'.memory = t'.memory := by rw [unchanged, unchanged', same]
    rw [stops, stops']
    constructor
    case result => rfl
    case upserts | stocks => rw [sameAfter]
    case statuses => exact fun id => by rw [sameAfter]
  · have sameStocks : SameStocks s.memory t.memory := by
      rw [same]
      exact ⟨rfl, rfl, rfl⟩
    exact confirmJob_sameOutcome (congrArg Memory.jobs same) sameStocks present staged (same ▸ accepted)
      accepted (by rw [same])

/-- Edits and the overrides of the confirmation that follows them can be merged into overrides of a
confirmation without edits. In particular overrides can be applied first as edits. -/
theorem confirmJob_editAll (around around' : Surroundings) {s : Situation} {jobId : Uuid} {job : Job}
    (present : s.memory.job? jobId = some job) (staged : job.status = JobStatus.staged.name)
    (distinct : DistinctItems s.memory jobId) :
    (∀ edits final edited, (editAll jobId edits).outcome around s = (.ok (), edited) →
      checkOverrides jobId ((edited.memory.listStaged jobId).map (·.id)) [] 0 final = .ok () →
      checkOverrides jobId ((s.memory.listStaged jobId).map (·.id)) [] 0 (merged (edits ++ final)) =
          .ok () ∧
        SameOutcome ((confirmJob jobId final).outcome around edited)
          ((confirmJob jobId (merged (edits ++ final))).outcome around' s)) ∧
    ∀ overrides,
      checkOverrides jobId ((s.memory.listStaged jobId).map (·.id)) [] 0 overrides = .ok () →
      ∃ edited, (editAll jobId overrides).outcome around s = (.ok (), edited) ∧
        SameOutcome ((confirmJob jobId []).outcome around edited)
          ((confirmJob jobId overrides).outcome around' s) := by
  constructor
  · intro edits final edited goes accepted
    rcases editAll_cases around present staged distinct edits with
      ⟨valid, s', goes', leaves⟩ | ⟨fault, s', stops, _⟩
    · obtain rfl : s' = edited := congrArg Prod.snd (goes'.symm.trans goes)
      have acceptableFinal := checkOverrides_eq_ok_iff_acceptable.mp accepted
      rw [leaves.ids] at acceptableFinal
      have acceptedMerged : checkOverrides jobId ((s.memory.listStaged jobId).map (·.id)) [] 0
          (merged (edits ++ final)) = .ok () := by
        apply checkOverrides_eq_ok_iff_acceptable.mpr
        apply acceptable_merged
        exact List.forall_mem_append.mpr ⟨valid, acceptableFinal.1⟩
      refine ⟨acceptedMerged, ?_⟩
      apply confirmJob_sameOutcome leaves.jobs leaves.same present staged accepted acceptedMerged
      rw [leaves.commitments]
      congr 1
      funext id
      rw [overrideOf_merged, combined_append, combined_eq_overrideOf acceptableFinal.2]
    · rw [goes] at stops
      cases stops
  · intro overrides accepted
    have acceptable := checkOverrides_eq_ok_iff_acceptable.mp accepted
    rcases editAll_cases around present staged distinct overrides with
      ⟨_, edited, goes, leaves⟩ | ⟨fault, s', _, refused⟩
    · refine ⟨edited, goes, ?_⟩
      apply confirmJob_sameOutcome leaves.jobs leaves.same present staged rfl accepted
      rw [leaves.commitments]
      congr 1
      funext id
      rw [combined_eq_overrideOf acceptable.2]
      exact Edit.followedBy_none _
    · exact absurd acceptable.1 refused

namespace Kitchen

theorem distinctItems : DistinctItems memory baking.id :=
  ((listStaged_perm memory baking.id).map _).nodup_iff.mpr (by decide)

def edits : List Override := [⟨⟨23⟩, ⟨some milk, none, none⟩⟩, ⟨⟨23⟩, ⟨none, some 2.0, some " oz "⟩⟩]

end Kitchen

open Kitchen in
theorem confirmJob_editAll_kitchen :
    memory.job? baking.id = some baking ∧ baking.status = JobStatus.staged.name ∧
      DistinctItems memory baking.id ∧
      ∃ edited, (editAll baking.id edits).outcome surroundings ⟨memory, []⟩ = (.ok (), edited) ∧
        SameOutcome ((confirmJob baking.id overrides).outcome surroundings edited)
          ((confirmJob baking.id (merged (edits ++ overrides))).outcome surroundings ⟨memory, []⟩) := by
  have present : memory.job? baking.id = some baking := rfl
  have known : (⟨23⟩ : Uuid) ∈ (memory.listStaged baking.id).map (·.id) :=
    List.mem_map.mpr ⟨item ⟨23⟩ none "sugar" 1.0 "kg", mem_listStaged.mpr ⟨by simp [memory], rfl⟩, rfl⟩
  refine ⟨present, rfl, distinctItems, ?_⟩
  rcases editAll_cases surroundings (s := ⟨memory, []⟩) present rfl distinctItems edits with
    ⟨_, edited, goes, leaves⟩ | ⟨_, _, _, refused⟩
  · have accepted : checkOverrides baking.id ((edited.memory.listStaged baking.id).map (·.id)) [] 0
        overrides = .ok () := by
      rw [leaves.ids]
      exact overrides_accepted
    obtain ⟨merges, _⟩ := confirmJob_editAll surroundings surroundings (s := ⟨memory, []⟩) present rfl
      distinctItems
    exact ⟨edited, goes, (merges edits overrides edited goes accepted).2⟩
  · refine absurd ?_ refused
    intro given member
    simp only [edits, List.mem_cons, List.not_mem_nil, or_false] at member
    rcases member with rfl | rfl
    · exact ⟨by decide, known⟩
    · exact ⟨by decide, known⟩

end Larder.Service
