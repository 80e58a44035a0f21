import Larder.Proofs.Review.Failure

namespace Larder.Service
open Memory

/-! ## Edits that are refused -/

/-- Why an edit is refused, in the order in which it is found out. -/
inductive Unedited (m : Memory) (jobId stagedItemId : Uuid) (edit : Edit) : ServiceError → Prop
  | invalid {fault : InvalidField} (rejected : edit.validate = .error fault) :
      Unedited m jobId stagedItemId edit (.ofField fault)
  | missing (valid : edit.validate = .ok ()) (absent : m.job? jobId = none) :
      Unedited m jobId stagedItemId edit (.notFound ("Job " ++ toString jobId ++ "."))
  | unreadable {job : Job} {unknown : UnknownValue} (valid : edit.validate = .ok ())
      (present : m.job? jobId = some job) (unread : JobStatus.parse job.status = .error unknown) :
      Unedited m jobId stagedItemId edit (.storage unknown.message)
  | notStaged {job : Job} {status : JobStatus} (valid : edit.validate = .ok ())
      (present : m.job? jobId = some job) (read : JobStatus.parse job.status = .ok status)
      (other : status ≠ .staged) :
      Unedited m jobId stagedItemId edit (notStaged job.id "edit" status)
  | foreign {job : Job} (valid : edit.validate = .ok ()) (present : m.job? jobId = some job)
      (staged : job.status = JobStatus.staged.name)
      (absent : ∀ item ∈ m.staged, item.id = stagedItemId → item.jobId ≠ jobId) :
      Unedited m jobId stagedItemId edit
        (.notFound ("Staged item " ++ toString stagedItemId ++ " is not part of job " ++
          toString jobId ++ "."))

structure Editable (m : Memory) (jobId stagedItemId : Uuid) (edit : Edit) : Prop where
  valid : edit.validate = .ok ()
  staged : ∃ job, m.job? jobId = some job ∧ job.status = JobStatus.staged.name
  ofJob : ∃ item ∈ m.staged, item.id = stagedItemId ∧ item.jobId = jobId

variable {m : Memory} {jobId stagedItemId : Uuid} {edit : Edit} {fault : ServiceError}

theorem unedited_or_editable (m : Memory) (jobId stagedItemId : Uuid) (edit : Edit) :
    (∃ fault, Unedited m jobId stagedItemId edit fault) ∨ Editable m jobId stagedItemId edit := by
  cases valid : edit.validate with
  | error fault => exact .inl ⟨_, .invalid valid⟩
  | ok =>
      cases found : m.job? jobId with
      | none => exact .inl ⟨_, .missing valid found⟩
      | some job =>
          cases read : JobStatus.parse job.status with
          | error unknown => exact .inl ⟨_, .unreadable valid found read⟩
          | ok status =>
              by_cases isStaged : status = .staged
              · have staged : job.status = JobStatus.staged.name := by
                  rw [← JobStatus.name_of_parse read, isStaged]
                by_cases ofJob : ∃ item ∈ m.staged, item.id = stagedItemId ∧ item.jobId = jobId
                · exact .inr ⟨valid, ⟨job, found, staged⟩, ofJob⟩
                · exact .inl ⟨_, .foreign valid found staged fun item there same other =>
                    ofJob ⟨item, there, same, other⟩⟩
              · exact .inl ⟨_, .notStaged valid found read isStaged⟩

theorem Unedited.not_editable (unedited : Unedited m jobId stagedItemId edit fault) :
    ¬ Editable m jobId stagedItemId edit := by
  rintro ⟨valid, ⟨job, found, staged⟩, item, there, sameId, ofJob⟩
  have parsed : JobStatus.parse job.status = .ok .staged := by
    rw [staged]
    rfl
  cases unedited with
  | invalid rejected =>
      rw [valid] at rejected
      cases rejected
  | missing _ absent =>
      rw [found] at absent
      cases absent
  | unreadable _ present unread =>
      rw [found] at present
      cases present
      rw [parsed] at unread
      cases unread
  | notStaged _ present read other =>
      rw [found] at present
      cases present
      rw [parsed] at read
      cases read
      exact other rfl
  | foreign _ _ _ absent => exact absent item there sameId ofJob

variable (around : Surroundings)

theorem outcome_editItem_refused {s : Situation}
    (unedited : Unedited s.memory jobId stagedItemId edit fault) :
    ∃ s', (editItem jobId stagedItemId edit).outcome around s = (.error fault, s') ∧
      s'.memory = s.memory ∧ published s'.past = published s.past := by
  let loaded := s.next around (.store (.getJob jobId))
  let listed := loaded.next around (.store (.listStaged jobId))
  have quietLoad : published loaded.past = published s.past := by simp [loaded, Effect.batches]
  have quietList : published listed.past = published s.past := by simp [listed, quietLoad, Effect.batches]
  have checked : (Operation.check (.ok ())).outcome around s = (.ok (), s) := rfl
  unfold editItem
  rw [Operation.outcome_bind]
  cases unedited with
  | invalid rejected =>
      rw [rejected]
      exact ⟨s, rfl, rfl, rfl⟩
  | missing valid absent =>
      refine ⟨loaded, ?_, rfl, quietLoad⟩
      rw [valid, checked]
      dsimp only
      rw [Operation.outcome_bind, outcome_loadJob_missing around absent]
  | unreadable valid present unread =>
      refine ⟨loaded, ?_, rfl, quietLoad⟩
      rw [valid, checked]
      dsimp only
      rw [Operation.outcome_bind, outcome_loadJob around present]
      dsimp only
      rw [Operation.outcome_bind, outcome_requireStaged_unreadable around _ "edit" unread]
  | notStaged valid present read other =>
      refine ⟨loaded, ?_, rfl, quietLoad⟩
      rw [valid, checked]
      dsimp only
      rw [Operation.outcome_bind, outcome_loadJob around present]
      dsimp only
      rw [Operation.outcome_bind, outcome_requireStaged_other around _ "edit" read other]
  | foreign valid present staged absent =>
      refine ⟨listed, ?_, rfl, quietList⟩
      have none : (s.memory.listStaged jobId).find? (·.id == stagedItemId) = none := by
        rw [List.find?_eq_none]
        intro item listed sameId
        obtain ⟨there, ofJob⟩ := mem_listStaged.mp listed
        exact absent item there (eq_of_beq sameId) ofJob
      rw [valid, checked]
      dsimp only
      rw [Operation.outcome_bind, outcome_loadJob around present]
      dsimp only
      rw [Operation.outcome_bind, outcome_requireStaged around "edit" staged]
      dsimp only
      rw [Operation.outcome_bind, Operation.outcome_store]
      dsimp only [Memory.perform, Except.mapError, Situation.next_memory, Situation.memoryAfter]
      rw [none]
      rfl

/-! ## Edits that go through -/

def DistinctItems (m : Memory) (jobId : Uuid) : Prop :=
  ((m.listStaged jobId).map (·.id)).Nodup

theorem distinctItems_of_nodup {m : Memory} (distinct : (m.staged.map (·.id)).Nodup) (jobId : Uuid) :
    DistinctItems m jobId := by
  apply ((m.listStaged_perm jobId).map _).nodup_iff.mpr
  exact distinct.sublist (List.filter_sublist.map _)

theorem distinctItems_of_consistent {m : Memory} (consistent : m.Consistent) (jobId : Uuid) :
    DistinctItems m jobId :=
  distinctItems_of_nodup consistent.stagedIds jobId

def editedOne (jobId : Uuid) (given : Override) (now : Timestamp) (item : StagedItem) : StagedItem :=
  if item.id = given.stagedItemId ∧ item.jobId = jobId then editedItem item given.edit now else item

@[simp] theorem editedOne_id (jobId : Uuid) (given : Override) (now : Timestamp)
    (item : StagedItem) : (editedOne jobId given now item).id = item.id := by
  unfold editedOne
  split <;> rfl

@[simp] theorem editedOne_jobId (jobId : Uuid) (given : Override) (now : Timestamp)
    (item : StagedItem) : (editedOne jobId given now item).jobId = item.jobId := by
  unfold editedOne
  split <;> rfl

@[simp] theorem editedOne_rawText (jobId : Uuid) (given : Override) (now : Timestamp)
    (item : StagedItem) : (editedOne jobId given now item).rawText = item.rawText := by
  unfold editedOne
  split <;> rfl

theorem updateStaged_editedItem {m : Memory} {jobId : Uuid} (distinct : DistinctItems m jobId)
    {given : Override} {item : StagedItem} (listed : item ∈ m.listStaged jobId)
    (sameId : item.id = given.stagedItemId) (now : Timestamp) :
    m.updateStaged (editedItem item given.edit now) = (.ok (editedItem item given.edit now),
      { m with staged := m.staged.map (editedOne jobId given now) }) := by
  obtain ⟨there, ofJob⟩ := mem_listStaged.mp listed
  have apart : (m.staged.filter (·.jobId == jobId)).Pairwise fun a b => a.id ≠ b.id := by
    rw [← List.pairwise_map]
    exact ((m.listStaged_perm jobId).map _).nodup_iff.mp distinct
  rw [List.pairwise_filter] at apart
  let picks := sameStaged (editedItem item given.edit now)
  have picks_iff (x : StagedItem) : picks x = true ↔ x.id = item.id ∧ x.jobId = jobId := by
    simp [picks, sameStaged, editedItem, ofJob]
  have only (x : StagedItem) (member : x ∈ m.staged) (picked : picks x = true) : x = item := by
    obtain ⟨same, sameJob⟩ := (picks_iff x).mp picked
    exact List.inj_on_of_nodup_map distinct (mem_listStaged.mpr ⟨member, sameJob⟩) listed same
  have unique : m.staged.Pairwise fun a b => ¬(picks a = true ∧ picks b = true) := by
    refine apart.imp fun {a b} differs both => ?_
    obtain ⟨sameA, jobA⟩ := (picks_iff a).mp both.1
    obtain ⟨sameB, jobB⟩ := (picks_iff b).mp both.2
    exact differs (by simp [jobA]) (by simp [jobB]) (sameA.trans sameB.symm)
  have changed : replaceFirst picks (editedRow (editedItem item given.edit now)) m.staged =
      m.staged.map (editedOne jobId given now) := by
    rw [replaceFirst_eq_map unique]
    apply List.map_congr_left
    intro x member
    unfold editedOne
    by_cases picked : picks x = true
    · obtain rfl := only x member picked
      rw [if_pos picked, if_pos ⟨sameId, ofJob⟩]
      rfl
    · have other : ¬(x.id = given.stagedItemId ∧ x.jobId = jobId) := by
        rw [← sameId]
        exact fun same => picked ((picks_iff x).mpr same)
      rw [if_neg picked, if_neg other]
  have found : m.staged.find? picks = some item := by
    cases stored : m.staged.find? picks with
    | none => exact absurd ((picks_iff item).mpr ⟨rfl, ofJob⟩) (List.find?_eq_none.mp stored item there)
    | some x => rw [only x (List.mem_of_find?_eq_some stored) (List.find?_some stored)]
  unfold updateStaged
  rw [found, changed]
  rfl

theorem outcome_editItem {s : Situation} {job : Job} {item : StagedItem} (valid : edit.validate = .ok ())
    (present : s.memory.job? jobId = some job) (staged : job.status = JobStatus.staged.name)
    (distinct : DistinctItems s.memory jobId) (listed : item ∈ s.memory.listStaged jobId)
    (sameId : item.id = stagedItemId) :
    ∃ now s', (editItem jobId stagedItemId edit).outcome around s = (.ok (editedItem item edit now), s') ∧
      s'.memory = { s.memory with
        staged := s.memory.staged.map (editedOne jobId ⟨stagedItemId, edit⟩ now) } ∧
      published s'.past = published s.past := by
  let listing := (s.next around (.store (.getJob jobId))).next around (.store (.listStaged jobId))
  have checked : (Operation.check (.ok ())).outcome around s = (.ok (), s) := rfl
  have found : (s.memory.listStaged jobId).find? (·.id == stagedItemId) = some item := by
    have unique : AtMostOne (·.id == stagedItemId) (s.memory.listStaged jobId) :=
      atMostOne_of_nodup distinct fun item picked => eq_of_beq picked
    exact unique.find?_eq_some listed (by simp [sameId])
  let now := listing.answer around .now
  let timed := listing.next around .now
  have updates :=
    @updateStaged_editedItem s.memory jobId distinct ⟨stagedItemId, edit⟩ item listed sameId now
  unfold editItem
  rw [Operation.outcome_bind, valid, checked]
  dsimp only
  rw [Operation.outcome_bind, outcome_loadJob around present]
  dsimp only
  rw [Operation.outcome_bind, outcome_requireStaged around "edit" staged]
  dsimp only
  rw [Operation.outcome_bind, Operation.outcome_store]
  dsimp only [Memory.perform, Except.mapError, Situation.next_memory, Situation.memoryAfter]
  rw [found]
  dsimp only
  rw [Operation.outcome_bind, Operation.outcome_ask]
  dsimp only
  rw [Operation.outcome_store]
  refine ⟨now, timed.next around (.store (.updateStaged (editedItem item edit now))), ?_, ?_, ?_⟩
  · change (Except.mapError _ (s.memory.updateStaged _).1, _) = _
    rw [updates]
    rfl
  · exact congrArg Prod.snd updates
  · simp [timed, listing, Effect.batches]

structure Amended (edit : Edit) (old row : StagedItem) : Prop where
  ingredient : row.ingredientId = edit.ingredientId.or old.ingredientId
  quantity : row.quantity = edit.quantity.getD old.quantity
  unit : row.unit = (edit.unit.map Text.trim).getD old.unit
  resolved : old.ingredientId.isSome = true → row.ingredientId.isSome = true
  review : row.needsReview = false ↔ row.ingredientId.isSome = true
  rest : row = { old with
    ingredientId := row.ingredientId
    quantity := row.quantity
    unit := row.unit
    needsReview := row.needsReview
    updatedAt := row.updatedAt }

theorem editedItem_amended (edit : Edit) (old : StagedItem) (now : Timestamp) :
    Amended edit old (editedItem old edit now) := by
  constructor
  case ingredient | quantity | unit | rest => rfl
  case resolved =>
    intro resolved
    simp [editedItem, Commitment.edited, Commitment.ofItem, resolved]
  case review => simp [editedItem]

theorem map_editedOne {front rear : List StagedItem} {old : StagedItem}
    (distinct : ((front ++ old :: rear).map (·.id)).Nodup) (ofJob : old.jobId = jobId) (now : Timestamp) :
    (front ++ old :: rear).map (editedOne jobId ⟨old.id, edit⟩ now) =
      front ++ editedItem old edit now :: rear := by
  have alone : old.id ∉ (front ++ rear).map (·.id) :=
    (List.nodup_cons.mp ((List.perm_middle.map _).nodup_iff.mp distinct)).1
  have untouched (rows : List StagedItem) (within : rows ⊆ front ++ rear) :
      rows.map (editedOne jobId ⟨old.id, edit⟩ now) = rows := by
    refine (List.map_congr_left fun item member => if_neg ?_).trans (List.map_id rows)
    rintro ⟨same, _⟩
    exact alone (List.mem_map.mpr ⟨item, within member, same⟩)
  rw [List.map_append, List.map_cons, untouched front (List.subset_append_left _ _),
    untouched rear (List.subset_append_right _ _)]
  unfold editedOne
  rw [if_pos ⟨rfl, ofJob⟩]

/-- An edit goes through exactly when its item is editable. Then one row is amended, and is what the edit
returns; otherwise the store is as it was. Nothing is published either way. -/
theorem editItem_effect {s : Situation} (distinct : (s.memory.staged.map (·.id)).Nodup)
    (jobId stagedItemId : Uuid) (edit : Edit) :
    let ended := (editItem jobId stagedItemId edit).outcome around s
    ((∃ row, ended.1 = .ok row) ↔ Editable s.memory jobId stagedItemId edit) ∧
      (∀ row, ended.1 = .ok row → ∃ front old rear, s.memory.staged = front ++ old :: rear ∧
        old.id = stagedItemId ∧ old.jobId = jobId ∧ Amended edit old row ∧
        ended.2.memory = { s.memory with staged := front ++ row :: rear }) ∧
      (∀ fault, ended.1 = .error fault →
        Unedited s.memory jobId stagedItemId edit fault ∧ ended.2.memory = s.memory) ∧
      published ended.2.past = published s.past := by
  intro ended
  rcases unedited_or_editable s.memory jobId stagedItemId edit with ⟨fault, unedited⟩ | editable
  · obtain ⟨s', refused, unchanged, quiet⟩ := outcome_editItem_refused around unedited
    have ends : ended = (.error fault, s') := refused
    rw [ends]
    refine ⟨iff_of_false ?_ unedited.not_editable, ?_, ?_, quiet⟩
    · rintro ⟨row, accepted⟩
      cases accepted
    · rintro row accepted
      cases accepted
    · rintro _ ⟨⟩
      exact ⟨unedited, unchanged⟩
  · obtain ⟨valid, ⟨job, present, staged⟩, old, there, rfl, ofJob⟩ := id editable
    obtain ⟨now, s', accepted, changed, quiet⟩ := outcome_editItem around valid present staged
      (distinctItems_of_nodup distinct jobId) (mem_listStaged.mpr ⟨there, ofJob⟩) rfl
    have ends : ended = (.ok (editedItem old edit now), s') := accepted
    rw [ends]
    refine ⟨iff_of_true ⟨_, rfl⟩ editable, ?_, ?_, quiet⟩
    · rintro _ ⟨⟩
      obtain ⟨front, rear, split⟩ := List.append_of_mem there
      refine ⟨front, old, rear, split, rfl, ofJob, editedItem_amended edit old now, ?_⟩
      rw [split] at distinct
      dsimp only
      rw [changed, split, map_editedOne distinct ofJob now]
    · rintro fault refused
      cases refused

open Kitchen in
theorem editItem_effect_kitchen :
    let ended := (editItem baking.id ⟨23⟩ ⟨some sugar, none, some " lb "⟩).outcome surroundings ⟨memory, []⟩
    (memory.staged.map (·.id)).Nodup ∧
      (∃ row front old rear, ended.1 = .ok row ∧ memory.staged = front ++ old :: rear ∧ old.id = ⟨23⟩ ∧
        old.jobId = baking.id ∧ Amended ⟨some sugar, none, some " lb "⟩ old row ∧
        ended.2.memory = { memory with staged := front ++ row :: rear }) ∧
      published ended.2.past = [] := by
  intro ended
  have distinct : (memory.staged.map (·.id)).Nodup := by decide
  have editable : Editable memory baking.id ⟨23⟩ ⟨some sugar, none, some " lb "⟩ := by
    refine ⟨by decide, ⟨baking, rfl, rfl⟩, item ⟨23⟩ none "sugar" 1.0 "kg", ?_, rfl, rfl⟩
    simp [memory]
  obtain ⟨accepts, changes, -, quiet⟩ :=
    editItem_effect surroundings (s := ⟨memory, []⟩) distinct baking.id ⟨23⟩ ⟨some sugar, none, some " lb "⟩
  obtain ⟨row, accepted⟩ := accepts.mpr editable
  obtain ⟨front, old, rear, changed⟩ := changes row accepted
  exact ⟨distinct, ⟨row, front, old, rear, accepted, changed⟩, quiet⟩

end Larder.Service
