import Larder.Proofs.Store.Writes

namespace Larder

def StoreCall.Concerns (jobId : Uuid) : StoreCall → Prop
  | .insertJob job => job.id = jobId
  | .getJob id | .listStaged id => id = jobId
  | .transition t => t.jobId = jobId
  | .insertStaged item | .updateStaged item => item.jobId = jobId
  | .upsertItem _ | .deleteItem _ | .deleteAllItems | .listItems => False

namespace Memory

variable {m : Memory} {jobId : Uuid}

/-- What a store has of a job. It refuses staged items if the store does. -/
def only (m : Memory) (jobId : Uuid) : Memory where
  pantry := []
  jobs := m.jobs.filter (·.id == jobId)
  staged := m.staged.filter (·.jobId == jobId)
  upserts := 0
  failUpsertsAfter := none
  failStagedInserts := m.failStagedInserts

@[simp] theorem job?_only : (m.only jobId).job? jobId = m.job? jobId := by
  simp only [job?, only, List.find?_filter, Bool.decide_and, Bool.decide_eq_true, Bool.and_self]

@[simp] theorem listStaged_only : (m.only jobId).listStaged jobId = m.listStaged jobId := by
  simp [listStaged, only]

theorem find?_staged_only {item : StagedItem} (own : item.jobId = jobId) :
    (m.only jobId).staged.find? (sameStaged item) = m.staged.find? (sameStaged item) := by
  unfold only
  rw [List.find?_filter]
  congr
  funext stored
  simp only [sameStaged, own, Bool.decide_and, Bool.decide_eq_true]
  cases stored.jobId == jobId <;> simp

theorem insertJob_only {job : Job} (own : job.id = jobId) :
    (m.only jobId).insertJob job = ((m.insertJob job).1, (m.insertJob job).2.only jobId) := by
  subst own
  unfold insertJob
  rw [job?_only]
  split
  · rfl
  · simp [only]

theorem transition_only {t : Transition} (own : t.jobId = jobId) :
    (m.only jobId).transition t = ((m.transition t).1, (m.transition t).2.only jobId) := by
  subst own
  have changed : (replaceFirst (·.id == t.jobId) (·.apply t) m.jobs).filter (·.id == t.jobId) =
      replaceFirst (·.id == t.jobId) (·.apply t) (m.jobs.filter (·.id == t.jobId)) := by
    apply filter_replaceFirst
    exact fun _ picked => ⟨picked, picked⟩
  unfold transition
  rw [job?_only]
  cases m.job? t.jobId with
  | none => rfl
  | some job =>
      dsimp only
      split
      · simp [only, changed]
      · rfl

theorem insertStaged_only {item : StagedItem} (own : item.jobId = jobId) :
    (m.only jobId).insertStaged item = ((m.insertStaged item).1, (m.insertStaged item).2.only jobId) := by
  subst own
  have sameFlag : (m.only item.jobId).failStagedInserts = m.failStagedInserts := rfl
  unfold insertStaged
  rw [job?_only, sameFlag]
  split
  · rfl
  · split
    · rfl
    · simp [putStaged, only]

theorem updateStaged_only {item : StagedItem} (own : item.jobId = jobId) :
    (m.only jobId).updateStaged item = ((m.updateStaged item).1, (m.updateStaged item).2.only jobId) := by
  have changed : (replaceFirst (sameStaged item) (editedRow item) m.staged).filter (·.jobId == jobId) =
      replaceFirst (sameStaged item) (editedRow item) (m.staged.filter (·.jobId == jobId)) := by
    apply filter_replaceFirst
    intro stored picked
    have sameJob : stored.jobId = jobId := by
      simp only [sameStaged, Bool.and_eq_true, beq_iff_eq] at picked
      exact picked.2.trans own
    exact ⟨by simpa using sameJob, by simpa [editedRow] using sameJob⟩
  unfold updateStaged
  rw [find?_staged_only own]
  cases m.staged.find? (sameStaged item) with
  | none => rfl
  | some stored => simp [only, changed]

theorem perform_only {call : StoreCall} (concerns : call.Concerns jobId) :
    (m.only jobId).perform call = ((m.perform call).1, (m.perform call).2.only jobId) := by
  cases call with
  | insertJob job => exact insertJob_only concerns
  | getJob id =>
      obtain rfl : id = jobId := concerns
      simp [perform]
  | transition t => exact transition_only concerns
  | insertStaged item => exact insertStaged_only concerns
  | listStaged id =>
      obtain rfl : id = jobId := concerns
      simp [perform]
  | updateStaged item => exact updateStaged_only concerns
  | upsertItem | deleteItem | deleteAllItems | listItems => cases concerns

theorem insertStaged_eq (m : Memory) (item : StagedItem) :
    (∃ fault, m.insertStaged item = (.error fault, m)) ∨ m.insertStaged item = (.ok (), m.putStaged item) := by
  unfold insertStaged
  split
  · exact .inl ⟨_, rfl⟩
  · split
    · exact .inl ⟨_, rfl⟩
    · exact .inr rfl

/-! ## Other jobs -/

theorem only_write (w : PantryWrite) : (m.write w).only jobId = m.only jobId := by
  obtain ⟨rows, done⟩ := write_eq m w
  rw [done]
  rfl

theorem only_perform_other {call : StoreCall} (other : ¬ call.Concerns jobId) :
    (m.perform call).2.only jobId = m.only jobId := by
  cases call with
  | upsertItem write => exact only_write write
  | deleteItem id =>
      change (m.deleteItem id).2.only jobId = _
      unfold deleteItem
      split <;> rfl
  | deleteAllItems | listItems | getJob | listStaged => rfl
  | insertJob job =>
      change (m.insertJob job).2.only jobId = _
      have unseen : (job.id == jobId) = false := beq_eq_false_iff_ne.mpr other
      unfold insertJob
      split
      · rfl
      · simp [only, unseen]
  | transition t =>
      change (m.transition t).2.only jobId = _
      have kept : (replaceFirst (·.id == t.jobId) (·.apply t) m.jobs).filter (·.id == jobId) =
          m.jobs.filter (·.id == jobId) := by
        apply filter_replaceFirst_of_ne
        intro job picked
        have isTarget : job.id = t.jobId := by simpa using picked
        have unseen : (job.id == jobId) = false := beq_eq_false_iff_ne.mpr (isTarget ▸ other)
        exact ⟨unseen, unseen⟩
      unfold transition
      split
      · split
        · simp only [only, kept]
        · rfl
      · rfl
  | insertStaged item =>
      change (m.insertStaged item).2.only jobId = _
      have unseen : (item.jobId == jobId) = false := beq_eq_false_iff_ne.mpr other
      unfold insertStaged
      split
      · rfl
      · split
        · rfl
        · simp [putStaged, only, unseen]
  | updateStaged item =>
      change (m.updateStaged item).2.only jobId = _
      have kept : (replaceFirst (sameStaged item) (editedRow item) m.staged).filter (·.jobId == jobId) =
          m.staged.filter (·.jobId == jobId) := by
        apply filter_replaceFirst_of_ne
        intro stored picked
        simp only [sameStaged, Bool.and_eq_true, beq_iff_eq] at picked
        have unseen : (stored.jobId == jobId) = false := beq_eq_false_iff_ne.mpr (picked.2 ▸ other)
        exact ⟨unseen, unseen⟩
      unfold updateStaged
      split
      · simp only [only, kept]
      · rfl

end Memory

end Larder
