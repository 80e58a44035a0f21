import Larder.Proofs.Store.Replacement

namespace Larder.Memory

theorem job?_id {m : Memory} {id : Uuid} {job : Job} (found : m.job? id = some job) : job.id = id := by
  simpa using List.find?_some found

theorem job?_replaceFirst (m : Memory) (t : Transition) (id : Uuid) :
    Memory.job? { m with jobs := replaceFirst (·.id == t.jobId) (·.apply t) m.jobs } id =
      if id = t.jobId then (m.job? id).map (·.apply t) else m.job? id := by
  unfold job?
  split
  · rename_i same
    subst same
    refine find?_replaceFirst ?_ m.jobs
    exact fun x picked => picked
  · rename_i other
    apply find?_replaceFirst_of_ne
    intro x picked
    have isTarget : x.id = t.jobId := by simpa using picked
    have unseen : (x.id == id) = false := by simpa [isTarget] using Ne.symm other
    exact ⟨unseen, unseen⟩

theorem transition_cases (m : Memory) (t : Transition) :
    (∃ job after, m.job? t.jobId = some job ∧ job.status = t.source ∧
      m.transition t = (.ok (some (job.apply t)), after) ∧
      after = { m with jobs := replaceFirst (·.id == t.jobId) (·.apply t) m.jobs } ∧
      ∀ id, after.job? id = if id = t.jobId then some (job.apply t) else m.job? id) ∨
    (m.transition t = (.ok none, m) ∧ ∀ job, m.job? t.jobId = some job → job.status ≠ t.source) := by
  unfold transition
  cases found : m.job? t.jobId with
  | none => exact .inr ⟨rfl, fun job there => nomatch there⟩
  | some job =>
      by_cases expected : job.status = t.source
      · refine .inl ⟨job, _, rfl, expected, by simp [expected], rfl, ?_⟩
        intro id
        rw [job?_replaceFirst]
        split
        · rename_i same
          rw [same, found, Option.map_some]
        · rfl
      · refine .inr ⟨by simp [expected], ?_⟩
        intro other there
        cases there
        exact expected

theorem transition_pantry (m : Memory) (t : Transition) : (m.transition t).2.pantry = m.pantry := by
  rcases transition_cases m t with ⟨_, _, _, _, done, rfl, _⟩ | ⟨done, _⟩ <;> rw [done]

theorem transition_staged (m : Memory) (t : Transition) : (m.transition t).2.staged = m.staged := by
  rcases transition_cases m t with ⟨_, _, _, _, done, rfl, _⟩ | ⟨done, _⟩ <;> rw [done]

theorem transition_upserts (m : Memory) (t : Transition) :
    (m.transition t).2.upserts = m.upserts := by
  rcases transition_cases m t with ⟨_, _, _, _, done, rfl, _⟩ | ⟨done, _⟩ <;> rw [done]

theorem transition_failUpsertsAfter (m : Memory) (t : Transition) :
    (m.transition t).2.failUpsertsAfter = m.failUpsertsAfter := by
  rcases transition_cases m t with ⟨_, _, _, _, done, rfl, _⟩ | ⟨done, _⟩ <;> rw [done]

theorem job?_transition {m : Memory} {t : Transition} {job : Job}
    (present : m.job? t.jobId = some job) (expected : job.status = t.source) (id : Uuid) :
    (m.transition t).2.job? id = if id = t.jobId then some (job.apply t) else m.job? id := by
  rcases transition_cases m t with ⟨other, after, there, _, done, _, jobs⟩ | ⟨_, refused⟩
  · rw [done, jobs, Option.some.inj (there.symm.trans present)]
  · exact absurd expected (refused job present)

theorem insertJob_cases (m : Memory) (job : Job) :
    ((m.job? job.id).isSome = true ∧ m.insertJob job = (.error (.jobExists job.id), m)) ∨
    (m.job? job.id = none ∧ m.insertJob job = (.ok (), { m with jobs := m.jobs ++ [job] }) ∧
      ∀ id, Memory.job? { m with jobs := m.jobs ++ [job] } id =
        if id = job.id then some job else m.job? id) := by
  unfold insertJob
  cases found : m.job? job.id with
  | some other => exact .inl ⟨rfl, by simp⟩
  | none =>
      refine .inr ⟨rfl, by simp, ?_⟩
      intro id
      unfold job? at *
      rw [List.find?_append]
      split
      · rename_i same
        rw [same, found]
        simp
      · rename_i other
        have unseen : (job.id == id) = false := by simpa using Ne.symm other
        simp [unseen]

/-! ## Staged items -/

theorem insertStaged_cases (m : Memory) (item : StagedItem) :
    (m.insertStaged item).2 = m ∨ (m.job? item.jobId).isSome ∧
      (m.insertStaged item).2 = { m with staged := m.staged ++ [item] } := by
  unfold insertStaged
  split
  · exact .inl rfl
  · split
    · exact .inl rfl
    · rename_i owned
      exact .inr ⟨Option.isSome_iff_ne_none.mpr (by simpa using owned), rfl⟩

theorem updateStaged_cases (m : Memory) (item : StagedItem) :
    (m.updateStaged item).2 = m ∨ (m.updateStaged item).2 =
      { m with staged := replaceFirst (sameStaged item) (editedRow item) m.staged } := by
  unfold updateStaged
  split
  · exact .inr rfl
  · exact .inl rfl

end Larder.Memory
