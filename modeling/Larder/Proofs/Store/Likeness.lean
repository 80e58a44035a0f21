import Larder.Proofs.Store.Jobs
import Larder.Proofs.Store.Listing
import Mathlib.Data.String.Basic

namespace Larder

def Job.undated (job : Job) : Job :=
  { job with updatedAt := .ofSeconds 0 }

def StagedItem.called (name : Uuid → Uuid) (item : StagedItem) : StagedItem :=
  { item with id := name item.id, createdAt := .ofSeconds 0, updatedAt := .ofSeconds 0 }

namespace Memory

structure Alike (name : Uuid → Uuid) (m m' : Memory) : Prop where
  jobs : m.jobs.map (·.undated) = m'.jobs.map (·.undated)
  staged : m.staged.map (·.called name) = m'.staged.map (·.called name)
  refuses : m.failStagedInserts = m'.failStagedInserts

variable {name : Uuid → Uuid} {m m' : Memory}

theorem Alike.refl (m : Memory) : m.Alike name m := ⟨rfl, rfl, rfl⟩

theorem Alike.job? (alike : m.Alike name m') (id : Uuid) :
    (m.job? id).map (·.undated) = (m'.job? id).map (·.undated) := by
  have named (m : Memory) : (m.job? id).map (·.undated) = (m.jobs.map (·.undated)).find? (·.id == id) := by
    rw [List.find?_map]
    rfl
  rw [named, named, alike.jobs]

theorem Alike.insertStaged (alike : m.Alike name m') {item item' : StagedItem}
    (same : item.called name = item'.called name) :
    (m.insertStaged item).1 = (m'.insertStaged item').1 ∧
      (m.insertStaged item).2.Alike name (m'.insertStaged item').2 := by
  have sameJob : (item.called name).jobId = (item'.called name).jobId := by rw [same]
  change item.jobId = item'.jobId at sameJob
  have owner : (m.job? item.jobId).isNone = (m'.job? item'.jobId).isNone := by
    rw [← Option.isNone_map, alike.job? item.jobId, Option.isNone_map, sameJob]
  unfold Memory.insertStaged
  rw [alike.refuses, owner, sameJob]
  split
  · exact ⟨rfl, alike⟩
  · split
    · exact ⟨rfl, alike⟩
    · refine ⟨rfl, alike.jobs, ?_, alike.refuses⟩
      simp only [putStaged, List.map_append, alike.staged, List.map_cons, same, List.map_nil]

theorem Alike.transition (alike : m.Alike name m') (t : Transition) (time : Timestamp) :
    (m.transition t).1.map Option.isSome = (m'.transition { t with time }).1.map Option.isSome ∧
      (m.transition t).2.Alike name (m'.transition { t with time }).2 := by
  have named (time : Timestamp) (jobs : List Job) :
      (replaceFirst (·.id == t.jobId) (·.apply { t with time }) jobs).map (·.undated) =
        replaceFirst (·.id == t.jobId) (fun job => (job.apply t).undated) (jobs.map (·.undated)) := by
    apply map_replaceFirst_comm
    · exact fun _ => rfl
    · exact fun _ => rfl
  have found := alike.job? t.jobId
  unfold Memory.transition
  dsimp only
  cases first : m.job? t.jobId <;> cases second : m'.job? t.jobId <;> rw [first, second] at found
  · exact ⟨rfl, alike⟩
  · cases found
  · cases found
  · rename_i job job'
    have same : job.undated = job'.undated := Option.some.inj found
    have sameStatus : job.undated.status = job'.undated.status := by rw [same]
    change job.status = job'.status at sameStatus
    dsimp only
    rw [sameStatus]
    split
    · refine ⟨rfl, ?_, alike.staged, alike.refuses⟩
      exact (named t.time m.jobs).trans ((congrArg _ alike.jobs).trans (named time m'.jobs).symm)
    · exact ⟨rfl, alike⟩

/-! ## Listings -/

theorem Alike.listStaged_perm (alike : m.Alike name m') (jobId : Uuid) :
    ((m.listStaged jobId).map (·.called name)).Perm ((m'.listStaged jobId).map (·.called name)) := by
  have rows (m : Memory) : (m.staged.filter (·.jobId == jobId)).map (·.called name) =
      (m.staged.map (·.called name)).filter (·.jobId == jobId) := by
    rw [List.filter_map]
    rfl
  calc ((m.listStaged jobId).map (·.called name)).Perm
        ((m.staged.filter (·.jobId == jobId)).map (·.called name)) := (m.listStaged_perm jobId).map _
    _ = (m'.staged.filter (·.jobId == jobId)).map (·.called name) := by rw [rows, rows, alike.staged]
    List.Perm _ ((m'.listStaged jobId).map (·.called name)) := ((m'.listStaged_perm jobId).map _).symm

theorem listStaged_texts (m : Memory) (jobId : Uuid) :
    ((m.listStaged jobId).map (·.rawText)).Pairwise (· ≤ ·) := by
  rw [List.pairwise_map]
  apply (m.listStaged_sorted jobId).imp
  rintro a b (below | ⟨same, _⟩)
  · exact le_of_lt below
  · exact le_of_eq same

theorem Alike.listStaged_texts (alike : m.Alike name m') (jobId : Uuid) :
    (m.listStaged jobId).map (·.rawText) = (m'.listStaged jobId).map (·.rawText) := by
  have texts (m : Memory) : ((m.listStaged jobId).map (·.called name)).map (·.rawText) =
      (m.listStaged jobId).map (·.rawText) := List.map_map
  have perm := (alike.listStaged_perm jobId).map (·.rawText)
  rw [texts, texts] at perm
  exact perm.eq_of_pairwise (fun _ _ _ _ => le_antisymm) (m.listStaged_texts jobId)
    (m'.listStaged_texts jobId)

theorem Alike.listStaged_eq (alike : m.Alike id m') (jobId : Uuid) :
    (m.listStaged jobId).map (·.called id) = (m'.listStaged jobId).map (·.called id) := by
  have listed (m : Memory) : ({ m with staged := m.staged.map (·.called id) } : Memory).listStaged jobId =
      (m.listStaged jobId).map (·.called id) :=
    listStaged_map rfl (fun _ => rfl) (fun _ => rfl) (fun _ => rfl)
  rw [← listed, ← listed]
  unfold listStaged
  rw [alike.staged]

end Memory

end Larder
