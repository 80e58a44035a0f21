import Larder.Proofs.Review.Commit
import Larder.Proofs.Store.Constraints

namespace Larder

namespace Memory

def answers (m : Memory) : List PantryWrite → List (Except StoreError PantryItem)
  | [] => []
  | w :: rest => (m.upsertItem w).1 :: (m.write w).answers rest

theorem answers_append (m : Memory) (first rest : List PantryWrite) :
    m.answers (first ++ rest) = m.answers first ++ (m.writeAll first).answers rest := by
  induction first generalizing m with
  | nil => rfl
  | cons w first ih => simp [answers, ih]

def limited (m : Memory) (limit : Option Nat) : Memory :=
  { m with failUpsertsAfter := limit }

end Memory

namespace Service
open Memory

variable {overrides : List Override} {jobId : Uuid} {fault : ServiceError}

/-! ## Refusals -/

def notStaged (jobId : Uuid) (action : String) (status : JobStatus) : ServiceError :=
  .invalidState ("Job " ++ toString jobId ++ " must be staged to " ++ action ++
    "; current status is " ++ status.name ++ ".")

/-- Why a confirmation is refused, in the order in which it is found out. -/
inductive Refused (m : Memory) (jobId : Uuid) (overrides : List Override) : ServiceError → Prop
  | missing (absent : m.job? jobId = none) :
      Refused m jobId overrides (.notFound ("Job " ++ toString jobId ++ "."))
  | unreadable {job : Job} {unknown : UnknownValue} (present : m.job? jobId = some job)
      (unread : JobStatus.parse job.status = .error unknown) :
      Refused m jobId overrides (.storage unknown.message)
  | notStaged {job : Job} {status : JobStatus} (present : m.job? jobId = some job)
      (read : JobStatus.parse job.status = .ok status) (other : status ≠ .staged) :
      Refused m jobId overrides (notStaged job.id "confirm" status)
  | badOverrides {job : Job} {detail : String} (present : m.job? jobId = some job)
      (staged : job.status = JobStatus.staged.name)
      (rejected : checkOverrides jobId ((m.listStaged jobId).map (·.id)) [] 0 overrides =
        .error (.invalidRequest detail)) :
      Refused m jobId overrides (.invalidRequest detail)

theorem checkOverrides_error {known seen : List Uuid} {index : Nat}
    (rejected : checkOverrides jobId known seen index overrides = .error fault) :
    ∃ detail, fault = .invalidRequest detail := by
  induction overrides generalizing seen index with
  | nil => cases rejected
  | cons given rest ih =>
      rw [checkOverrides] at rejected
      split at rejected
      · exact ⟨_, (Except.error.inj rejected).symm⟩
      · split at rejected
        · exact ⟨_, (Except.error.inj rejected).symm⟩
        · split at rejected
          · exact ⟨_, (Except.error.inj rejected).symm⟩
          · exact ih rejected

theorem refused_or_accepted (m : Memory) (jobId : Uuid) (overrides : List Override) :
    (∃ fault, Refused m jobId overrides fault) ∨
      ∃ job, m.job? jobId = some job ∧ job.status = JobStatus.staged.name ∧
        checkOverrides jobId ((m.listStaged jobId).map (·.id)) [] 0 overrides = .ok () := by
  cases found : m.job? jobId with
  | none => exact .inl ⟨_, .missing found⟩
  | some job =>
      cases read : JobStatus.parse job.status with
      | error unknown => exact .inl ⟨_, .unreadable found read⟩
      | ok status =>
          by_cases isStaged : status = .staged
          · have staged : job.status = JobStatus.staged.name := by
              rw [← JobStatus.name_of_parse read, isStaged]
            cases checked : checkOverrides jobId ((m.listStaged jobId).map (·.id)) [] 0 overrides with
            | ok => exact .inr ⟨job, rfl, staged, rfl⟩
            | error fault =>
                obtain ⟨detail, rfl⟩ := checkOverrides_error checked
                exact .inl ⟨_, .badOverrides found staged checked⟩
          · exact .inl ⟨_, .notStaged found read isStaged⟩

variable (around : Surroundings)

theorem outcome_requireStaged_other (s : Situation) {job : Job} {status : JobStatus} (action : String)
    (read : JobStatus.parse job.status = .ok status) (other : status ≠ .staged) :
    (requireStaged job action).outcome around s = (.error (notStaged job.id action status), s) := by
  unfold requireStaged
  rw [read]
  dsimp only [Operation.parseStored]
  rw [pure_bind, if_pos other]
  exact Operation.outcome_throw around _ s

theorem outcome_loadJob_missing {s : Situation} (absent : s.memory.job? jobId = none) :
    (loadJob jobId).outcome around s =
      (.error (.notFound ("Job " ++ toString jobId ++ ".")), s.next around (.store (.getJob jobId))) := by
  unfold loadJob
  rw [Operation.outcome_bind, Operation.outcome_store]
  simp [Memory.perform, absent, Except.mapError]

theorem outcome_requireStaged_unreadable (s : Situation) {job : Job} {unknown : UnknownValue}
    (action : String) (unread : JobStatus.parse job.status = .error unknown) :
    (requireStaged job action).outcome around s = (.error (.storage unknown.message), s) := by
  unfold requireStaged
  rw [unread]
  rfl

theorem outcome_confirmJob_refused {s : Situation} (refused : Refused s.memory jobId overrides fault) :
    ∃ s', (confirmJob jobId overrides).outcome around s = (.error fault, s') ∧
      s'.memory = s.memory ∧ published s'.past = published s.past := by
  let loaded := s.next around (.store (.getJob jobId))
  let listed := loaded.next around (.store (.listStaged jobId))
  have quietLoad : published loaded.past = published s.past := by simp [loaded, Effect.batches]
  have quietList : published listed.past = published s.past := by simp [listed, quietLoad, Effect.batches]
  unfold confirmJob
  rw [Operation.outcome_bind]
  cases refused with
  | missing absent =>
      refine ⟨loaded, ?_, rfl, quietLoad⟩
      rw [outcome_loadJob_missing around absent]
  | unreadable present unread =>
      refine ⟨loaded, ?_, rfl, quietLoad⟩
      rw [outcome_loadJob around present]
      dsimp only
      rw [Operation.outcome_bind, outcome_requireStaged_unreadable around _ "confirm" unread]
  | notStaged present read other =>
      refine ⟨loaded, ?_, rfl, quietLoad⟩
      rw [outcome_loadJob around present]
      dsimp only
      rw [Operation.outcome_bind, outcome_requireStaged_other around _ "confirm" read other]
  | badOverrides present staged rejected =>
      refine ⟨listed, ?_, rfl, quietList⟩
      rw [outcome_loadJob around present]
      dsimp only
      rw [Operation.outcome_bind, outcome_requireStaged around "confirm" staged]
      dsimp only
      rw [Operation.outcome_bind, Operation.outcome_store]
      dsimp only [Memory.perform, Except.mapError, Situation.next_memory, Situation.memoryAfter]
      rw [Operation.outcome_bind, rejected]
      rfl

/-! ## Failed writes -/

/-- What a confirmation leaves of whose walk these writes went through, with these rows, and the next
one failed. -/
structure Stopped (before after : Situation) (jobId : Uuid) (overrides : List Override)
    (written : List PantryWrite) (failed : PantryWrite) (rows : List PantryItem) : Prop where
  inWalk : (written ++ [failed]).map (·.stock) <+: walk overrides (before.memory.listStaged jobId)
  answers : before.memory.answers (written ++ [failed]) =
    rows.map .ok ++ [.error (.backend (.injected "pantry upsert"))]
  pantry : after.memory.pantry = (before.memory.writeAll written).pantry
  attempts : after.memory.upserts = before.memory.upserts + (written ++ [failed]).length
  batch : published after.past = published before.past ++
    if written = [] then [] else [rows.map (·.id)]

theorem tried_prefix (m : Memory) (stocks : List Stock) : tried m stocks <+: stocks := by
  unfold tried
  split
  · exact List.prefix_rfl
  · exact List.take_prefix _ _

variable {before after : Memory} {items : List StagedItem} {written : Written}
  {writes : List PantryWrite}

theorem Walk.answers (h : Walk overrides before items written writes after) :
    ∃ rows : List PantryItem, written.itemIds = rows.map (·.id) ∧ before.answers writes =
      rows.map .ok ++ (written.fault.toList.map fun _ => .error (.backend (.injected "pantry upsert"))) := by
  induction h with
  | finished m => exact ⟨[], rfl, rfl⟩
  | skipping without later ih => exact ih
  | failing stock fails => exact ⟨[], rfl, by simp [Memory.answers, upsertItem_of_not_admits fails]⟩
  | @writing m after item rest written writes w row stock answer later ih =>
      obtain ⟨rows, ids, answers⟩ := ih
      exact ⟨row :: rows, by simp [ids], by simp [Memory.answers, answer, answers]⟩

theorem Walk.stopped (h : Walk overrides before items written writes after)
    (stops : written.fault = some fault) :
    ∃ (done : List PantryWrite) (failed : PantryWrite) (rows : List PantryItem),
      writes = done ++ [failed] ∧ written.itemIds = rows.map (·.id) ∧
      done.length = rows.length ∧
      before.answers writes = rows.map .ok ++ [.error (.backend (.injected "pantry upsert"))] ∧
      after.pantry = (before.writeAll done).pantry := by
  obtain ⟨rows, ids, answers⟩ := h.answers
  have count := h.length
  rw [stops] at answers count
  rcases List.eq_nil_or_concat writes with none | ⟨done, failed, rfl⟩
  · simp [none] at count
  · rw [List.concat_eq_append] at *
    have sameLength : done.length = rows.length := by simpa [ids] using count
    refine ⟨done, failed, rows, rfl, ids, sameLength, answers, ?_⟩
    rw [answers_append] at answers
    have last := (List.append_inj' answers rfl).2
    have fails : ((before.writeAll done).upsertItem failed).1 =
        .error (.backend (.injected "pantry upsert")) := by simpa [Memory.answers] using last
    rw [h.memory, writeAll_append, writeAll_cons, writeAll_nil]
    exact write_pantry_of_error fails

theorem stopped_of_error {s s' : Situation} {job : Job} (present : s.memory.job? jobId = some job)
    (staged : job.status = JobStatus.staged.name)
    (accepted : checkOverrides jobId ((s.memory.listStaged jobId).map (·.id)) [] 0 overrides = .ok ())
    (fails : (confirmJob jobId overrides).outcome around s = (.error fault, s')) :
    fault = writeFault ∧ ∃ written failed rows,
      s'.memory = s.memory.writeAll (written ++ [failed]) ∧
      Stopped s s' jobId overrides written failed rows := by
  obtain ⟨written, writes, walked, left, walks, batch, ends⟩ :=
    outcome_confirmJob around present staged accepted
  cases stops : written.fault with
  | none =>
      rw [stops] at ends
      rw [ends.1] at fails
      cases fails
  | some reason =>
      rw [stops] at ends
      obtain ⟨ends, memoryAfter⟩ := ends
      rw [ends] at fails
      cases fails
      obtain ⟨done, failed, rows, rfl, ids, sameLength, answers, pantry⟩ := walks.stopped stops
      refine ⟨walks.fault_eq fault stops, done, failed, rows, by rw [memoryAfter, walks.memory], ?_⟩
      constructor
      case inWalk =>
        rw [walks.stocks]
        exact tried_prefix _ _
      case answers => exact answers
      case pantry => rw [memoryAfter, pantry]
      case attempts => rw [memoryAfter, walks.memory, writeAll_upserts]
      case batch =>
        have none : rows.map (·.id) = [] ↔ done = [] := by
          rw [← List.length_eq_zero_iff, List.length_map, ← sameLength, List.length_eq_zero_iff]
        rw [batch, ids]
        unfold batchOf
        simp only [List.isEmpty_iff, none]

theorem exists_failure {m : Memory} {job : Job} (past : List Event)
    (present : m.job? jobId = some job) (staged : job.status = JobStatus.staged.name)
    (accepted : checkOverrides jobId ((m.listStaged jobId).map (·.id)) [] 0 overrides = .ok ())
    {k : Nat} (positive : 1 ≤ k) (inWalk : k ≤ (walk overrides (m.listStaged jobId)).length) :
    ∃ fault s', (confirmJob jobId overrides).outcome around
        ⟨m.limited (some (m.upserts + (k - 1))), past⟩ = (.error fault, s') ∧
      s'.memory.upserts = m.upserts + k := by
  let start : Situation := ⟨m.limited (some (m.upserts + (k - 1))), past⟩
  obtain ⟨written, writes, walked, s', walks, _, ends⟩ :=
    outcome_confirmJob around (s := start) present staged accepted
  have stops : written.fault ≠ none := by
    intro none
    have within := walks.fault_eq_none_iff.mp none _ rfl
    change (walk overrides (m.listStaged jobId)).length ≤ m.upserts + (k - 1) - m.upserts at within
    omega
  obtain ⟨fault, stops⟩ := Option.ne_none_iff_exists'.mp stops
  rw [stops] at ends
  obtain ⟨ends, memoryAfter⟩ := ends
  have count : writes.length = k := by
    have tries := congrArg List.length walks.stocks
    simp only [List.length_map, tried, start, limited, List.length_take] at tries
    change writes.length = min _ (walk overrides (m.listStaged jobId)).length at tries
    omega
  refine ⟨fault, s', ends, ?_⟩
  rw [memoryAfter, walks.memory, writeAll_upserts, count]
  rfl

theorem confirmJob_failure {s s' : Situation}
    (fails : (confirmJob jobId overrides).outcome around s = (.error fault, s')) :
    s'.memory.jobs = s.memory.jobs ∧ s'.memory.staged = s.memory.staged ∧
      ((Refused s.memory jobId overrides fault ∧ s'.memory = s.memory ∧
          published s'.past = published s.past) ∨
        fault = writeFault ∧ ∃ written failed rows, Stopped s s' jobId overrides written failed rows) := by
  rcases refused_or_accepted s.memory jobId overrides with
    ⟨reason, refused⟩ | ⟨job, present, staged, accepted⟩
  · obtain ⟨left, ends, sameMemory, quiet⟩ := outcome_confirmJob_refused around refused
    rw [ends] at fails
    cases fails
    exact ⟨by rw [sameMemory], by rw [sameMemory], .inl ⟨refused, sameMemory, quiet⟩⟩
  · obtain ⟨isWrite, written, failed, rows, memoryAfter, stopped⟩ :=
      stopped_of_error around present staged accepted fails
    refine ⟨?_, ?_, .inr ⟨isWrite, written, failed, rows, stopped⟩⟩
    · rw [memoryAfter, writeAll_jobs]
    · rw [memoryAfter, writeAll_staged]

/-! In the kitchen the second of three writes fails. -/

namespace Kitchen

theorem length_walk : (walk Kitchen.overrides (memory.listStaged baking.id)).length = 3 := by
  have same := ((listStaged_perm memory baking.id).filterMap (committed? Kitchen.overrides)).length_eq
  exact same.trans rfl

end Kitchen

open Kitchen in
theorem confirmJob_failure_kitchen :
    ∃ fault s', (confirmJob baking.id Kitchen.overrides).outcome surroundings
        ⟨memory.limited (some 1), []⟩ = (.error fault, s') ∧ s'.memory.upserts = 2 ∧
      s'.memory.jobs = memory.jobs ∧ s'.memory.staged = memory.staged ∧
      ((Refused (memory.limited (some 1)) baking.id Kitchen.overrides fault ∧
          s'.memory = memory.limited (some 1) ∧ published s'.past = published []) ∨
        fault = writeFault ∧ ∃ written failed rows,
          Stopped ⟨memory.limited (some 1), []⟩ s' baking.id Kitchen.overrides written failed rows) := by
  obtain ⟨fault, s', fails, attempts⟩ := exists_failure surroundings (m := memory) (k := 2) []
    (rfl : memory.job? baking.id = some baking) rfl overrides_accepted (by decide)
    (by rw [length_walk]; decide)
  exact ⟨fault, s', fails, attempts, confirmJob_failure surroundings fails⟩

end Service

end Larder
