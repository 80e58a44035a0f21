import Larder.Proofs.Sql.Statements
import Larder.Proofs.Store.Rows
import Larder.Proofs.Store.Rules

namespace Larder

open Sql Store Memory

namespace StoreCall

def IsWhole : StoreCall → Prop
  | .upsertItem w => (PantryItem.ofWrite w).IsWhole
  | .insertJob job => job.IsWhole
  | .transition t => t.time.IsWhole
  | .insertStaged item => item.IsWhole
  | .updateStaged item => item.updatedAt.IsWhole
  | .deleteItem _ | .deleteAllItems | .listItems | .getJob _ | .listStaged _ => True

theorem IsWhole.brings {call : StoreCall} (whole : call.IsWhole) :
    call.Brings PantryItem.IsWhole Job.IsWhole StagedItem.IsWhole := by
  cases call with
  | upsertItem w => exact ⟨whole, fun _ old => ⟨whole.expiresAt, old.addedAt, whole.updatedAt⟩⟩
  | insertJob job => exact whole
  | transition t => exact fun _ old => ⟨old.createdAt, whole⟩
  | insertStaged item => exact whole
  | updateStaged item => exact fun _ stored => ⟨stored.createdAt, whole⟩
  | deleteItem | deleteAllItems | listItems | getJob | listStaged => trivial

def inUtc : (call : StoreCall) → call.Value → call.Value
  | .upsertItem _, item => item.mapTimes .utc
  | .deleteItem _, done => done
  | .deleteAllItems, count => count
  | .listItems, items => items.map (·.mapTimes .utc)
  | .insertJob _, done => done
  | .getJob _, job? => job?.map (·.mapTimes .utc)
  | .transition _, job? => job?.map (·.mapTimes .utc)
  | .insertStaged _, done => done
  | .listStaged _, items => items.map (·.mapTimes .utc)
  | .updateStaged _, item => item.mapTimes .utc

/-- Both answers are errors, or both are the same value. Tables do not keep the offset that a time was given
in. -/
def Agree (call : StoreCall) (memory tables : call.Answer) : Prop :=
  tables.toOption = memory.toOption.map call.inUtc

end StoreCall

namespace Memory

abbrev IsWhole (m : Memory) : Prop :=
  m.Throughout PantryItem.IsWhole Job.IsWhole StagedItem.IsWhole

end Memory

namespace Store

/-- The database answers a call as the store in memory does, and holds its rows afterwards. -/
def Corresponds (database : Database) (m : Memory) (call : StoreCall) : Prop :=
  call.Agree (m.perform call).1 (call.execute database).1 ∧
    Holds (call.execute database).2 (m.perform call).2

variable {database : Database} {m : Memory}

theorem Corresponds.of_ok {call : StoreCall} {outcome : Outcome} (done : call.outcome database = .ok outcome)
    (agree : call.Agree (m.perform call).1 (call.valueOf outcome.rows outcome.affected))
    (holds : Holds outcome.database (m.perform call).2) : Corresponds database m call := by
  unfold Corresponds StoreCall.execute
  rw [done]
  exact ⟨agree, holds⟩

theorem Corresponds.of_error {call : StoreCall} {breach : Breach} {error : StoreError}
    (refused : call.outcome database = .error breach) (failed : m.perform call = (.error error, m))
    (holds : Holds database m) : Corresponds database m call := by
  unfold Corresponds StoreCall.execute
  rw [refused, failed]
  exact ⟨rfl, holds⟩

theorem put_pantry (holds : Holds database m) (rows : List PantryItem) {m' : Memory}
    (pantry : m'.pantry = rows) (jobs : m'.jobs = m.jobs) (staged : m'.staged = m.staged) :
    Holds (database.put pantryItems (rows.map pantryRow)) m' where
  pantry := by rw [Database.put_self, pantry]
  jobs := by rw [Database.put_of_ne _ _ (by decide), holds.jobs, jobs]
  staged := by rw [Database.put_of_ne _ _ (by decide), holds.staged, staged]

theorem put_jobs (holds : Holds database m) (rows : List Job) :
    Holds (database.put ingestionJobs (rows.map jobRow)) { m with jobs := rows } where
  pantry := by rw [Database.put_of_ne _ _ (by decide), holds.pantry]
  jobs := by rw [Database.put_self]
  staged := by rw [Database.put_of_ne _ _ (by decide), holds.staged]

theorem put_staged (holds : Holds database m) (rows : List StagedItem) :
    Holds (database.put stagedItems (rows.map stagedRow)) { m with staged := rows } where
  pantry := by rw [Database.put_of_ne _ _ (by decide), holds.pantry]
  jobs := by rw [Database.put_of_ne _ _ (by decide), holds.jobs]
  staged := by rw [Database.put_self]

theorem unfitness?_ofWrite {w : PantryWrite} (bounded : (StoreCall.upsertItem w).IsBounded) :
    pantryItems.unfitness? [pantryRow (.ofWrite w)] = none := by
  have proposed : pantryItems.breach? (fun _ => []) (([] : List PantryItem).map pantryRow)
      ([.ofWrite w].map pantryRow) = none := by
    rw [pantryItems_breach?_iff, List.forall_mem_singleton]
    exact ⟨.nil, .nil, bounded⟩
  unfold Table.breach? at proposed
  exact (Option.or_eq_none_iff.mp proposed).1

theorem agree_upsertItem {w : PantryWrite} {item : PantryItem} (whole : item.IsWhole) (affected : Nat) :
    (StoreCall.upsertItem w).Agree (.ok item)
      ((StoreCall.upsertItem w).valueOf [pantryRow item] affected) := by
  unfold StoreCall.Agree StoreCall.valueOf readFirst
  dsimp only
  rw [readPantryItem_pantryRow whole]
  rfl

def sameIngredient : OnConflict :=
  ⟨"ingredient_id", ["quantity", "unit", "expires_at", "updated_at"]⟩

theorem outcome_upsertItem (w : PantryWrite) : (StoreCall.upsertItem w).outcome database =
    insertRow pantryItems (some sameIngredient) (pantryRow (.ofWrite w)) database := rfl

theorem isMet_pantryRow (w : PantryWrite) (item : PantryItem) :
    sameIngredient.isMet (pantryRow (.ofWrite w)) (pantryRow item) =
      (item.ingredientId == w.ingredientId) := rfl

theorem merge_pantryRow (w : PantryWrite) (item : PantryItem) :
    sameIngredient.merge (pantryRow (.ofWrite w)) (pantryRow item) = pantryRow (item.replaced w) := rfl

section
variable {w : PantryWrite}

theorem corresponds_upsertItem_present {item : PantryItem} (holds : Holds database m) (rules : m.KeepsRules)
    (never : m.NeverFails) (bounded : (StoreCall.upsertItem w).IsBounded)
    (after : (m.perform (.upsertItem w)).2.KeepsRules) (whole : (m.perform (.upsertItem w)).2.IsWhole)
    (found : m.pantry.find? (·.ingredientId == w.ingredientId) = some item) :
    Corresponds database m (.upsertItem w) := by
  have one := rules.atMostOne_ingredient w.ingredientId
  let rows := m.pantry.map fun y => if y.ingredientId == w.ingredientId then y.replaced w else y
  have performed : m.perform (.upsertItem w) =
      (.ok (item.replaced w), { m with upserts := m.upserts + 1, pantry := rows }) := by
    rw [Memory.perform, Memory.upsertItem, never.upsertFails, found, replaceFirst_eq_map one]
    rfl
  have concerned : m.pantry.filter (·.ingredientId == w.ingredientId) = [item] := by
    rw [filter_eq_toList one, found]
    rfl
  obtain ⟨there, same⟩ := List.mem_filter.mp (concerned ▸ List.mem_singleton_self item)
  rw [performed] at after whole
  have replaced : (item.replaced w).IsWhole := by
    apply whole.pantry
    exact List.mem_map.mpr ⟨item, there, if_pos same⟩
  have fits : pantryItems.breach? database (rows.map pantryRow) ([item.replaced w].map pantryRow) = none := by
    rw [pantryItems_breach?_iff, List.forall_mem_singleton]
    exact ⟨after.itemIds, after.ingredientIds, bounded⟩
  have executed : (StoreCall.upsertItem w).outcome database =
      .ok ⟨[item.replaced w].map pantryRow, 1, database.put pantryItems (rows.map pantryRow)⟩ := by
    have inserted := insertRow_met holds.pantry (isMet_pantryRow w)
      (List.any_eq_true.mpr ⟨item, there, same⟩) (merge_pantryRow w) (unfitness?_ofWrite bounded)
    rw [concerned] at inserted
    exact (outcome_upsertItem w).trans (inserted fits)
  apply Corresponds.of_ok executed
  · rw [performed]
    exact agree_upsertItem replaced _
  · rw [performed]
    exact put_pantry holds rows rfl rfl rfl

theorem corresponds_upsertItem_absent (holds : Holds database m) (never : m.NeverFails)
    (bounded : (StoreCall.upsertItem w).IsBounded)
    (after : (m.perform (.upsertItem w)).2.KeepsRules) (whole : (m.perform (.upsertItem w)).2.IsWhole)
    (absent : m.pantry.find? (·.ingredientId == w.ingredientId) = none) :
    Corresponds database m (.upsertItem w) := by
  have performed : m.perform (.upsertItem w) =
      (.ok (.ofWrite w), { m with upserts := m.upserts + 1, pantry := m.pantry ++ [.ofWrite w] }) := by
    rw [Memory.perform, Memory.upsertItem, never.upsertFails, absent]
    rfl
  rw [performed] at after whole
  have nowhere : m.pantry.any (·.ingredientId == w.ingredientId) = false :=
    List.any_eq_false.mpr (List.find?_eq_none.mp absent)
  have fits : pantryItems.breach? database ((m.pantry ++ [PantryItem.ofWrite w]).map pantryRow)
      ([PantryItem.ofWrite w].map pantryRow) = none := by
    rw [pantryItems_breach?_iff, List.forall_mem_singleton]
    exact ⟨after.itemIds, after.ingredientIds, bounded⟩
  have executed : (StoreCall.upsertItem w).outcome database = .ok ⟨[pantryRow (PantryItem.ofWrite w)], 1,
      database.put pantryItems ((m.pantry ++ [PantryItem.ofWrite w]).map pantryRow)⟩ :=
    (outcome_upsertItem w).trans (insertRow_unmet holds.pantry (isMet_pantryRow w) nowhere fits)
  apply Corresponds.of_ok executed
  · rw [performed]
    exact agree_upsertItem (whole.pantry _ (by simp)) _
  · rw [performed]
    exact put_pantry holds _ rfl rfl rfl

theorem corresponds_upsertItem (holds : Holds database m) (rules : m.KeepsRules) (never : m.NeverFails)
    (bounded : (StoreCall.upsertItem w).IsBounded) (after : (m.perform (.upsertItem w)).2.KeepsRules)
    (whole : (m.perform (.upsertItem w)).2.IsWhole) : Corresponds database m (.upsertItem w) := by
  cases found : m.pantry.find? (·.ingredientId == w.ingredientId) with
  | some item => exact corresponds_upsertItem_present holds rules never bounded after whole found
  | none => exact corresponds_upsertItem_absent holds never bounded after whole found

end

theorem withoutOrphans_eq_self (holds : Holds database m) (rules : m.KeepsRules) :
    database.withoutOrphans tables = database := by
  have whole := holds.breach?_eq_none_iff.mpr rules
  apply Database.withoutOrphans_eq_self
  intro table member
  exact (Table.breach?_eq_none_iff.mp (whole table member)).2.2.2

theorem outcome_delete {condition : List Binding} {parameters : List Value} {meets : PantryItem → Bool}
    (met : ∀ item, (pantryRow item).meets parameters condition = meets item) (holds : Holds database m)
    {m' : Memory} (rules : m'.KeepsRules) (pantry : m'.pantry = m.pantry.filter (!meets ·))
    (jobs : m'.jobs = m.jobs) (staged : m'.staged = m.staged) :
    ∃ after, (Statement.delete pantryItems condition).execute tables parameters database =
      .ok ⟨[], m.pantry.length - m'.pantry.length, after⟩ ∧ Holds after m' := by
  have put := put_pantry holds _ pantry jobs staged
  refine ⟨_, ?_, put⟩
  rw [execute_delete holds.pantry met, ← pantry, withoutOrphans_eq_self (pantry ▸ put) rules]

theorem corresponds_deleteItem (holds : Holds database m) (rules : m.KeepsRules) (id : Uuid) :
    Corresponds database m (.deleteItem id) := by
  have met (item : PantryItem) :
      (pantryRow item).meets (StoreCall.deleteItem id).parameters [⟨"item_id", 1⟩] = (item.id == id) :=
    Bool.and_true _
  have after : (m.perform (.deleteItem id)).2.KeepsRules := rules.perform trivial trivial
  by_cases there : m.pantry.any (·.id == id) = true
  · have performed : m.perform (.deleteItem id) =
        (.ok (), { m with pantry := m.pantry.filter (!·.id == id) }) := if_pos there
    rw [performed] at after
    obtain ⟨next, executed, holdsNext⟩ := outcome_delete met holds after rfl rfl rfl
    have fewer : (m.pantry.filter (!·.id == id)).length < m.pantry.length := by
      obtain ⟨item, member, same⟩ := List.any_eq_true.mp there
      apply List.length_filter_lt_length_iff_exists.mpr
      exact ⟨item, member, by simp [same]⟩
    apply Corresponds.of_ok executed
    · have affected : m.pantry.length - (m.pantry.filter (!·.id == id)).length ≠ 0 := by omega
      rw [performed]
      unfold StoreCall.Agree StoreCall.valueOf
      dsimp only
      rw [if_neg affected]
      rfl
    · rw [performed]
      exact holdsNext
  · have performed : m.perform (.deleteItem id) = (.error (.noPantryItem id), m) := if_neg there
    have kept : m.pantry = m.pantry.filter (!·.id == id) := by
      rw [Bool.not_eq_true, List.any_eq_false] at there
      exact (List.filter_eq_self.mpr fun item member => by simp [there item member]).symm
    obtain ⟨next, executed, holdsNext⟩ := outcome_delete met holds rules kept rfl rfl
    apply Corresponds.of_ok executed
    · rw [performed]
      unfold StoreCall.Agree StoreCall.valueOf
      dsimp only
      rw [if_pos (Nat.sub_self _)]
      rfl
    · rw [performed]
      exact holdsNext

theorem corresponds_deleteAllItems (holds : Holds database m) (rules : m.KeepsRules) :
    Corresponds database m .deleteAllItems := by
  have after : (m.perform .deleteAllItems).2.KeepsRules := rules.perform trivial trivial
  have met (item : PantryItem) : (pantryRow item).meets StoreCall.deleteAllItems.parameters [] = true := rfl
  have none : m.pantry.filter (fun _ => !true) = [] :=
    List.filter_eq_nil_iff.mpr fun _ _ => Bool.false_ne_true
  obtain ⟨next, executed, holdsNext⟩ := outcome_delete met holds after none.symm rfl rfl
  exact Corresponds.of_ok executed rfl holdsNext

/-! ## Listings -/

theorem corresponds_listItems (holds : Holds database m) (whole : m.IsWhole) :
    Corresponds database m .listItems := by
  have met (item : PantryItem) : (pantryRow item).meets StoreCall.listItems.parameters [] = true := rfl
  have all : m.pantry.filter (fun _ => true) = m.pantry := List.filter_true _
  have executed : StoreCall.listItems.outcome database =
      .ok ⟨m.listItems.map pantryRow, m.pantry.length, database⟩ := by
    have selected : StoreCall.listItems.outcome database =
        .ok ⟨((m.pantry.filter fun _ => true).mergeSort pantryOrder).map pantryRow,
          (m.pantry.filter fun _ => true).length, database⟩ :=
      execute_select_sorted holds.pantry met rfl fun a thereA b thereB =>
        pantryOrder_pantryRow (whole.pantry a thereA) (whole.pantry b thereB)
    rw [all] at selected
    exact selected
  apply Corresponds.of_ok executed _ holds
  have back : ∀ item ∈ m.listItems, readPantryItem (pantryRow item) = .ok (item.mapTimes .utc) :=
    fun item there => readPantryItem_pantryRow (whole.pantry item (m.listItems_perm.mem_iff.mp there))
  unfold StoreCall.Agree StoreCall.valueOf
  dsimp only
  rw [mapM_read back]
  rfl

theorem corresponds_listStaged (holds : Holds database m) (whole : m.IsWhole) (jobId : Uuid) :
    Corresponds database m (.listStaged jobId) := by
  have met (item : StagedItem) : (stagedRow item).meets (StoreCall.listStaged jobId).parameters
      [⟨"job_id", 1⟩] = (item.jobId == jobId) := Bool.and_true _
  have executed : (StoreCall.listStaged jobId).outcome database = .ok ⟨(m.listStaged jobId).map stagedRow,
      (m.staged.filter (·.jobId == jobId)).length, database⟩ :=
    execute_select_sorted holds.staged met rfl fun a _ b _ => stagedOrder_stagedRow a b
  apply Corresponds.of_ok executed _ holds
  have back : ∀ item ∈ m.listStaged jobId, readStagedItem (stagedRow item) = .ok (item.mapTimes .utc) :=
    fun item there => readStagedItem_stagedRow (whole.staged item (mem_listStaged.mp there).1)
  unfold StoreCall.Agree StoreCall.valueOf
  dsimp only
  rw [mapM_read back]
  rfl

/-! ## Jobs -/

theorem corresponds_getJob (holds : Holds database m) (whole : m.IsWhole) (id : Uuid) :
    Corresponds database m (.getJob id) := by
  have met (job : Job) : (jobRow job).meets (StoreCall.getJob id).parameters [⟨"job_id", 1⟩] =
      (job.id == id) := Bool.and_true _
  have executed : (StoreCall.getJob id).outcome database = .ok ⟨(m.jobs.filter (·.id == id)).map jobRow,
      (m.jobs.filter (·.id == id)).length, database⟩ := execute_select holds.jobs met
  apply Corresponds.of_ok executed _ holds
  have back : ∀ job ∈ m.jobs.filter (·.id == id), readJob (jobRow job) = .ok (job.mapTimes .utc) :=
    fun job there => readJob_jobRow (whole.jobs job (List.mem_filter.mp there).1)
  have first : (m.jobs.filter (·.id == id)).head? = m.job? id := List.head?_filter
  unfold StoreCall.Agree StoreCall.valueOf
  dsimp only
  rw [readFirst_read back, first]
  rfl

theorem corresponds_insertJob (holds : Holds database m) {job : Job} (bounded : job.IsBounded)
    (after : (m.perform (.insertJob job)).2.KeepsRules) : Corresponds database m (.insertJob job) := by
  have outcome : (StoreCall.insertJob job).outcome database =
    insertRow ingestionJobs none (jobRow job) database := rfl
  rcases insertJob_cases m job with ⟨present, done⟩ | ⟨_, done, _⟩
  · have breach : ingestionJobs.breach? database ((m.jobs ++ [job]).map jobRow)
        ([job].map jobRow) ≠ none := by
      obtain ⟨other, found⟩ := Option.isSome_iff_exists.mp present
      have used : job.id ∈ m.jobs.map (·.id) :=
        List.mem_map.mpr ⟨other, List.mem_of_find?_eq_some found, job?_id found⟩
      rw [Ne, ingestionJobs_breach?_iff, List.map_append, List.nodup_append]
      exact fun fits => fits.1.2.2 _ used _ (List.mem_singleton_self _) rfl
    obtain ⟨refusal, refused⟩ := insertRow_refused holds.jobs breach
    exact .of_error (outcome.trans refused) done holds
  · have performed : m.perform (.insertJob job) = (.ok (), { m with jobs := m.jobs ++ [job] }) := done
    rw [performed] at after
    have fits : ingestionJobs.breach? database ((m.jobs ++ [job]).map jobRow) ([job].map jobRow) = none := by
      rw [ingestionJobs_breach?_iff, List.forall_mem_singleton]
      exact ⟨after.jobIds, bounded⟩
    have executed := outcome.trans (insertRow_none holds.jobs fits)
    apply Corresponds.of_ok executed
    · rw [performed]
      rfl
    · rw [performed]
      exact put_jobs holds _

def isSource (t : Transition) (job : Job) : Bool :=
  job.id == t.jobId && job.status == t.source

theorem transition_eq (rules : m.KeepsRules) (t : Transition) :
    m.transition t = (.ok ((m.jobs.find? (isSource t)).map (·.apply t)),
      { m with jobs := m.jobs.map fun job => if isSource t job then job.apply t else job }) := by
  have one := rules.atMostOne_job t.jobId
  have named {job : Job} (there : job ∈ m.jobs) (same : (job.id == t.jobId) = true) :
      m.job? t.jobId = some job := one.find?_eq_some there same
  rcases transition_cases m t with ⟨job, after, present, expected, done, rfl, _⟩ | ⟨done, refused⟩
  · have meets {other : Job} (there : other ∈ m.jobs) :
        isSource t other = (other.id == t.jobId) := by
      cases same : other.id == t.jobId with
      | false => simp [isSource, same]
      | true =>
          obtain rfl : job = other := Option.some.inj (present.symm.trans (named there same))
          simp [isSource, same, expected]
    have found : m.jobs.find? (isSource t) = some job := by
      rw [← present, job?, ← List.head?_filter, ← List.head?_filter,
        List.filter_congr fun other there => meets there]
    have mapped : m.jobs.map (fun other => if isSource t other then other.apply t else other) =
        m.jobs.map (fun other => if other.id == t.jobId then other.apply t else other) :=
      List.map_congr_left fun other there => by rw [meets there]
    rw [done, found, replaceFirst_eq_map one, mapped]
    rfl
  · have none {job : Job} (there : job ∈ m.jobs) : isSource t job = false := by
      cases same : job.id == t.jobId with
      | false => simp [isSource, same]
      | true => simp [isSource, refused job (named there same)]
    have found : m.jobs.find? (isSource t) = .none :=
      List.find?_eq_none.mpr fun job there => by simp [none there]
    have kept : m.jobs.map (fun job => if isSource t job then job.apply t else job) = m.jobs.map id :=
      List.map_congr_left fun job there => by simp [none there]
    rw [done, found, kept, List.map_id]
    rfl

theorem corresponds_transition (holds : Holds database m) (rules : m.KeepsRules) {t : Transition}
    (bounded : (StoreCall.transition t).IsBounded) (after : (m.perform (.transition t)).2.KeepsRules)
    (whole : (m.perform (.transition t)).2.IsWhole) : Corresponds database m (.transition t) := by
  let rows := m.jobs.map fun job => if isSource t job then job.apply t else job
  let changed := (m.jobs.filter (isSource t)).map (·.apply t)
  have performed : m.perform (.transition t) =
      (.ok ((m.jobs.find? (isSource t)).map (·.apply t)), { m with jobs := rows }) := transition_eq rules t
  have met (job : Job) : (jobRow job).meets (StoreCall.transition t).parameters
      [⟨"job_id", 1⟩, ⟨"status", 2⟩] = isSource t job :=
    congrArg _ (Bool.and_true _)
  rw [performed] at after whole
  have fits : ingestionJobs.breach? database (rows.map jobRow) (changed.map jobRow) = none := by
    rw [ingestionJobs_breach?_iff]
    exact ⟨after.jobIds, List.forall_mem_map.mpr fun _ _ => bounded⟩
  have executed : (StoreCall.transition t).outcome database = .ok ⟨changed.map jobRow,
      (m.jobs.filter (isSource t)).length, database.put ingestionJobs (rows.map jobRow)⟩ :=
    execute_update holds.jobs met (fun _ => rfl) fits
  apply Corresponds.of_ok executed
  · have back : ∀ job ∈ changed, readJob (jobRow job) = .ok (job.mapTimes .utc) := by
      intro job there
      obtain ⟨old, member, rfl⟩ := List.mem_map.mp there
      obtain ⟨present, same⟩ := List.mem_filter.mp member
      apply readJob_jobRow
      apply whole.jobs
      exact List.mem_map.mpr ⟨old, present, if_pos same⟩
    have first : changed.head? = (m.jobs.find? (isSource t)).map (·.apply t) := by
      rw [List.head?_map, List.head?_filter]
    rw [performed]
    unfold StoreCall.Agree StoreCall.valueOf
    dsimp only
    rw [readFirst_read back, first]
    rfl
  · rw [performed]
    exact put_jobs holds rows

/-! ## Staged items -/

theorem corresponds_insertStaged (holds : Holds database m) (never : m.NeverFails) {item : StagedItem}
    (bounded : item.IsBounded) (after : (m.perform (.insertStaged item)).2.KeepsRules) :
    Corresponds database m (.insertStaged item) := by
  have outcome : (StoreCall.insertStaged item).outcome database =
    insertRow stagedItems none (stagedRow item) database := rfl
  cases owner : m.job? item.jobId with
  | none =>
      have failed : m.perform (.insertStaged item) = (.error (.noSuchJob item.jobId), m) := by
        rw [Memory.perform, Memory.insertStaged, never.stagedInserts, owner]
        rfl
      have breach : stagedItems.breach? database ((m.staged ++ [item]).map stagedRow)
          ([item].map stagedRow) ≠ none := by
        rw [Ne, stagedItems_breach?_iff holds.jobs]
        rintro ⟨_, _, owned⟩
        obtain ⟨job, there, same⟩ := List.mem_map.mp (owned item (List.mem_singleton_self _))
        exact absurd same (by simpa using List.find?_eq_none.mp owner job there)
      obtain ⟨refusal, refused⟩ := insertRow_refused holds.staged breach
      exact .of_error (outcome.trans refused) failed holds
  | some job =>
      have performed : m.perform (.insertStaged item) =
          (.ok (), { m with staged := m.staged ++ [item] }) := by
        simp [Memory.perform, Memory.insertStaged, Memory.putStaged, never.stagedInserts, owner]
      rw [performed] at after
      have fits : stagedItems.breach? database ((m.staged ++ [item]).map stagedRow)
          ([item].map stagedRow) = none := by
        rw [stagedItems_breach?_iff holds.jobs, List.forall_mem_singleton, List.forall_mem_singleton]
        exact ⟨after.stagedIds, bounded, after.owners item (by simp)⟩
      apply Corresponds.of_ok (outcome.trans (insertRow_none holds.staged fits))
      · rw [performed]
        rfl
      · rw [performed]
        exact put_staged holds _

theorem corresponds_updateStaged (holds : Holds database m) (rules : m.KeepsRules) {item : StagedItem}
    (after : (m.perform (.updateStaged item)).2.KeepsRules)
    (whole : (m.perform (.updateStaged item)).2.IsWhole) : Corresponds database m (.updateStaged item) := by
  have one := rules.atMostOne_staged item
  let rows := m.staged.map fun stored => if sameStaged item stored then editedRow item stored else stored
  let changed := (m.staged.filter (sameStaged item)).map (editedRow item)
  have next : (m.perform (.updateStaged item)).2 = { m with staged := rows } := by
    cases found : m.staged.find? (sameStaged item) with
    | some stored =>
        rw [Memory.perform, Memory.updateStaged, found, replaceFirst_eq_map one]
    | none =>
        have kept : rows = m.staged.map id :=
          List.map_congr_left fun stored there => if_neg (List.find?_eq_none.mp found stored there)
        rw [Memory.perform, Memory.updateStaged, found, kept, List.map_id]
  have met (stored : StagedItem) : (stagedRow stored).meets (StoreCall.updateStaged item).parameters
      [⟨"staged_item_id", 1⟩, ⟨"job_id", 2⟩] = sameStaged item stored :=
    congrArg _ (Bool.and_true _)
  rw [next] at after whole
  have written {stored : StagedItem} (there : stored ∈ changed) : stored ∈ rows := by
    obtain ⟨old, member, rfl⟩ := List.mem_map.mp there
    obtain ⟨present, same⟩ := List.mem_filter.mp member
    exact List.mem_map.mpr ⟨old, present, if_pos same⟩
  have fits : stagedItems.breach? database (rows.map stagedRow) (changed.map stagedRow) = none := by
    rw [stagedItems_breach?_iff holds.jobs]
    exact ⟨after.stagedIds, fun stored there => after.bounded.staged stored (written there),
      fun stored there => after.owners stored (written there)⟩
  have executed : (StoreCall.updateStaged item).outcome database = .ok ⟨changed.map stagedRow,
      (m.staged.filter (sameStaged item)).length, database.put stagedItems (rows.map stagedRow)⟩ :=
    execute_update holds.staged met (fun _ => rfl) fits
  have back : ∀ stored ∈ changed, readStagedItem (stagedRow stored) = .ok (stored.mapTimes .utc) :=
    fun stored there => readStagedItem_stagedRow (whole.staged stored (written there))
  have first : changed.head? = (m.staged.find? (sameStaged item)).map (editedRow item) := by
    rw [List.head?_map, List.head?_filter]
  apply Corresponds.of_ok executed
  · unfold StoreCall.Agree StoreCall.valueOf Memory.perform Memory.updateStaged
    dsimp only
    rw [readFirst_read back, first]
    cases m.staged.find? (sameStaged item) <;> rfl
  · rw [next]
    exact put_staged holds rows

theorem corresponds (holds : Holds database m) (rules : m.KeepsRules) (never : m.NeverFails)
    (whole : m.IsWhole) {call : StoreCall} (bounded : call.IsBounded) (fresh : call.IsFresh m)
    (wholeCall : call.IsWhole) : Corresponds database m call := by
  have after := rules.perform bounded fresh
  have wholeAfter := whole.perform wholeCall.brings
  cases call with
  | upsertItem w => exact corresponds_upsertItem holds rules never bounded after wholeAfter
  | deleteItem id => exact corresponds_deleteItem holds rules id
  | deleteAllItems => exact corresponds_deleteAllItems holds rules
  | listItems => exact corresponds_listItems holds whole
  | insertJob job => exact corresponds_insertJob holds bounded after
  | getJob id => exact corresponds_getJob holds whole id
  | transition t => exact corresponds_transition holds rules bounded after wholeAfter
  | insertStaged item => exact corresponds_insertStaged holds never bounded after
  | listStaged jobId => exact corresponds_listStaged holds whole jobId
  | updateStaged item => exact corresponds_updateStaged holds rules after wholeAfter

end Store

end Larder
