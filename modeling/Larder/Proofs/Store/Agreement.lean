import Larder.Proofs.Store.Execution
import Larder.Proofs.Store.Inventory

namespace Larder.Store

open Sql Memory

/-- The tables hold the rows of a store in memory, in any order, and keep their rules. -/
structure Mirrors (database : Database) (m : Memory) : Prop where
  rows : ∀ table ∈ tables, (database table.name).Perm (m.database table.name)
  schema : ∀ table ∈ tables,
    table.breach? database (database table.name) (database table.name) = none
  whole : m.IsWhole

variable {database : Database} {m : Memory}

theorem exists_map_of_perm {α : Type} {row : α → Row} {rows : List Row} {entries : List α}
    (perm : rows.Perm (entries.map row)) :
    ∃ entries', rows = entries'.map row ∧ entries.Perm entries' := by
  have reordered : Relation.Comp (· = List.map row ·) List.Perm rows entries := by
    have same := List.eq_map_comp_perm row
    rw [same]
    exact perm
  obtain ⟨entries', encoded, same⟩ := reordered
  exact ⟨entries', encoded, same.symm⟩

theorem Mirrors.exists_holds (mirrors : Mirrors database m) :
    ∃ m' : Memory, Holds database m' ∧ SameRows m m' ∧ m'.failUpsertsAfter = m.failUpsertsAfter ∧
      m'.failStagedInserts = m.failStagedInserts := by
  have rows := mirrors.rows
  unfold tables at rows
  rw [List.forall_mem_cons, List.forall_mem_cons, List.forall_mem_singleton] at rows
  obtain ⟨pantryRows, jobRows, stagedRows⟩ := rows
  obtain ⟨pantry, isPantry, samePantry⟩ := exists_map_of_perm pantryRows
  obtain ⟨jobs, areJobs, sameJobs⟩ := exists_map_of_perm jobRows
  obtain ⟨staged, areStaged, sameStaged⟩ := exists_map_of_perm stagedRows
  exact ⟨{ m with pantry, jobs, staged }, ⟨isPantry, areJobs, areStaged⟩,
    ⟨samePantry, sameJobs, sameStaged⟩, rfl, rfl⟩

/-- A call that fits the tables: its values are within their bounds, its new ids are fresh, and its times are
such as the tables can hold. -/
structure Admissible (m : Memory) (call : StoreCall) : Prop where
  bounded : call.IsBounded
  fresh : call.IsFresh m
  whole : call.IsWhole

theorem Admissible.rearranged {m' : Memory} {call : StoreCall} (admissible : Admissible m call)
    (same : SameRows m m') : Admissible m' call where
  bounded := admissible.bounded
  fresh := by
    have fresh := admissible.fresh
    cases call with
    | upsertItem w =>
        intro absent used
        have ingredients := (same.pantry.map (·.ingredientId)).mem_iff (a := w.ingredientId)
        have ids := (same.pantry.map (·.id)).mem_iff (a := w.itemId)
        exact fresh (fun there => absent (ingredients.mp there)) (ids.mpr used)
    | insertStaged item => exact fun used => fresh ((same.staged.map (·.id)).mem_iff.mpr used)
    | deleteItem | deleteAllItems | listItems | insertJob | getJob | transition | listStaged
    | updateStaged => trivial
  whole := admissible.whole

theorem Mirrors.of_holds {m' : Memory} (holds : Holds database m') (rules : m'.KeepsRules)
    (same : SameRows m m') (whole : m.IsWhole) : Mirrors database m where
  rows := by
    unfold tables
    rw [List.forall_mem_cons, List.forall_mem_cons, List.forall_mem_singleton, holds.pantry, holds.jobs,
      holds.staged]
    exact ⟨same.pantry.symm.map _, same.jobs.symm.map _, same.staged.symm.map _⟩
  schema := holds.breach?_eq_none_iff.mpr rules
  whole := whole

variable {call : StoreCall}

theorem exists_corresponding (mirrors : Mirrors database m) (never : m.NeverFails)
    (admissible : Admissible m call) : ∃ m', Corresponds database m' call ∧
      (m.perform call).1 = (m'.perform call).1 ∧ SameRows (m.perform call).2 (m'.perform call).2 ∧
      (m'.perform call).2.KeepsRules := by
  obtain ⟨m', holds, same, failing, refusing⟩ := mirrors.exists_holds
  have rules' := holds.breach?_eq_none_iff.mp mirrors.schema
  have rules := same.symm.keepsRules rules'
  have never' : m'.NeverFails := ⟨failing.trans never.upserts, refusing.trans never.stagedInserts⟩
  have whole' : m'.IsWhole := same.throughout mirrors.whole
  obtain ⟨bounded, fresh, whole⟩ := admissible.rearranged same
  have corresponding := corresponds holds rules' never' whole' bounded fresh whole
  obtain ⟨sameAnswer, sameAfter⟩ := same.perform rules never never' call
  exact ⟨m', corresponding, sameAnswer, sameAfter, rules'.perform bounded fresh⟩

theorem Mirrors.agree (mirrors : Mirrors database m) (never : m.NeverFails)
    (admissible : Admissible m call) : call.Agree (m.perform call).1 (call.execute database).1 := by
  obtain ⟨m', ⟨agree, _⟩, sameAnswer, _⟩ := exists_corresponding mirrors never admissible
  rw [sameAnswer]
  exact agree

theorem Mirrors.execute (mirrors : Mirrors database m) (never : m.NeverFails)
    (admissible : Admissible m call) : Mirrors (call.execute database).2 (m.perform call).2 := by
  obtain ⟨m', ⟨_, holds⟩, _, same, rules⟩ := exists_corresponding mirrors never admissible
  exact .of_holds holds rules same (mirrors.whole.perform admissible.whole.brings)

theorem execute_agrees (mirrors : Mirrors database m) (never : m.NeverFails)
    (admissible : Admissible m call) :
    call.Agree (m.perform call).1 (call.execute database).1 ∧
      Mirrors (call.execute database).2 (m.perform call).2 :=
  ⟨mirrors.agree never admissible, mirrors.execute never admissible⟩

namespace Cellar

def flour : Uuid := ⟨1⟩
def noon : Timestamp := ⟨39600, 250000, 60⟩

def baking : Job :=
  ⟨⟨10⟩, JobKind.textBlob.name, "salt", JobStatus.staged.name, none, noon, noon⟩

def memory : Memory where
  pantry := [
    ⟨⟨31⟩, flour, 1.0, "kg", some noon, noon, noon⟩,
    ⟨⟨32⟩, ⟨2⟩, 2.0, "l", none, noon, noon⟩]
  jobs := [baking]
  staged := [⟨⟨21⟩, baking.id, none, "salt", 1.0, "pinch", 0.5, true, noon, noon⟩]
  upserts := 0
  failUpsertsAfter := none
  failStagedInserts := false

def shelves : Database :=
  fun name => (memory.database name).reverse

theorem noon_isWhole : noon.IsWhole := ⟨by decide, by decide⟩

theorem mirrors : Mirrors shelves memory where
  rows := fun table _ => List.reverse_perm (memory.database table.name)
  schema := by decide
  whole := by
    have expiry : ∀ t ∈ some noon, t.IsWhole := fun t there => Option.some.inj there ▸ noon_isWhole
    constructor
    · rw [memory, List.forall_mem_cons, List.forall_mem_singleton]
      exact ⟨⟨expiry, noon_isWhole, noon_isWhole⟩,
        ⟨fun _ there => (nomatch there), noon_isWhole, noon_isWhole⟩⟩
    · exact List.forall_mem_singleton.mpr ⟨noon_isWhole, noon_isWhole⟩
    · exact List.forall_mem_singleton.mpr ⟨noon_isWhole, noon_isWhole⟩

def delivery : StoreCall :=
  .upsertItem ⟨⟨33⟩, flour, 500.0, "g", none, noon⟩

theorem admissible : Admissible memory delivery where
  bounded := by
    unfold delivery StoreCall.IsBounded
    decide
  fresh := by
    unfold delivery StoreCall.IsFresh
    decide
  whole := ⟨fun _ there => (nomatch there), noon_isWhole, noon_isWhole⟩

end Cellar

open Cellar in
theorem execute_agrees_cellar :
    Mirrors shelves memory ∧ memory.NeverFails ∧ Admissible memory delivery ∧
      delivery.Agree (memory.perform delivery).1 (delivery.execute shelves).1 ∧
      Mirrors (delivery.execute shelves).2 (memory.perform delivery).2 :=
  ⟨mirrors, ⟨rfl, rfl⟩, admissible, execute_agrees mirrors ⟨rfl, rfl⟩ admissible⟩

/-! ## Calls one after another -/

def executeAll (calls : List StoreCall) (database : Database) : Database :=
  calls.foldl (fun database call => (call.execute database).2) database

theorem executeAll_concat (calls : List StoreCall) (call : StoreCall) (database : Database) :
    executeAll (calls ++ [call]) database = (call.execute (executeAll calls database)).2 := by
  rw [executeAll, List.foldl_append]
  rfl

theorem mirrors_executeAll (mirrors : Mirrors database m) (never : m.NeverFails) {calls : List StoreCall}
    (admissible : ∀ before call, before ++ [call] <+: calls → Admissible (m.performAll before) call) :
    Mirrors (executeAll calls database) (m.performAll calls) ∧ (m.performAll calls).NeverFails := by
  induction calls using List.reverseRecOn with
  | nil => exact ⟨mirrors, never⟩
  | append_singleton before call ih =>
      obtain ⟨mirrors, never⟩ := ih fun earlier next within =>
        admissible earlier next (within.trans (List.prefix_append before [call]))
      have fits := admissible before call (List.prefix_refl _)
      rw [executeAll_concat, performAll_concat]
      exact ⟨mirrors.execute never fits, never.perform call⟩

theorem executeAll_agrees (mirrors : Mirrors database m) (never : m.NeverFails) {calls : List StoreCall}
    (admissible : ∀ before call, before ++ [call] <+: calls → Admissible (m.performAll before) call)
    {before : List StoreCall} (within : before ++ [call] <+: calls) :
    call.Agree ((m.performAll before).perform call).1 (call.execute (executeAll before database)).1 := by
  obtain ⟨mirrors, never⟩ := mirrors_executeAll mirrors never fun earlier next fewer =>
    admissible earlier next (fewer.trans ((List.prefix_append before [call]).trans within))
  exact mirrors.agree never (admissible before call within)

end Larder.Store
