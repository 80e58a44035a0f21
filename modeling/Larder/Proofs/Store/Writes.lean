import Larder.Proofs.Store.Replacement
import Mathlib.Data.List.Nodup

namespace Larder

structure Stock where
  ingredientId : Uuid
  quantity : Float
  unit : String
  expiresAt : Option Timestamp

def PantryItem.stock (item : PantryItem) : Stock :=
  ⟨item.ingredientId, item.quantity, item.unit, item.expiresAt⟩

def PantryWrite.stock (write : PantryWrite) : Stock :=
  ⟨write.ingredientId, write.quantity, write.unit, write.expiresAt⟩

theorem PantryItem.stock_ofWrite (write : PantryWrite) :
    (PantryItem.ofWrite write).stock = write.stock := rfl

theorem PantryItem.stock_replaced {item : PantryItem} {write : PantryWrite}
    (same : item.ingredientId = write.ingredientId) : (item.replaced write).stock = write.stock := by
  simp [PantryItem.stock, PantryItem.replaced, PantryWrite.stock, same]

namespace Memory

def rowsOf (m : Memory) (ingredientId : Uuid) : List PantryItem :=
  m.pantry.filter (·.ingredientId == ingredientId)

def OnePerIngredient (m : Memory) : Prop :=
  (m.pantry.map (·.ingredientId)).Nodup

def write (m : Memory) (w : PantryWrite) : Memory :=
  (m.upsertItem w).2

def writeAll (m : Memory) (writes : List PantryWrite) : Memory :=
  writes.foldl write m

/-! ## One write -/

theorem upsertItem_cases (m : Memory) (w : PantryWrite) :
    (m.upsertFails = true ∧ m.upsertItem w =
      (.error (.backend (.injected "pantry upsert")), { m with upserts := m.upserts + 1 })) ∨
    (m.upsertFails = false ∧ ∃ before item after,
      m.pantry = before ++ item :: after ∧ (∀ x ∈ before, x.ingredientId ≠ w.ingredientId) ∧
      item.ingredientId = w.ingredientId ∧ m.upsertItem w =
        (.ok (item.replaced w),
          { m with upserts := m.upserts + 1, pantry := before ++ item.replaced w :: after })) ∨
    (m.upsertFails = false ∧ (∀ x ∈ m.pantry, x.ingredientId ≠ w.ingredientId) ∧
      m.upsertItem w = (.ok (.ofWrite w),
        { m with upserts := m.upserts + 1, pantry := m.pantry ++ [.ofWrite w] })) := by
  unfold upsertItem
  cases fails : m.upsertFails with
  | true => exact .inl ⟨rfl, by simp⟩
  | false =>
      cases found : m.pantry.find? (·.ingredientId == w.ingredientId) with
      | none =>
          refine .inr (.inr ⟨rfl, ?_, by simp⟩)
          intro x member
          simpa using List.find?_eq_none.mp found x member
      | some item =>
          obtain ⟨picked, before, after, split, notBefore⟩ :=
            List.find?_eq_some_iff_append.mp found
          refine .inr (.inl ⟨rfl, before, item, after, split, ?_, by simpa using picked, ?_⟩)
          · intro x member
            simpa using notBefore x member
          · have changed : replaceFirst (·.ingredientId == w.ingredientId) (·.replaced w) m.pantry =
                before ++ item.replaced w :: after := by
              rw [split]
              exact replaceFirst_split (fun x member => by simpa using notBefore x member) picked
            simp [changed]

theorem write_eq (m : Memory) (w : PantryWrite) :
    ∃ rows, m.write w = { m with upserts := m.upserts + 1, pantry := rows } := by
  rcases upsertItem_cases m w with ⟨_, done⟩ | ⟨_, _, _, _, _, _, _, done⟩ | ⟨_, _, done⟩
  · exact ⟨_, congrArg Prod.snd done⟩
  · exact ⟨_, congrArg Prod.snd done⟩
  · exact ⟨_, congrArg Prod.snd done⟩

theorem write_jobs (m : Memory) (w : PantryWrite) : (m.write w).jobs = m.jobs := by
  obtain ⟨rows, done⟩ := write_eq m w
  rw [done]

theorem job?_write (m : Memory) (w : PantryWrite) (id : Uuid) : (m.write w).job? id = m.job? id := by
  unfold job?
  rw [write_jobs]

theorem write_staged (m : Memory) (w : PantryWrite) : (m.write w).staged = m.staged := by
  obtain ⟨rows, done⟩ := write_eq m w
  rw [done]

theorem write_upserts (m : Memory) (w : PantryWrite) : (m.write w).upserts = m.upserts + 1 := by
  obtain ⟨rows, done⟩ := write_eq m w
  rw [done]

theorem write_failUpsertsAfter (m : Memory) (w : PantryWrite) :
    (m.write w).failUpsertsAfter = m.failUpsertsAfter := by
  obtain ⟨rows, done⟩ := write_eq m w
  rw [done]

theorem onePerIngredient_write {m : Memory} (unique : m.OnePerIngredient) (w : PantryWrite) :
    (m.write w).OnePerIngredient := by
  unfold OnePerIngredient at *
  rcases upsertItem_cases m w with
    ⟨_, done⟩ | ⟨_, before, item, after, split, _, same, done⟩ | ⟨_, absent, done⟩
  · simpa [write, done] using unique
  · have kept : (item.replaced w).ingredientId = item.ingredientId := rfl
    simpa [write, done, split, kept] using unique
  · have fresh : w.ingredientId ∉ m.pantry.map (·.ingredientId) := by
      intro member
      obtain ⟨x, there, equal⟩ := List.mem_map.mp member
      exact absent x there equal
    simpa [write, done, PantryItem.ofWrite, List.nodup_append] using
      ⟨unique, fun x there => absent x there⟩

theorem rowsOf_write_of_ne (m : Memory) {w : PantryWrite} {i : Uuid} (other : w.ingredientId ≠ i) :
    (m.write w).rowsOf i = m.rowsOf i := by
  unfold rowsOf
  rcases upsertItem_cases m w with
    ⟨_, done⟩ | ⟨_, before, item, after, split, _, same, done⟩ | ⟨_, absent, done⟩
  · simp [write, done]
  · have old : (item.ingredientId == i) = false := by simp [same, other]
    have new : ((item.replaced w).ingredientId == i) = false := old
    simp [write, done, split, old, new]
  · have new : ((PantryItem.ofWrite w).ingredientId == i) = false := by
      simpa [PantryItem.ofWrite] using other
    simp [write, done, new]

/-- A write that goes through leaves one row for its ingredient: the earlier one with the new stock,
or a new one. It is the row that the write answers. -/
theorem rowsOf_write_self {m : Memory} (unique : m.OnePerIngredient) {w : PantryWrite}
    {row : PantryItem} (written : (m.upsertItem w).1 = .ok row) :
    (m.write w).rowsOf w.ingredientId = [row] ∧ row.stock = w.stock ∧
      ∀ old ∈ m.rowsOf w.ingredientId, row.id = old.id ∧ row.addedAt = old.addedAt := by
  unfold rowsOf OnePerIngredient at *
  rcases upsertItem_cases m w with
    ⟨_, done⟩ | ⟨_, before, item, after, split, notBefore, same, done⟩ | ⟨_, absent, done⟩
  · rw [done] at written
    cases written
  · rw [done] at written
    cases written
    have notAfter : ∀ x ∈ after, x.ingredientId ≠ w.ingredientId := by
      intro x member equal
      rw [split, List.map_append, List.map_cons] at unique
      have distinct := (List.nodup_cons.mp (List.nodup_append.mp unique).2.1).1
      exact distinct (List.mem_map.mpr ⟨x, member, equal.trans same.symm⟩)
    have front : before.filter (·.ingredientId == w.ingredientId) = [] :=
      List.filter_eq_nil_iff.mpr fun x member => by simp [notBefore x member]
    have back : after.filter (·.ingredientId == w.ingredientId) = [] :=
      List.filter_eq_nil_iff.mpr fun x member => by simp [notAfter x member]
    refine ⟨?_, PantryItem.stock_replaced same, ?_⟩
    · simp [write, done, front, back, PantryItem.replaced, same]
    · intro old member
      have only : old = item := by simpa [split, front, back, List.filter_cons, same] using member
      rw [only]
      exact ⟨rfl, rfl⟩
  · rw [done] at written
    cases written
    have front : m.pantry.filter (·.ingredientId == w.ingredientId) = [] :=
      List.filter_eq_nil_iff.mpr fun x member => by simp [absent x member]
    refine ⟨?_, rfl, ?_⟩
    · simp [write, done, front, PantryItem.ofWrite]
    · intro old member
      rw [front] at member
      cases member

theorem row_kept_write {m : Memory} (unique : m.OnePerIngredient) (w : PantryWrite) {i : Uuid}
    {old : PantryItem} (there : m.rowsOf i = [old]) :
    ∃ row, (m.write w).rowsOf i = [row] ∧ row.id = old.id ∧ row.addedAt = old.addedAt := by
  by_cases same : w.ingredientId = i
  · subst same
    cases result : (m.upsertItem w).1 with
    | error fault =>
        rcases upsertItem_cases m w with
          ⟨_, done⟩ | ⟨_, _, _, _, _, _, _, done⟩ | ⟨_, _, done⟩
        · refine ⟨old, ?_, rfl, rfl⟩
          rw [← there]
          simp [write, done, rowsOf]
        · rw [done] at result
          cases result
        · rw [done] at result
          cases result
    | ok row =>
        obtain ⟨left, _, kept⟩ := rowsOf_write_self unique result
        exact ⟨row, left, kept old (by simp [there])⟩
  · exact ⟨old, by rw [rowsOf_write_of_ne m same, there], rfl, rfl⟩

/-! ## Limits -/

/-- So many more writes go through, if they come next. -/
def Admits (m : Memory) (count : Nat) : Prop :=
  ∀ limit ∈ m.failUpsertsAfter, count ≤ limit - m.upserts

theorem upsertFails_iff (m : Memory) : m.upsertFails = true ↔ ¬ m.Admits 1 := by
  unfold upsertFails Admits
  cases m.failUpsertsAfter with
  | none => simp
  | some limit =>
      simp only [decide_eq_true_eq, Option.mem_def, Option.some.injEq, forall_eq', Nat.not_le]
      omega

theorem Admits.mono {m : Memory} {count fewer : Nat} (within : m.Admits count) (le : fewer ≤ count) :
    m.Admits fewer := fun limit given => Nat.le_trans le (within limit given)

theorem admits_write {m : Memory} (next : m.Admits 1) (w : PantryWrite) (count : Nat) :
    (m.write w).Admits count ↔ m.Admits (count + 1) := by
  unfold Admits at *
  rw [write_failUpsertsAfter, write_upserts]
  constructor
  · intro within limit given
    have := within limit given
    have := next limit given
    omega
  · intro within limit given
    have := within limit given
    omega

theorem upsertItem_ok {m : Memory} (within : m.Admits 1) (w : PantryWrite) :
    ∃ row, (m.upsertItem w).1 = .ok row := by
  rcases upsertItem_cases m w with ⟨fails, _⟩ | ⟨_, _, item, _, _, _, _, done⟩ | ⟨_, _, done⟩
  · exact absurd within ((upsertFails_iff m).mp fails)
  · exact ⟨_, congrArg Prod.fst done⟩
  · exact ⟨_, congrArg Prod.fst done⟩

theorem admits_of_ok {m : Memory} {w : PantryWrite} {row : PantryItem}
    (answer : (m.upsertItem w).1 = .ok row) : m.Admits 1 := by
  by_contra fails
  rcases upsertItem_cases m w with ⟨_, done⟩ | ⟨goes, _⟩ | ⟨goes, _⟩
  · rw [done] at answer
    cases answer
  · rw [(upsertFails_iff m).mpr fails] at goes
    cases goes
  · rw [(upsertFails_iff m).mpr fails] at goes
    cases goes

theorem upsertItem_error {m : Memory} {w : PantryWrite} {fault : StoreError}
    (answer : (m.upsertItem w).1 = .error fault) :
    fault = .backend (.injected "pantry upsert") ∧ ¬ m.Admits 1 := by
  rcases upsertItem_cases m w with ⟨fails, done⟩ | ⟨_, _, _, _, _, _, _, done⟩ | ⟨_, _, done⟩
  · rw [done] at answer
    cases answer
    exact ⟨rfl, (upsertFails_iff m).mp fails⟩
  · rw [done] at answer
    cases answer
  · rw [done] at answer
    cases answer

theorem upsertItem_of_not_admits {m : Memory} (fails : ¬ m.Admits 1) (w : PantryWrite) :
    (m.upsertItem w).1 = .error (.backend (.injected "pantry upsert")) := by
  cases answer : (m.upsertItem w).1 with
  | ok row => exact absurd (admits_of_ok answer) fails
  | error fault => rw [(upsertItem_error answer).1]

theorem write_pantry_of_error {m : Memory} {w : PantryWrite} {fault : StoreError}
    (answer : (m.upsertItem w).1 = .error fault) : (m.write w).pantry = m.pantry := by
  rcases upsertItem_cases m w with ⟨_, done⟩ | ⟨_, _, _, _, _, _, _, done⟩ | ⟨_, _, done⟩
  · rw [write, done]
  · simp [done] at answer
  · simp [done] at answer

/-! ## Writes one after the other -/

@[simp] theorem writeAll_nil (m : Memory) : m.writeAll [] = m := rfl

@[simp] theorem writeAll_cons (m : Memory) (w : PantryWrite) (writes : List PantryWrite) :
    m.writeAll (w :: writes) = (m.write w).writeAll writes := rfl

theorem writeAll_append (m : Memory) (first rest : List PantryWrite) :
    m.writeAll (first ++ rest) = (m.writeAll first).writeAll rest :=
  List.foldl_append

theorem job?_writeAll (m : Memory) (writes : List PantryWrite) (id : Uuid) :
    (m.writeAll writes).job? id = m.job? id := by
  induction writes generalizing m with
  | nil => rfl
  | cons w rest ih => rw [writeAll_cons, ih, job?_write]

theorem writeAll_jobs (m : Memory) (writes : List PantryWrite) : (m.writeAll writes).jobs = m.jobs := by
  induction writes generalizing m with
  | nil => rfl
  | cons w rest ih => rw [writeAll_cons, ih, write_jobs]

theorem writeAll_staged (m : Memory) (writes : List PantryWrite) :
    (m.writeAll writes).staged = m.staged := by
  induction writes generalizing m with
  | nil => rfl
  | cons w rest ih => rw [writeAll_cons, ih, write_staged]

theorem writeAll_upserts (m : Memory) (writes : List PantryWrite) :
    (m.writeAll writes).upserts = m.upserts + writes.length := by
  induction writes generalizing m with
  | nil => rfl
  | cons w rest ih =>
      rw [writeAll_cons, ih, write_upserts, List.length_cons]
      omega

theorem Admits.writeAll {m : Memory} {writes : List PantryWrite} {count : Nat}
    (within : m.Admits (writes.length + count)) : (m.writeAll writes).Admits count := by
  induction writes generalizing m with
  | nil => simpa using within
  | cons w rest ih =>
      rw [List.length_cons] at within
      apply ih
      rw [admits_write (within.mono (by omega))]
      exact within.mono (by omega)

theorem onePerIngredient_writeAll {m : Memory} (unique : m.OnePerIngredient)
    (writes : List PantryWrite) : (m.writeAll writes).OnePerIngredient := by
  induction writes generalizing m with
  | nil => exact unique
  | cons w rest ih => exact ih (onePerIngredient_write unique w)

theorem rowsOf_writeAll_of_not_mem {m : Memory} {writes : List PantryWrite} {i : Uuid}
    (unnamed : i ∉ writes.map (·.ingredientId)) : (m.writeAll writes).rowsOf i = m.rowsOf i := by
  induction writes generalizing m with
  | nil => rfl
  | cons w rest ih =>
      rw [List.map_cons, List.mem_cons, not_or] at unnamed
      rw [writeAll_cons, ih unnamed.2, rowsOf_write_of_ne m (Ne.symm unnamed.1)]

theorem row_kept {m : Memory} (unique : m.OnePerIngredient) (writes : List PantryWrite) {i : Uuid}
    {old : PantryItem} (there : m.rowsOf i = [old]) :
    ∃ row, (m.writeAll writes).rowsOf i = [row] ∧ row.id = old.id ∧ row.addedAt = old.addedAt := by
  induction writes generalizing m old with
  | nil => exact ⟨old, there, rfl, rfl⟩
  | cons w rest ih =>
      obtain ⟨next, nextThere, sameId, sameTime⟩ := row_kept_write unique w there
      obtain ⟨row, rowThere, keptId, keptTime⟩ := ih (onePerIngredient_write unique w) nextThere
      exact ⟨row, rowThere, keptId.trans sameId, keptTime.trans sameTime⟩

theorem rowsOf_eq_of_mem {m : Memory} (unique : m.OnePerIngredient) {i : Uuid} {row : PantryItem}
    (member : row ∈ m.rowsOf i) : m.rowsOf i = [row] := by
  obtain ⟨there, named⟩ := List.mem_filter.mp member
  obtain ⟨before, after, split⟩ := List.append_of_mem there
  unfold OnePerIngredient at unique
  rw [split, List.map_append, List.map_cons, List.nodup_append] at unique
  obtain ⟨_, right, apart⟩ := unique
  have same : row.ingredientId = i := by simpa using named
  have front : before.filter (·.ingredientId == i) = [] := by
    refine List.filter_eq_nil_iff.mpr fun x member => ?_
    have differs := apart _ (List.mem_map_of_mem member) _ List.mem_cons_self
    simpa [← same] using differs
  have back : after.filter (·.ingredientId == i) = [] := by
    refine List.filter_eq_nil_iff.mpr fun x member => ?_
    have differs : x.ingredientId ≠ row.ingredientId := fun equal =>
      (List.nodup_cons.mp right).1 (List.mem_map.mpr ⟨x, member, equal⟩)
    simpa [← same] using differs
  simp [rowsOf, split, front, back, same]

def lastOf (stocks : List Stock) (ingredientId : Uuid) : Option Stock :=
  stocks.findRev? (·.ingredientId == ingredientId)

theorem lastOf_split {writes : List PantryWrite} {i : Uuid} {stock : Stock}
    (last : lastOf (writes.map (·.stock)) i = some stock) :
    ∃ earlier w later, writes = earlier ++ w :: later ∧ w.stock = stock ∧ w.ingredientId = i ∧
      i ∉ later.map (·.ingredientId) := by
  unfold lastOf at last
  rw [List.findRev?_eq_find?_reverse, ← List.map_reverse, List.find?_map, Option.map_eq_some_iff]
    at last
  obtain ⟨w, found, same⟩ := last
  obtain ⟨picked, before, after, split, notBefore⟩ := List.find?_eq_some_iff_append.mp found
  refine ⟨after.reverse, w, before.reverse, ?_, same,
    by simpa [PantryWrite.stock] using picked, ?_⟩
  · rw [← List.reverse_reverse writes, split]
    simp
  · intro member
    obtain ⟨x, there, equal⟩ := List.mem_map.mp member
    have differs : x.ingredientId ≠ i := by
      simpa [PantryWrite.stock] using notBefore x (List.mem_reverse.mp there)
    exact differs equal

theorem rowsOf_writeAll {m : Memory} (unique : m.OnePerIngredient) {writes : List PantryWrite}
    (within : m.Admits writes.length) {i : Uuid} {stock : Stock}
    (last : lastOf (writes.map (·.stock)) i = some stock) :
    ∃ row, (m.writeAll writes).rowsOf i = [row] ∧ row.stock = stock ∧
      ∀ old ∈ m.rowsOf i, row.id = old.id ∧ row.addedAt = old.addedAt := by
  -- The writes before the last one keep the row if there is one, those behind it leave it alone.
  obtain ⟨earlier, w, later, rfl, rfl, rfl, unnamed⟩ := lastOf_split last
  have uniqueThen := onePerIngredient_writeAll unique earlier
  have withinThen : (m.writeAll earlier).Admits 1 := (within.mono (by simp)).writeAll
  obtain ⟨row, written⟩ := upsertItem_ok withinThen w
  obtain ⟨left, sameStock, kept⟩ := rowsOf_write_self uniqueThen written
  refine ⟨row, ?_, sameStock, ?_⟩
  · rw [writeAll_append, writeAll_cons, rowsOf_writeAll_of_not_mem unnamed, left]
  · intro old member
    obtain ⟨next, nextThere, sameId, sameTime⟩ :=
      row_kept unique earlier (rowsOf_eq_of_mem unique member)
    obtain ⟨keptId, keptTime⟩ := kept next (by simp [nextThere])
    exact ⟨keptId.trans sameId, keptTime.trans sameTime⟩

/-! ## Deletion -/

theorem deleteItem_cases (m : Memory) (id : Uuid) :
    ∃ rows, rows.Sublist m.pantry ∧ (m.deleteItem id).2 = { m with pantry := rows } := by
  unfold deleteItem
  split
  · exact ⟨_, List.filter_sublist, rfl⟩
  · exact ⟨m.pantry, List.Sublist.refl _, rfl⟩

end Memory

end Larder
