import Larder.Store.Memory
import Mathlib.Data.List.Nodup
import Mathlib.Order.Compare

namespace Larder

instance : Std.TransOrd Uuid :=
  inferInstanceAs (Std.TransCmp (compareOn fun id : Uuid => id.value.toNat))

instance : Std.LawfulEqOrd Uuid where
  eq_of_compare {a b} same := by
    have values : a.value.toNat = b.value.toNat := Nat.compare_eq_eq.mp same
    exact congrArg Uuid.mk (BitVec.eq_of_toNat_eq values)

theorem Uuid.lt_of_le_of_ne {a b : Uuid} (le : a.value.toNat ≤ b.value.toNat) (ne : a ≠ b) :
    a.value.toNat < b.value.toNat := by
  apply Nat.lt_of_le_of_ne le
  intro same
  exact ne (congrArg Uuid.mk (BitVec.eq_of_toNat_eq same))

namespace Memory

def compareStaged : StagedItem → StagedItem → Ordering :=
  compareLex (compareOn (·.rawText)) (compareOn (·.id))

instance : Std.TransCmp compareStaged :=
  inferInstanceAs (Std.TransCmp (compareLex _ _))

theorem stagedOrder_eq (a b : StagedItem) : stagedOrder a b = (compareStaged a b).isLE := rfl

theorem stagedOrder_trans {a b c : StagedItem} (first : stagedOrder a b = true)
    (second : stagedOrder b c = true) : stagedOrder a c = true := by
  rw [stagedOrder_eq] at *
  exact Std.TransCmp.isLE_trans first second

theorem stagedOrder_total (a b : StagedItem) : (stagedOrder a b || stagedOrder b a) = true := by
  have mirrored : compareStaged b a = (compareStaged a b).swap := Std.OrientedCmp.eq_swap
  rw [stagedOrder_eq, stagedOrder_eq, mirrored]
  cases compareStaged a b <;> rfl

theorem id_eq_of_stagedOrder {a b : StagedItem} (forth : stagedOrder a b = true)
    (back : stagedOrder b a = true) : a.id = b.id := by
  have same : compareStaged a b = .eq := Std.OrientedCmp.isLE_antisymm forth back
  exact Std.LawfulEqOrd.eq_of_compare (Ordering.then_eq_eq.mp same).2

theorem stagedOrder_iff (a b : StagedItem) :
    stagedOrder a b = true ↔
      a.rawText < b.rawText ∨ a.rawText = b.rawText ∧ a.id.value.toNat ≤ b.id.value.toNat := by
  unfold stagedOrder
  rw [Ordering.isLE_then_iff_or]
  have below : compare a.rawText b.rawText = .lt ↔ a.rawText < b.rawText :=
    compareOfLessAndEq_eq_lt
  have ids : (compare a.id b.id).isLE = true ↔ a.id.value.toNat ≤ b.id.value.toNat :=
    Nat.isLE_compare
  rw [below, ids, Std.LawfulEqOrd.compare_eq_iff_eq]

theorem listStaged_perm (m : Memory) (jobId : Uuid) :
    (m.listStaged jobId).Perm (m.staged.filter (·.jobId == jobId)) :=
  List.mergeSort_perm _ _

theorem listStaged_ordered (m : Memory) (jobId : Uuid) :
    (m.listStaged jobId).Pairwise fun a b => stagedOrder a b = true := by
  unfold listStaged
  apply List.pairwise_mergeSort
  · exact fun _ _ _ => stagedOrder_trans
  · exact stagedOrder_total

theorem listStaged_sorted (m : Memory) (jobId : Uuid) :
    (m.listStaged jobId).Pairwise fun a b =>
      a.rawText < b.rawText ∨ a.rawText = b.rawText ∧ a.id.value.toNat ≤ b.id.value.toNat :=
  (m.listStaged_ordered jobId).imp fun {a b} le => (stagedOrder_iff a b).mp le

theorem mem_listStaged {m : Memory} {jobId : Uuid} {item : StagedItem} :
    item ∈ m.listStaged jobId ↔ item ∈ m.staged ∧ item.jobId = jobId := by
  rw [(m.listStaged_perm jobId).mem_iff, List.mem_filter, beq_iff_eq]

theorem listStaged_singleton {m : Memory} {item : StagedItem} (staged : m.staged = [item]) :
    m.listStaged item.jobId = [item] := by
  have own : [item].filter (·.jobId == item.jobId) = [item] := by simp
  rw [listStaged, staged, own, List.mergeSort_singleton]

theorem listStaged_map {m after : Memory} {jobId : Uuid} {change : StagedItem → StagedItem}
    (mapped : after.staged = m.staged.map change) (sameJob : ∀ item, (change item).jobId = item.jobId)
    (sameText : ∀ item, (change item).rawText = item.rawText)
    (sameId : ∀ item, (change item).id = item.id) :
    after.listStaged jobId = (m.listStaged jobId).map change := by
  have order (a b : StagedItem) : stagedOrder a b = stagedOrder (change a) (change b) := by
    simp only [stagedOrder, sameText, sameId]
  have rows : (m.staged.map change).filter (·.jobId == jobId) =
      (m.staged.filter (·.jobId == jobId)).map change := by
    rw [List.filter_map]
    simp only [Function.comp_def, sameJob]
  unfold listStaged
  rw [mapped, rows, List.map_mergeSort fun a _ b _ => order a b]

/-- Rows with ids of their own are listed alike, however they came in. -/
theorem listStaged_eq_of_perm {m m' : Memory} {jobId : Uuid}
    (perm : (m.staged.filter (·.jobId == jobId)).Perm (m'.staged.filter (·.jobId == jobId)))
    (distinct : ((m.staged.filter (·.jobId == jobId)).map (·.id)).Nodup) :
    m.listStaged jobId = m'.listStaged jobId := by
  have listed : (m.listStaged jobId).Perm (m'.listStaged jobId) :=
    (m.listStaged_perm jobId).trans (perm.trans (m'.listStaged_perm jobId).symm)
  apply List.Perm.eq_of_pairwise _ (m.listStaged_ordered jobId) (m'.listStaged_ordered jobId) listed
  intro a b thereA thereB forth back
  have presentA := (m.listStaged_perm jobId).mem_iff.mp thereA
  have presentB := (m.listStaged_perm jobId).mem_iff.mp (listed.mem_iff.mpr thereB)
  exact List.inj_on_of_nodup_map distinct presentA presentB (id_eq_of_stagedOrder forth back)

def comparePantry : PantryItem → PantryItem → Ordering :=
  compareLex (compareLex (compareOn (·.addedAt.seconds)) (compareOn (·.addedAt.nanos))) (compareOn (·.id))

instance : Std.TransCmp comparePantry :=
  inferInstanceAs (Std.TransCmp (compareLex _ _))

theorem pantryOrder_eq (a b : PantryItem) : pantryOrder a b = (comparePantry a b).isLE := rfl

theorem pantryOrder_trans {a b c : PantryItem} (first : pantryOrder a b = true)
    (second : pantryOrder b c = true) : pantryOrder a c = true := by
  rw [pantryOrder_eq] at *
  exact Std.TransCmp.isLE_trans first second

theorem pantryOrder_total (a b : PantryItem) : (pantryOrder a b || pantryOrder b a) = true := by
  have mirrored : comparePantry b a = (comparePantry a b).swap := Std.OrientedCmp.eq_swap
  rw [pantryOrder_eq, pantryOrder_eq, mirrored]
  cases comparePantry a b <;> rfl

theorem id_eq_of_pantryOrder {a b : PantryItem} (forth : pantryOrder a b = true)
    (back : pantryOrder b a = true) : a.id = b.id := by
  have same : comparePantry a b = .eq := Std.OrientedCmp.isLE_antisymm forth back
  exact Std.LawfulEqOrd.eq_of_compare (Ordering.then_eq_eq.mp same).2

theorem pantryOrder_iff (a b : PantryItem) :
    pantryOrder a b = true ↔ a.addedAt.compareInstant b.addedAt = .lt ∨
      a.addedAt.compareInstant b.addedAt = .eq ∧ a.id.value.toNat ≤ b.id.value.toNat := by
  have ids : (compare a.id b.id).isLE = true ↔ a.id.value.toNat ≤ b.id.value.toNat :=
    Nat.isLE_compare
  unfold pantryOrder
  rw [Ordering.isLE_then_iff_or, ids]

theorem listItems_perm (m : Memory) : m.listItems.Perm m.pantry :=
  List.mergeSort_perm _ _

theorem listItems_sorted (m : Memory) : m.listItems.Pairwise fun a b => pantryOrder a b = true := by
  unfold listItems
  apply List.pairwise_mergeSort
  · exact fun _ _ _ => pantryOrder_trans
  · exact pantryOrder_total

end Memory

end Larder
