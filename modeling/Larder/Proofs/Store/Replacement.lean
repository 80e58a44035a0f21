import Larder.Store.Memory
import Mathlib.Data.List.Perm.Basic

namespace Larder.Memory

variable {α β : Type} {picks : α → Bool} {change : α → α}

theorem replaceFirst_split {before after : List α} {entry : α}
    (notBefore : ∀ x ∈ before, picks x = false) (picked : picks entry = true) :
    replaceFirst picks change (before ++ entry :: after) = before ++ change entry :: after := by
  induction before with
  | nil => simp [replaceFirst, picked]
  | cons x rest ih =>
      have notPicked : picks x = false := notBefore x List.mem_cons_self
      simp only [List.cons_append, replaceFirst, notPicked, Bool.false_eq_true, if_false]
      rw [ih fun y member => notBefore y (List.mem_cons_of_mem _ member)]

theorem mem_replaceFirst {rows : List α} {row : α} (member : row ∈ replaceFirst picks change rows) :
    row ∈ rows ∨ ∃ old ∈ rows, picks old = true ∧ row = change old := by
  induction rows with
  | nil => cases member
  | cons x rest ih =>
      unfold replaceFirst at member
      split at member
      · rename_i picked
        rcases List.mem_cons.mp member with rfl | later
        · exact .inr ⟨x, List.mem_cons_self, picked, rfl⟩
        · exact .inl (List.mem_cons_of_mem _ later)
      · rcases List.mem_cons.mp member with rfl | later
        · exact .inl List.mem_cons_self
        · rcases ih later with kept | ⟨old, there, changed⟩
          · exact .inl (List.mem_cons_of_mem _ kept)
          · exact .inr ⟨old, List.mem_cons_of_mem _ there, changed⟩

theorem map_replaceFirst (view : α → β)
    (same : ∀ x, picks x = true → view (change x) = view x) (rows : List α) :
    (replaceFirst picks change rows).map view = rows.map view := by
  induction rows with
  | nil => rfl
  | cons x rest ih =>
      unfold replaceFirst
      split
      · rename_i picked
        simp [same x picked]
      · simp [ih]

theorem map_replaceFirst_comm (view : α → β) {picks' : β → Bool} {change' : β → β}
    (samePick : ∀ x, picks' (view x) = picks x)
    (sameChange : ∀ x, view (change x) = change' (view x)) (rows : List α) :
    (replaceFirst picks change rows).map view = replaceFirst picks' change' (rows.map view) := by
  induction rows with
  | nil => rfl
  | cons x rest ih =>
      simp only [replaceFirst, List.map_cons, samePick]
      split
      · rw [List.map_cons, sameChange]
      · rw [List.map_cons, ih]

theorem find?_replaceFirst (stable : ∀ x, picks x = true → picks (change x) = true) (rows : List α) :
    (replaceFirst picks change rows).find? picks = (rows.find? picks).map change := by
  induction rows with
  | nil => rfl
  | cons x rest ih =>
      unfold replaceFirst
      split
      · rename_i picked
        simp [picked, stable x picked]
      · rename_i notPicked
        simp [notPicked, ih]

theorem find?_replaceFirst_of_ne {test : α → Bool}
    (unseen : ∀ x, picks x = true → test x = false ∧ test (change x) = false) (rows : List α) :
    (replaceFirst picks change rows).find? test = rows.find? test := by
  induction rows with
  | nil => rfl
  | cons x rest ih =>
      unfold replaceFirst
      split
      · rename_i picked
        simp [(unseen x picked).1, (unseen x picked).2]
      · simp only [List.find?_cons, ih]

theorem filter_replaceFirst {test : α → Bool}
    (passes : ∀ x, picks x = true → test x = true ∧ test (change x) = true) (rows : List α) :
    (replaceFirst picks change rows).filter test = replaceFirst picks change (rows.filter test) := by
  induction rows with
  | nil => rfl
  | cons x rest ih =>
      by_cases picked : picks x = true
      · simp [replaceFirst, picked, (passes x picked).1, (passes x picked).2]
      · by_cases seen : test x = true
        · simp [replaceFirst, picked, seen, ih]
        · simp [replaceFirst, picked, seen, ih]

theorem filter_replaceFirst_of_ne {test : α → Bool}
    (unseen : ∀ x, picks x = true → test x = false ∧ test (change x) = false) (rows : List α) :
    (replaceFirst picks change rows).filter test = rows.filter test := by
  induction rows with
  | nil => rfl
  | cons x rest ih =>
      unfold replaceFirst
      split
      · rename_i picked
        simp [(unseen x picked).1, (unseen x picked).2]
      · simp only [List.filter_cons, ih]

/-! ## At most one row -/

abbrev AtMostOne (picks : α → Bool) (rows : List α) : Prop :=
  rows.Pairwise fun x y => ¬(picks x = true ∧ picks y = true)

theorem replaceFirst_eq_map {rows : List α} (unique : AtMostOne picks rows) :
    replaceFirst picks change rows = rows.map fun x => if picks x then change x else x := by
  induction rows with
  | nil => rfl
  | cons x rest ih =>
      obtain ⟨alone, unique⟩ := List.pairwise_cons.mp unique
      unfold replaceFirst
      split
      · rename_i picked
        have untouched : rest.map (fun y => if picks y then change y else y) = rest.map id := by
          apply List.map_congr_left
          intro y member
          have notPicked : ¬ picks y = true := fun also => alone y member ⟨picked, also⟩
          simp [notPicked]
        simp [picked, untouched]
      · rename_i notPicked
        simp [notPicked, ih unique]

theorem atMostOne_of_nodup {key : α → β} {k : β} {rows : List α} (nodup : (rows.map key).Nodup)
    (picked : ∀ x, picks x = true → key x = k) : AtMostOne picks rows := by
  apply (List.pairwise_map.mp nodup).imp
  rintro x y apart ⟨first, second⟩
  exact apart ((picked x first).trans (picked y second).symm)

theorem filter_eq_toList {rows : List α} (unique : AtMostOne picks rows) :
    rows.filter picks = (rows.find? picks).toList := by
  induction rows with
  | nil => rfl
  | cons x rest ih =>
      obtain ⟨alone, unique⟩ := List.pairwise_cons.mp unique
      cases picked : picks x with
      | true =>
          have none : rest.filter picks = [] :=
            List.filter_eq_nil_iff.mpr fun y there also => alone y there ⟨picked, also⟩
          rw [List.filter_cons_of_pos picked, List.find?_cons_of_pos picked, none]
          rfl
      | false =>
          have notPicked : ¬ picks x = true := by simp [picked]
          rw [List.filter_cons_of_neg notPicked, List.find?_cons_of_neg notPicked, ih unique]

theorem AtMostOne.find?_eq_some {rows : List α} (unique : AtMostOne picks rows) {row : α} (there : row ∈ rows)
    (picked : picks row = true) : rows.find? picks = some row := by
  have only : row ∈ (rows.find? picks).toList := by
    rw [← filter_eq_toList unique]
    exact List.mem_filter.mpr ⟨there, picked⟩
  exact Option.mem_toList.mp only

theorem AtMostOne.perm {rows rows' : List α} (unique : AtMostOne picks rows) (perm : rows.Perm rows') :
    AtMostOne picks rows' :=
  (perm.pairwise_iff fun apart both => apart both.symm).mp unique

theorem find?_perm {rows rows' : List α} (perm : rows.Perm rows') (unique : AtMostOne picks rows) :
    rows.find? picks = rows'.find? picks := by
  apply List.perm_option_toList.mp
  rw [← filter_eq_toList unique, ← filter_eq_toList (unique.perm perm)]
  exact perm.filter _

theorem replaceFirst_perm {rows rows' : List α} (perm : rows.Perm rows') (unique : AtMostOne picks rows) :
    (replaceFirst picks change rows).Perm (replaceFirst picks change rows') := by
  rw [replaceFirst_eq_map unique, replaceFirst_eq_map (unique.perm perm)]
  exact perm.map _

end Larder.Memory
