import Larder.Named
import Mathlib.Data.String.Basic

namespace Larder.Named

variable {α : Type} {name : String} {value : α} {members : Named α}

def Ascending (members : Named α) : Prop :=
  members.Pairwise fun a b => a.1 < b.1

theorem Ascending.ext {other : Named α} (ascending : members.Ascending) (ascending' : other.Ascending)
    (same : ∀ entry, entry ∈ members ↔ entry ∈ other) : members = other := by
  have apart {list : Named α} (sorted : list.Ascending) : list.Nodup :=
    sorted.imp fun below equal => below.ne (congrArg Prod.fst equal)
  have permuted := (List.perm_ext_iff_of_nodup (apart ascending) (apart ascending')).mpr same
  exact permuted.eq_of_pairwise (fun _ _ _ _ below above => absurd above below.asymm) ascending ascending'

theorem mem_put (ascending : members.Ascending) {entry : String × α} :
    entry ∈ put name value members ↔ entry = (name, value) ∨ entry.1 ≠ name ∧ entry ∈ members := by
  induction members with
  | nil => simp [put]
  | cons head rest ih =>
      obtain ⟨other, old⟩ := head
      obtain ⟨below, later⟩ := List.pairwise_cons.mp ascending
      have own (entry : String × α) (same : entry.1 = other) : entry ∉ rest :=
        fun member => (below entry member).ne' same
      unfold put
      split
      · rename_i same
        obtain rfl : name = other := by simpa using same
        grind
      · rename_i differs
        have differs : name ≠ other := by simpa using differs
        split
        · rename_i before
          have absent (entry : String × α) (same : entry.1 = name) : entry ∉ rest :=
            fun member => (before.trans (below entry member)).ne' same
          grind
        · rw [List.mem_cons, ih later]
          grind

theorem ascending_put (name : String) (value : α) (ascending : members.Ascending) :
    (put name value members).Ascending := by
  induction members with
  | nil => exact List.pairwise_singleton _ _
  | cons head rest ih =>
      obtain ⟨other, old⟩ := head
      obtain ⟨below, later⟩ := List.pairwise_cons.mp ascending
      unfold put
      split
      · rename_i same
        obtain rfl : name = other := by simpa using same
        exact List.pairwise_cons.mpr ⟨below, later⟩
      · rename_i differs
        have differs : name ≠ other := by simpa using differs
        split
        · rename_i before
          refine List.pairwise_cons.mpr ⟨?_, ascending⟩
          rintro entry (_ | ⟨_, member⟩)
          · exact before
          · exact before.trans (below entry member)
        · rename_i notBefore
          have after : other < name := lt_of_le_of_ne (not_lt.mp notBefore) differs.symm
          refine List.pairwise_cons.mpr ⟨?_, ih later⟩
          intro entry member
          rcases (mem_put later).mp member with rfl | ⟨_, old⟩
          · exact after
          · exact below entry old

theorem ascending_ofList (entries : List (String × α)) : (ofList entries).Ascending := by
  unfold ofList
  have kept (members : Named α) (ascending : members.Ascending) :
      (entries.foldl (fun sorted entry => put entry.1 entry.2 sorted) members).Ascending := by
    induction entries generalizing members with
    | nil => exact ascending
    | cons entry rest ih => exact ih _ (ascending_put entry.1 entry.2 ascending)
  exact kept [] List.Pairwise.nil

end Larder.Named
