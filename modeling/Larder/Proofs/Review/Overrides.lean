import Larder.Service.Review
import Mathlib.Data.List.Nodup

namespace Larder

theorem Edit.validate_eq_ok_iff (edit : Edit) :
    edit.validate = .ok () ↔ (∀ quantity ∈ edit.quantity, validateStagedQuantity quantity = .ok ()) ∧
      ∀ unit ∈ edit.unit, validateUnit unit = .ok () := by
  obtain ⟨ingredientId, quantity, unit⟩ := edit
  cases quantity with
  | none =>
      cases unit with
      | none => simp [validate, pure, Except.pure]
      | some unit => simp [validate]
  | some quantity =>
      cases valid : validateStagedQuantity quantity with
      | error fault => simp [validate, valid, bind, Except.bind]
      | ok value =>
          cases unit with
          | none => simp [validate, valid, pure, Except.pure, bind, Except.bind]
          | some unit => simp [validate, valid, bind, Except.bind]

namespace Service

theorem checkOverrides_eq_ok_iff (jobId : Uuid) (known seen : List Uuid) (index : Nat)
    (overrides : List Override) :
    checkOverrides jobId known seen index overrides = .ok () ↔
      (∀ given ∈ overrides, given.edit.validate = .ok () ∧ given.stagedItemId ∈ known ∧
        given.stagedItemId ∉ seen) ∧ (overrides.map (·.stagedItemId)).Nodup := by
  induction overrides generalizing seen index with
  | nil => simp [checkOverrides]
  | cons given rest ih =>
      rw [checkOverrides, List.map_cons, List.nodup_cons, List.forall_mem_cons]
      cases valid : given.edit.validate with
      | error fault => simp
      | ok value =>
          by_cases isKnown : given.stagedItemId ∈ known
          · by_cases isSeen : given.stagedItemId ∈ seen
            · simp [isKnown, isSeen]
            · simp only [List.contains_eq_mem, isKnown, decide_true, Bool.not_true, Bool.false_eq_true,
                if_false, isSeen, decide_false, ih, List.mem_cons, not_or, not_false_eq_true, and_self,
                true_and, List.mem_map, not_exists, not_and]
              constructor
              · rintro ⟨each, distinct⟩
                exact ⟨fun other member => ⟨(each other member).1, (each other member).2.1,
                  (each other member).2.2.2⟩, fun other member => (each other member).2.2.1, distinct⟩
              · rintro ⟨each, apart, distinct⟩
                exact ⟨fun other member => ⟨(each other member).1, (each other member).2.1,
                  apart other member, (each other member).2.2⟩, distinct⟩
          · simp [isKnown]

theorem distinct_of_accepted {jobId : Uuid} {known seen : List Uuid} {index : Nat} {overrides : List Override}
    (accepted : checkOverrides jobId known seen index overrides = .ok ()) :
    (overrides.map (·.stagedItemId)).Nodup :=
  ((checkOverrides_eq_ok_iff jobId known seen index overrides).mp accepted).2

/-! ## Looking up an override -/

variable {overrides : List Override} {id : Uuid} {edit : Edit}

/-- A staged item has one override, and this is its edit. -/
def OnlyOverride (overrides : List Override) (id : Uuid) (edit : Edit) : Prop :=
  ∃ front rear, overrides = front ++ ⟨id, edit⟩ :: rear ∧ ∀ other ∈ front ++ rear, other.stagedItemId ≠ id

theorem overrideOf_eq_none_iff :
    overrideOf overrides id = none ↔ ∀ given ∈ overrides, given.stagedItemId ≠ id := by
  simp [overrideOf]

theorem overrideOf_eq_some_iff (distinct : (overrides.map (·.stagedItemId)).Nodup) :
    overrideOf overrides id = some edit ↔ OnlyOverride overrides id edit := by
  unfold overrideOf
  rw [Option.map_eq_some_iff]
  constructor
  · rintro ⟨given, found, rfl⟩
    obtain ⟨sameId, front, rear, rfl, others⟩ := List.find?_eq_some_iff_append.mp found
    obtain rfl : given.stagedItemId = id := by simpa using sameId
    have apart := (List.pairwise_append.mp (List.pairwise_map.mp distinct)).2.1
    refine ⟨front, rear, rfl, List.forall_mem_append.mpr ⟨?_, ?_⟩⟩
    · exact fun other member => by simpa using others other member
    · exact fun other member => (List.rel_of_pairwise_cons apart member).symm
  · rintro ⟨front, rear, rfl, others⟩
    refine ⟨⟨id, edit⟩, List.find?_eq_some_iff_append.mpr ⟨by simp, front, rear, rfl, ?_⟩, rfl⟩
    intro other member
    simpa using others other (List.mem_append_left _ member)

end Service

end Larder
