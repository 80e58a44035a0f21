import Larder.Proofs.Decimal.Order
import Larder.Proofs.Review.Overrides
import Larder.Proofs.Text.Trimming
import Larder.Service.Stock

namespace Larder

structure Storable (quantity : Float) (unit : String) : Prop where
  finite : quantity.isFinite = true
  notNegative : 0.0 ≤ quantity
  trimmed : Text.IsTrimmed unit
  notEmpty : unit ≠ ""

structure StagedItem.Fit (item : StagedItem) : Prop where
  amount : Storable item.quantity item.unit
  confidence : 0.0 ≤ item.confidence ∧ item.confidence ≤ 1.0
  unresolved : item.ingredientId = none → item.needsReview = true

theorem Storable.trim {quantity : Float} {unit : String} (storable : Storable quantity unit) :
    Storable quantity (Text.trim unit) := by
  rw [Text.trim_eq_self storable.trimmed]
  exact storable

/-! ## Checked values -/

theorem validateStagedQuantity_eq (quantity : Float) : validateStagedQuantity quantity =
    if quantity.isFinite = true ∧ 0.0 ≤ quantity then .ok () else .error .stagedQuantity := by
  unfold validateStagedQuantity
  by_cases finite : quantity.isFinite = true
  · by_cases negative : quantity < 0.0
    · have notAtLeast : ¬ 0.0 ≤ quantity := fun atLeast => Decimal.not_lt_of_le atLeast negative
      simp [negative, notAtLeast]
    · have atLeast : 0.0 ≤ quantity := Decimal.le_of_not_lt Decimal.zero_isFinite finite negative
      simp [finite, negative, atLeast]
  · simp [finite]

theorem validateStockQuantity_eq (quantity : Float) : validateStockQuantity quantity =
    if quantity.isFinite = true ∧ 0.0 < quantity then .ok () else .error .stockQuantity := by
  unfold validateStockQuantity
  by_cases finite : quantity.isFinite = true
  · by_cases positive : 0.0 < quantity
    · have notBelow : ¬ quantity ≤ 0.0 := fun atMost => Decimal.not_lt_of_le atMost positive
      simp [finite, positive, notBelow]
    · have atMost : quantity ≤ 0.0 := Decimal.le_of_not_lt finite Decimal.zero_isFinite positive
      simp [positive, atMost]
  · simp [finite]

theorem validateUnit_eq (unit : String) : validateUnit unit =
    if Text.trim unit = "" then .error .blankUnit else .ok () := by
  unfold validateUnit Text.isBlankText
  simp

theorem validateStagedQuantity_eq_ok_iff {quantity : Float} :
    validateStagedQuantity quantity = .ok () ↔ quantity.isFinite = true ∧ 0.0 ≤ quantity := by
  rw [validateStagedQuantity_eq, ite_eq_left_iff]
  simp

theorem validateUnit_eq_ok_iff {unit : String} : validateUnit unit = .ok () ↔ Text.trim unit ≠ "" := by
  rw [validateUnit_eq, ite_eq_right_iff]
  simp

theorem storable_added {quantity : Float} {unit : String}
    (validQuantity : validateStockQuantity quantity = .ok ()) (validUnit : validateUnit unit = .ok ()) :
    Storable quantity (Text.trim unit) := by
  rw [validateStockQuantity_eq, ite_eq_left_iff] at validQuantity
  obtain ⟨finite, positive⟩ : quantity.isFinite = true ∧ 0.0 < quantity := by simpa using validQuantity
  exact ⟨finite, Decimal.le_of_lt positive, Text.trim_isTrimmed unit, validateUnit_eq_ok_iff.mp validUnit⟩

theorem storable_edited {values : Commitment} {edit : Edit}
    (storable : Storable values.quantity values.unit) (valid : edit.validate = .ok ()) :
    Storable (values.edited edit).quantity (values.edited edit).unit := by
  obtain ⟨validQuantity, validUnit⟩ := edit.validate_eq_ok_iff.mp valid
  have quantity : (values.edited edit).quantity.isFinite = true ∧
      0.0 ≤ (values.edited edit).quantity := by
    unfold Commitment.edited
    cases given : edit.quantity with
    | none => exact ⟨storable.finite, storable.notNegative⟩
    | some quantity => exact validateStagedQuantity_eq_ok_iff.mp (validQuantity quantity given)
  have unit : Text.IsTrimmed (values.edited edit).unit ∧ (values.edited edit).unit ≠ "" := by
    unfold Commitment.edited
    cases given : edit.unit with
    | none => exact ⟨storable.trimmed, storable.notEmpty⟩
    | some unit => exact ⟨Text.trim_isTrimmed unit, validateUnit_eq_ok_iff.mp (validUnit unit given)⟩
  exact ⟨quantity.1, quantity.2, unit.1, unit.2⟩

/-! ## Repaired values -/

theorem isStorable_iff {quantity : Float} :
    Candidate.isStorable quantity = true ↔ quantity.isFinite = true ∧ 0.0 ≤ quantity := by
  simp [Candidate.isStorable]

theorem clampConfidence_bounds (confidence : Float) :
    0.0 ≤ Candidate.clampConfidence confidence ∧ Candidate.clampConfidence confidence ≤ 1.0 := by
  unfold Candidate.clampConfidence
  split
  · rename_i finite
    split
    · exact ⟨by decide, by decide⟩
    · rename_i notNegative
      split
      · exact ⟨by decide, by decide⟩
      · rename_i notAbove
        exact ⟨Decimal.le_of_not_lt Decimal.zero_isFinite finite notNegative,
          Decimal.le_of_not_lt finite Decimal.one_isFinite notAbove⟩
  · exact ⟨by decide, by decide⟩

theorem fallbackUnit_isTrimmed : Text.IsTrimmed Candidate.fallbackUnit :=
  Text.isTrimmed_iff.mpr (by decide)

theorem storable_repair (quantity : Float) (unit : String) (confidence : Float) :
    Storable (Candidate.repair quantity unit confidence).quantity
      (Candidate.repair quantity unit confidence).unit := by
  have number : (Candidate.repair quantity unit confidence).quantity.isFinite = true ∧
      0.0 ≤ (Candidate.repair quantity unit confidence).quantity := by
    unfold Candidate.repair
    dsimp only
    split
    · rename_i storable
      exact isStorable_iff.mp storable
    · exact ⟨Decimal.zero_isFinite, by decide⟩
  have word : Text.IsTrimmed (Candidate.repair quantity unit confidence).unit ∧
      (Candidate.repair quantity unit confidence).unit ≠ "" := by
    unfold Candidate.repair
    dsimp only
    split
    · exact ⟨fallbackUnit_isTrimmed, by decide⟩
    · rename_i notEmpty
      exact ⟨Text.trim_isTrimmed unit, by simpa using notEmpty⟩
  exact ⟨number.1, number.2, word.1, word.2⟩

namespace Service

theorem stagedItem_fit (threshold : Float) (jobId : Uuid) (candidate : Candidate)
    (ingredient : Option Uuid) (id : Uuid) (now : Timestamp) :
    (stagedItem threshold jobId candidate ingredient id now).Fit := by
  constructor
  case amount => exact storable_repair candidate.quantity candidate.unit candidate.confidence
  case confidence => exact clampConfidence_bounds _
  case unresolved =>
    intro unknown
    have absent : ingredient = none := unknown
    simp [stagedItem, Candidate.needsReview, absent]

theorem editedItem_fit {item : StagedItem} {edit : Edit} (fit : item.Fit)
    (valid : edit.validate = .ok ()) (now : Timestamp) : (editedItem item edit now).Fit := by
  constructor
  case amount =>
    have own : Storable (Commitment.ofItem item).quantity (Commitment.ofItem item).unit := fit.amount
    exact storable_edited own valid
  case confidence => exact fit.confidence
  case unresolved =>
    intro unknown
    have absent : ((Commitment.ofItem item).edited edit).ingredientId = none := unknown
    simp [editedItem, absent]

theorem storable_committed {item : StagedItem} {overrides : List Override} (fit : item.Fit)
    (valid : ∀ given ∈ overrides, given.edit.validate = .ok ()) :
    let values := (Commitment.ofItem item).apply (overrideOf overrides item.id)
    Storable values.quantity values.unit := by
  have own : Storable (Commitment.ofItem item).quantity (Commitment.ofItem item).unit := fit.amount
  unfold overrideOf
  cases found : overrides.find? (·.stagedItemId == item.id) with
  | none => exact own
  | some given => exact storable_edited own (valid given (List.mem_of_find?_eq_some found))

end Service

end Larder
