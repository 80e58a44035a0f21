import Larder.Proofs.Intake.Assessment

namespace Larder

/-! ## Settled values -/

theorem storable_iff {quantity : Float} {unit : String} : Storable quantity unit ↔
    validateStagedQuantity quantity = .ok () ∧ validateUnit unit = .ok () ∧ Text.trim unit = unit := by
  rw [validateStagedQuantity_eq_ok_iff, validateUnit_eq_ok_iff]
  constructor
  · intro storable
    have trimmed := Text.trim_eq_self storable.trimmed
    exact ⟨⟨storable.finite, storable.notNegative⟩, trimmed.symm ▸ storable.notEmpty, trimmed⟩
  · rintro ⟨⟨finite, notNegative⟩, notBlank, trimmed⟩
    exact ⟨finite, notNegative, Text.isTrimmed_iff.mpr trimmed, trimmed ▸ notBlank⟩

namespace Candidate

structure Settled (quantity : Float) (unit : String) (confidence : Float) : Prop where
  quantity : validateStagedQuantity quantity = .ok ()
  trimmed : Text.trim unit = unit
  unit : validateUnit unit = .ok ()
  confidence : Config.IsUpTo 1 confidence

variable {quantity : Float} {unit : String} {confidence : Float}

theorem isUpTo_one_iff :
    Config.IsUpTo 1 confidence ↔ confidence.isFinite = true ∧ 0.0 ≤ confidence ∧ confidence ≤ 1.0 := by
  rw [← Config.isWithin_iff Decimal.rational_one]
  simp [isWithin, and_assoc]

theorem clampConfidence_isUpTo (confidence : Float) : Config.IsUpTo 1 (clampConfidence confidence) := by
  have clamped : Clamped confidence (clampConfidence confidence) := clamped_iff.mpr rfl
  rw [isUpTo_one_iff]
  refine ⟨?_, clampConfidence_bounds confidence⟩
  generalize clampConfidence confidence = kept at clamped ⊢
  cases clamped with
  | notFinite | below => exact Decimal.zero_isFinite
  | above => exact Decimal.one_isFinite
  | within finite => exact finite

theorem clampConfidence_eq_self_iff : clampConfidence confidence = confidence ↔ Config.IsUpTo 1 confidence := by
  constructor
  · intro same
    exact same ▸ clampConfidence_isUpTo confidence
  · intro upTo
    obtain ⟨finite, atLeast, atMost⟩ := isUpTo_one_iff.mp upTo
    exact (clamped_iff.mp (.within finite atLeast atMost)).symm

/-! ## Repairing -/

theorem repair_settled (quantity : Float) (unit : String) (confidence : Float) :
    let repaired := repair quantity unit confidence
    Settled repaired.quantity repaired.unit repaired.confidence := by
  obtain ⟨accepted, notBlank, trimmed⟩ := storable_iff.mp (storable_repair quantity unit confidence)
  exact ⟨accepted, trimmed, notBlank, clampConfidence_isUpTo confidence⟩

theorem repair_eq_self_iff :
    repair quantity unit confidence = ⟨quantity, unit, confidence, false⟩ ↔ Settled quantity unit confidence := by
  constructor
  · intro same
    have settled := repair_settled quantity unit confidence
    rw [same] at settled
    exact settled
  · rintro ⟨accepted, trimmed, notBlank, upTo⟩
    have storable : isStorable quantity = true :=
      isStorable_iff.mpr (validateStagedQuantity_eq_ok_iff.mp accepted)
    have notEmpty : unit ≠ "" := trimmed ▸ validateUnit_eq_ok_iff.mp notBlank
    unfold repair
    simp [storable, trimmed, notEmpty, clampConfidence_eq_self_iff.mpr upTo]

theorem replaced_iff : (repair quantity unit confidence).replaced = true ↔
    validateStagedQuantity quantity = .error .stagedQuantity := by
  rw [validateStagedQuantity_eq, ite_eq_right_iff, ← isStorable_iff]
  simp [repair]

/-- Repaired values are settled, and repairing them again changes nothing. Values that are settled already stay
as they are, and no others. A quantity is replaced exactly if it would be refused from a person. -/
theorem repair_settles (quantity : Float) (unit : String) (confidence : Float) :
    let repaired := repair quantity unit confidence
    Settled repaired.quantity repaired.unit repaired.confidence ∧
      repair repaired.quantity repaired.unit repaired.confidence = { repaired with replaced := false } ∧
      (repaired = ⟨quantity, unit, confidence, false⟩ ↔ Settled quantity unit confidence) ∧
      (repaired.replaced = true ↔ validateStagedQuantity quantity = .error .stagedQuantity) ∧
      repaired.quantity = if repaired.replaced then 0.0 else quantity := by
  intro repaired
  have settled : Settled repaired.quantity repaired.unit repaired.confidence :=
    repair_settled quantity unit confidence
  refine ⟨settled, repair_eq_self_iff.mpr settled, repair_eq_self_iff, replaced_iff, ?_⟩
  simp only [repaired, repair]
  cases isStorable quantity <;> rfl

-- Minus zero is a quantity like zero, and a confidence that is no number does not count as a replacement.
example : repair (-0.0) " l " (0.0 / 0.0) = ⟨-0.0, "l", 0.0, false⟩ := by rfl

end Candidate

end Larder
