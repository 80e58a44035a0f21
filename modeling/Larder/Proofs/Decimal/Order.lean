import Mathlib.Order.Compare

/-!
# The order of doubles

A double that is a number has its place on the line (`place`), and doubles compare as their places do
(`unpacked_compare_eq`); what is not a number has none and compares with nothing. So the order is transitive
(`lt_of_lt_of_le`), and a finite double that is not below another one is at least as large
(`le_of_not_lt`), which lets a test for what is refused be read as a fact about what is let through.
-/

namespace Larder.Decimal
open Float.Model

/-! ## Places -/

/-- The side of zero with the infinities outermost, then exponent and mantissa. -/
def unpackedPlace : UnpackedFloat → Option (Int × Int × Int)
  | .notANumber => none
  | .zero _ => some (0, 0, 0)
  | .infinity .positive => some (2, 0, 0)
  | .infinity .negative => some (-2, 0, 0)
  | .finite .positive mantissa exponent _ => some (1, exponent, mantissa)
  | .finite .negative mantissa exponent _ => some (-1, -exponent, -mantissa)

def comparePlaces : Int × Int × Int → Int × Int × Int → Ordering :=
  compareLex (compareOn (·.1)) (compareLex (compareOn (·.2.1)) (compareOn (·.2.2)))

instance : Std.TransCmp comparePlaces :=
  inferInstanceAs (Std.TransCmp (compareLex _ _))

theorem compare_neg (a b : Int) : compare (-a) (-b) = (compare a b).swap := by
  rw [Int.compare_swap]
  rcases Int.lt_trichotomy a b with below | rfl | above
  · rw [Int.compare_eq_gt.mpr below, Int.compare_eq_gt.mpr (by omega)]
  · simp
  · rw [Int.compare_eq_lt.mpr above, Int.compare_eq_lt.mpr (by omega)]

theorem compare_natCast (a b : Nat) : compare (a : Int) (b : Int) = compare a b := by
  rcases Nat.lt_trichotomy a b with below | rfl | above
  · rw [Int.compare_eq_lt.mpr (by omega), Nat.compare_eq_lt.mpr below]
  · simp
  · rw [Int.compare_eq_gt.mpr (by omega), Nat.compare_eq_gt.mpr above]

theorem unpacked_compare_eq (a b : UnpackedFloat) :
    a.compare b = (unpackedPlace a).bind fun x => (unpackedPlace b).map (comparePlaces x) := by
  cases a with
  | notANumber => cases b <;> rfl
  | zero sign =>
      cases b with
      | notANumber | zero => rfl
      | infinity other | finite other => cases other <;> rfl
  | infinity sign =>
      cases b with
      | notANumber | zero => cases sign <;> rfl
      | infinity other | finite other => cases sign <;> cases other <;> rfl
  | finite sign mantissa exponent positive =>
      cases b with
      | notANumber | zero => cases sign <;> rfl
      | infinity other => cases sign <;> cases other <;> rfl
      | finite other mantissa' exponent' positive' =>
          cases sign with
          | positive =>
              cases other with
              | negative => rfl
              | positive =>
                  change some ((compare exponent exponent').then (compare mantissa mantissa')) =
                    some ((compare exponent exponent').then (compare (mantissa : Int) mantissa'))
                  rw [compare_natCast]
          | negative =>
              cases other with
              | positive => rfl
              | negative =>
                  change some ((compare exponent exponent').then (compare mantissa mantissa')).swap =
                    some ((compare (-exponent) (-exponent')).then (compare (-mantissa : Int) (-mantissa')))
                  rw [compare_neg, compare_neg, compare_natCast, Ordering.swap_then]

def place (a : Float) : Option (Int × Int × Int) :=
  unpackedPlace a.toModel.unpack

theorem exists_place {a : Float} (finite : a.isFinite = true) : ∃ x, place a = some x := by
  change a.toModel.unpack.isFinite = true at finite
  unfold place
  cases unpacked : a.toModel.unpack with
  | notANumber | infinity =>
      rw [unpacked] at finite
      cases finite
  | zero sign => exact ⟨_, rfl⟩
  | finite sign => cases sign <;> exact ⟨_, rfl⟩

/-! ## Comparisons -/

variable {a b c : Float}

theorem compare_eq_some {order : Ordering} :
    a.toModel.unpack.compare b.toModel.unpack = some order ↔
      ∃ x y, place a = some x ∧ place b = some y ∧ comparePlaces x y = order := by
  unfold place
  rw [unpacked_compare_eq]
  simp [Option.bind_eq_some_iff, Option.map_eq_some_iff]

theorem lt_iff : a < b ↔ ∃ x y, place a = some x ∧ place b = some y ∧ comparePlaces x y = .lt := by
  rw [← compare_eq_some]
  change (decide (a.toModel < b.toModel) = true) ↔ _
  rw [decide_eq_true_iff]
  change (a.toModel.unpack.compare b.toModel.unpack == some .lt) = true ↔ _
  exact beq_iff_eq

theorem le_iff : a ≤ b ↔ ∃ x y, place a = some x ∧ place b = some y ∧ (comparePlaces x y).isLE := by
  change (decide (a.toModel ≤ b.toModel) = true) ↔ _
  rw [decide_eq_true_iff]
  change (a.toModel.unpack.compare b.toModel.unpack).any (·.isLE) = true ↔ _
  rw [Option.any_eq_true]
  constructor
  · rintro ⟨order, compared, isLE⟩
    obtain ⟨x, y, placeA, placeB, rfl⟩ := compare_eq_some.mp compared
    exact ⟨x, y, placeA, placeB, isLE⟩
  · rintro ⟨x, y, placeA, placeB, isLE⟩
    exact ⟨_, compare_eq_some.mpr ⟨x, y, placeA, placeB, rfl⟩, isLE⟩

theorem beq_iff :
    (a == b) = true ↔ ∃ x y, place a = some x ∧ place b = some y ∧ comparePlaces x y = .eq := by
  rw [← compare_eq_some]
  change (a.toModel.unpack.compare b.toModel.unpack == some .eq) = true ↔ _
  exact beq_iff_eq

theorem lt_of_lt_of_le (below : a < b) (atMost : b ≤ c) : a < c := by
  obtain ⟨x, y, placeA, placeB, first⟩ := lt_iff.mp below
  obtain ⟨y', z, placeB', placeC, second⟩ := le_iff.mp atMost
  obtain rfl : y = y' := Option.some.inj (placeB.symm.trans placeB')
  exact lt_iff.mpr ⟨x, z, placeA, placeC, Std.TransCmp.lt_of_lt_of_isLE first second⟩

theorem not_lt_self (a : Float) : ¬ a < a := by
  intro below
  obtain ⟨x, x', placed, placed', less⟩ := lt_iff.mp below
  obtain rfl : x = x' := Option.some.inj (placed.symm.trans placed')
  have same : comparePlaces x x = .eq := Std.ReflCmp.compare_self
  rw [same] at less
  cases less

theorem not_lt_of_le (atMost : a ≤ b) : ¬ b < a :=
  fun below => not_lt_self b (lt_of_lt_of_le below atMost)

theorem le_of_not_lt (finiteA : a.isFinite = true) (finiteB : b.isFinite = true) (notBelow : ¬ b < a) :
    a ≤ b := by
  obtain ⟨x, placeA⟩ := exists_place finiteA
  obtain ⟨y, placeB⟩ := exists_place finiteB
  refine le_iff.mpr ⟨x, y, placeA, placeB, ?_⟩
  have notLess : comparePlaces y x ≠ .lt := fun less => notBelow (lt_iff.mpr ⟨y, x, placeB, placeA, less⟩)
  have mirrored : comparePlaces x y = (comparePlaces y x).swap := Std.OrientedCmp.eq_swap
  rw [mirrored]
  cases compared : comparePlaces y x with
  | lt => exact absurd compared notLess
  | eq | gt => rfl

theorem beq_of_le_of_not_lt (atMost : a ≤ b) (notBelow : ¬ a < b) : (a == b) = true := by
  obtain ⟨x, y, placeA, placeB, isLE⟩ := le_iff.mp atMost
  refine beq_iff.mpr ⟨x, y, placeA, placeB, ?_⟩
  cases compared : comparePlaces x y with
  | lt => exact absurd (lt_iff.mpr ⟨x, y, placeA, placeB, compared⟩) notBelow
  | eq => rfl
  | gt =>
      rw [compared] at isLE
      cases isLE

theorem not_lt_of_beq (same : (a == b) = true) : ¬ b < a := by
  obtain ⟨x, y, placeA, placeB, equal⟩ := beq_iff.mp same
  exact not_lt_of_le (le_iff.mpr ⟨x, y, placeA, placeB, by rw [equal]; rfl⟩)

theorem beq_symm (same : (a == b) = true) : (b == a) = true := by
  obtain ⟨x, y, placeA, placeB, equal⟩ := beq_iff.mp same
  exact beq_iff.mpr ⟨y, x, placeB, placeA, Std.OrientedCmp.eq_symm equal⟩

theorem le_of_lt (below : a < b) : a ≤ b := by
  obtain ⟨x, y, placeA, placeB, less⟩ := lt_iff.mp below
  exact le_iff.mpr ⟨x, y, placeA, placeB, by rw [less]; rfl⟩

theorem zero_isFinite : (0.0 : Float).isFinite = true := by decide

theorem one_isFinite : (1.0 : Float).isFinite = true := by decide

end Larder.Decimal
