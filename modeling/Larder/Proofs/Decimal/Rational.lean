import Larder.Proofs.Decimal.Order
import Mathlib.Algebra.Order.Field.Power
import Mathlib.Algebra.Order.Field.Rat
import Mathlib.Tactic.NormNum
import Mathlib.Tactic.Positivity
import Mathlib.Tactic.Ring

/-!
# The numbers that doubles are

A finite double is a rational number (`rational?`), and doubles compare as these numbers do
(`le_iff_rational`). A mantissa may be short only where the exponent is least (`isCanonical_unpack`), which is
why exponents may be compared before mantissas.
-/

namespace Larder.Decimal
open Float.Model

def unpackedRational? : UnpackedFloat → Option ℚ
  | .zero _ => some 0
  | .finite .positive mantissa exponent _ => some (mantissa * 2 ^ exponent)
  | .finite .negative mantissa exponent _ => some (-(mantissa * 2 ^ exponent))
  | .infinity _ | .notANumber => none

def rational? (a : Float) : Option ℚ :=
  unpackedRational? a.toModel.unpack

theorem isFinite_iff_rational (a : Float) : a.isFinite = true ↔ ∃ x, rational? a = some x := by
  change a.toModel.unpack.isFinite = true ↔ _
  unfold rational?
  cases a.toModel.unpack with
  | notANumber | infinity => exact ⟨fun finite => (nomatch finite), fun ⟨_, number⟩ => (nomatch number)⟩
  | zero => exact iff_of_true rfl ⟨_, rfl⟩
  | finite sign => cases sign <;> exact iff_of_true rfl ⟨_, rfl⟩

/-! ## Mantissas and exponents -/

structure IsPrecise (mantissa : Nat) (exponent : Int) : Prop where
  short : mantissa < 2 ^ 53
  least : -1074 ≤ exponent
  long : -1074 < exponent → 2 ^ 52 ≤ mantissa

def IsCanonical : UnpackedFloat → Prop
  | .finite _ mantissa exponent _ => IsPrecise mantissa exponent
  | _ => True

theorem isCanonical_unpack (a : Float.Model) : IsCanonical a.unpack := by
  let mantissa := @UnpackedFloat.unpackMantissa Format.binary64 a.toBits.toBitVec
  let exponent := @UnpackedFloat.unpackExponent Format.binary64 a.toBits.toBitVec
  have bias : ((Format.binary64.exponentBias : Nat) : Int) + (52 : Nat) = 1075 := rfl
  have short : mantissa.toNat < 2 ^ 52 := mantissa.isLt
  unfold Float.Model.unpack UnpackedFloat.unpack
  dsimp only
  rw [bias]
  by_cases special : exponent = -1#11
  · rw [if_pos special]
    by_cases infinite : mantissa = 0#52
    · rw [if_pos infinite]
      trivial
    · rw [if_neg infinite]
      trivial
  · rw [if_neg special]
    by_cases subnormal : exponent = 0#11
    · rw [if_pos subnormal]
      by_cases zero : mantissa = 0#52
      · rw [dif_pos zero]
        trivial
      · rw [dif_neg zero]
        have least : exponent.toNat = 0 := congrArg BitVec.toNat subnormal
        change IsPrecise mantissa.toNat (exponent.toNat - 1075 + 1)
        rw [least]
        exact ⟨Nat.lt_trans short (by decide), by decide, fun above => absurd above (by decide)⟩
    · rw [if_neg subnormal]
      have positive : exponent.toNat ≠ 0 := fun zero => subnormal (BitVec.eq_of_toNat_eq zero)
      have full : (1#1 ++ mantissa).toNat = 2 ^ 52 + mantissa.toNat := by
        rw [BitVec.toNat_append, ← Nat.shiftLeft_add_eq_or_of_lt short]
        rfl
      change IsPrecise (1#1 ++ mantissa).toNat (exponent.toNat - 1075)
      rw [full]
      exact ⟨by omega, by omega, fun _ => by omega⟩

theorem scaled_lt {m n : Nat} {e f : Int} (short : m < 2 ^ 53) (long : 2 ^ 52 ≤ n) (below : e < f) :
    (m : ℚ) * 2 ^ e < n * 2 ^ f := by
  have short' : (m : ℚ) < 2 ^ 53 := by exact_mod_cast short
  have long' : (2 ^ 52 : ℚ) ≤ n := by exact_mod_cast long
  calc (m : ℚ) * 2 ^ e < 2 ^ 53 * 2 ^ e := mul_lt_mul_of_pos_right short' (by positivity)
    _ = 2 ^ 52 * 2 ^ (e + 1) := by
        rw [zpow_add_one₀ two_ne_zero]
        ring
    _ ≤ 2 ^ 52 * 2 ^ f := by
        gcongr
        · norm_num
        · omega
    _ ≤ n * 2 ^ f := by gcongr

theorem compare_scaled {m n : Nat} {e f : Int} (precise : IsPrecise m e) (precise' : IsPrecise n f) :
    (compare e f).then (compare m n) = compare ((m : ℚ) * 2 ^ e) (n * 2 ^ f) := by
  rcases Int.lt_trichotomy e f with below | rfl | above
  · have long := precise'.long (by have := precise.least; omega)
    rw [Int.compare_eq_lt.mpr below]
    exact (compare_lt_iff_lt.mpr (scaled_lt precise.short long below)).symm
  · have scale : StrictMono fun k : Nat => (k : ℚ) * 2 ^ e := fun j k less =>
      mul_lt_mul_of_pos_right (by exact_mod_cast less) (by positivity)
    rw [compare_eq_iff_eq.mpr rfl, ← cmp_eq_compare, ← cmp_eq_compare]
    exact (scale.cmp_map_eq m n).symm
  · have long := precise.long (by have := precise'.least; omega)
    rw [Int.compare_eq_gt.mpr above]
    exact (compare_gt_iff_gt.mpr (scaled_lt precise'.short long above)).symm

theorem scaled_pos {m : Nat} {e : Int} (positive : 0 < m) : (0 : ℚ) < m * 2 ^ e := by
  have nonzero : (0 : ℚ) < m := by exact_mod_cast positive
  positivity

theorem compare_neg_neg (x y : ℚ) : compare (-x) (-y) = (compare x y).swap := by
  rw [← cmp_eq_compare, ← cmp_eq_compare, cmp_swap]
  exact StrictAnti.cmp_map_eq (f := fun z : ℚ => -z) (fun _ _ less => neg_lt_neg less) x y

/-! ## Comparisons -/

theorem unpacked_compare_rational {a b : UnpackedFloat} (canonical : IsCanonical a) (canonical' : IsCanonical b)
    {x y : ℚ} (rationalA : unpackedRational? a = some x) (rationalB : unpackedRational? b = some y) :
    a.compare b = some (compare x y) := by
  cases a with
  | notANumber | infinity => cases rationalA
  | zero sign =>
      cases rationalA
      cases b with
      | notANumber | infinity => cases rationalB
      | zero other =>
          cases rationalB
          exact congrArg some (compare_eq_iff_eq.mpr rfl).symm
      | finite other n f positive' =>
          have above : (0 : ℚ) < n * 2 ^ f := scaled_pos positive'
          cases other with
          | positive =>
              cases rationalB
              exact congrArg some (compare_lt_iff_lt.mpr above).symm
          | negative =>
              cases rationalB
              exact congrArg some (compare_gt_iff_gt.mpr (neg_neg_of_pos above)).symm
  | finite sign m e positive =>
      have above : (0 : ℚ) < m * 2 ^ e := scaled_pos positive
      cases b with
      | notANumber | infinity => cases rationalB
      | zero other =>
          cases rationalB
          cases sign with
          | positive =>
              cases rationalA
              exact congrArg some (compare_gt_iff_gt.mpr above).symm
          | negative =>
              cases rationalA
              exact congrArg some (compare_lt_iff_lt.mpr (neg_neg_of_pos above)).symm
      | finite other n f positive' =>
          have above' : (0 : ℚ) < n * 2 ^ f := scaled_pos positive'
          have scaled := compare_scaled canonical canonical'
          cases sign with
          | positive =>
              cases rationalA
              cases other with
              | positive =>
                  cases rationalB
                  exact congrArg some scaled
              | negative =>
                  cases rationalB
                  exact congrArg some (compare_gt_iff_gt.mpr ((neg_neg_of_pos above').trans above)).symm
          | negative =>
              cases rationalA
              cases other with
              | positive =>
                  cases rationalB
                  exact congrArg some (compare_lt_iff_lt.mpr ((neg_neg_of_pos above).trans above')).symm
              | negative =>
                  cases rationalB
                  rw [compare_neg_neg, ← scaled]
                  rfl

variable {a b : Float} {x y : ℚ}

theorem le_iff_rational (rationalA : rational? a = some x) (rationalB : rational? b = some y) : a ≤ b ↔ x ≤ y := by
  have compared := unpacked_compare_rational (isCanonical_unpack a.toModel) (isCanonical_unpack b.toModel)
    rationalA rationalB
  change (decide (a.toModel ≤ b.toModel) = true) ↔ _
  rw [decide_eq_true_iff]
  change (a.toModel.unpack.compare b.toModel.unpack).any (·.isLE) = true ↔ _
  rw [compared]
  change (compare x y).isLE = true ↔ _
  exact Ordering.isLE_iff_ne_gt.trans compare_le_iff_le

theorem rational_zero : rational? 0.0 = some 0 := rfl

theorem rational_one : rational? 1.0 = some 1 := by
  change some (((2 ^ 52 : ℕ) : ℚ) * 2 ^ (-52 : ℤ)) = some 1
  norm_num

theorem rational_two : rational? 2.0 = some 2 := by
  change some (((2 ^ 52 : ℕ) : ℚ) * 2 ^ (-51 : ℤ)) = some 2
  norm_num

end Larder.Decimal
