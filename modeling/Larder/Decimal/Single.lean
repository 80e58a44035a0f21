import Larder.Decimal.Shortest

/-!
Rounding to single precision.

A setting kept in single precision is rounded to 24 significant bits, ties to even, and then
widened again; widening changes nothing.
-/

namespace Larder.Decimal

/-- The quotient of two natural numbers rounded to the nearest one, ties to even. -/
def roundDiv (num den : Nat) : Nat :=
  let quotient := num / den
  let twice := 2 * (num % den)
  if den < twice ∨ (twice = den ∧ quotient % 2 = 1) then quotient + 1 else quotient

/-- The value of single precision nearest to a whole number, as a double; whole numbers up to 24 bits
are kept. -/
def singleOfInt (value : Int) : Float :=
  let excess := value.natAbs.log2 - 23
  let size := roundDiv value.natAbs (Nat.pow 2 excess) * Nat.pow 2 excess
  Float.ofInt (value.sign * size)

def toSingle (x : Float) : Float :=
  if x.isFinite then
    let (significand, power, _) := binaryParts x
    if significand = 0 then x
    else
      let excess : Int := max ((significand.log2 : Int) - 23) (-149 - power)
      if excess ≤ 0 then x
      else
        let rounded := roundDiv significand (Nat.pow 2 excess.toNat)
        let size : Float :=
          if 0 ≤ power + excess ∧ Nat.pow 2 128 ≤ rounded * Nat.pow 2 (power + excess).toNat then
            1.0 / 0.0
          else (Float.ofNat rounded).scaleB (power + excess)
        if x.toBits >>> 63 == 1 then -size else size
  else x

end Larder.Decimal
