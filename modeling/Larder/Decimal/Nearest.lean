/-!
The double nearest to a decimal number.

A number is given by its digits and a power of ten. Digits far behind the point cannot decide a
rounding except by being there at all, so only a bounded number of them is looked at.
-/

namespace Larder.Decimal

def digitsValue (digits : List Char) : Nat :=
  digits.foldl (fun value c => value * 10 + (c.toNat - '0'.toNat)) 0

/-- More digits than any midpoint between two neighbouring doubles has. -/
def significantDigits : Nat := 800

/-- The digits that matter for rounding, with the power of ten they then have: a tail that is not
zero is replaced by a single digit one. -/
def significant (digits : List Char) (exponent : Int) : List Char × Int :=
  let kept := digits.take significantDigits
  let dropped := digits.drop significantDigits
  if dropped.all (· == '0') then (kept, exponent + dropped.length)
  else (kept ++ ['1'], exponent + dropped.length - 1)

/-- The double nearest to `digits` times ten to the power `exponent`; infinite when it is too
large. -/
def nearest (digits : List Char) (exponent : Int) : Float :=
  let digits := digits.dropWhile (· == '0')
  let magnitude : Int := digits.length + exponent
  if digits.isEmpty then 0.0
  else if 310 < magnitude then 1.0 / 0.0
  else if magnitude < -330 then 0.0
  else
    let (kept, power) := significant digits exponent
    Float.ofScientific (digitsValue kept) (power < 0) power.natAbs

/-- The value of an exponent's digits, held below a bound that no finite double needs. -/
def exponentValue (digits : List Char) : Nat :=
  digits.foldl (fun value c => min 1000000000 (value * 10 + (c.toNat - '0'.toNat))) 0

end Larder.Decimal
