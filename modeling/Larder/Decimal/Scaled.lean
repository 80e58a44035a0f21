import Larder.Decimal.Nearest

/-!
Doubles read from decimals in one scaling.

The leading digits of a decimal, as many as make a 64-bit word, are taken as a whole number, and the
double nearest to it is multiplied or divided by a power of ten. The result is the nearest double to
the decimal only where both roundings allow it, in particular when the digits make a number below two
to the power 53 and the power of ten is at most 22.
-/

namespace Larder.Decimal

def wordBound : Nat := Nat.pow 2 64

/-- Appends digits to a number as long as it stays a word; answers the digits left over. -/
def appendDigits (value : Nat) : List Char → Nat × List Char
  | [] => (value, [])
  | c :: rest =>
      let longer := value * 10 + (c.toNat - '0'.toNat)
      if longer < wordBound then appendDigits longer rest else (value, c :: rest)

def powerOfTen (exponent : Nat) : Float :=
  Float.ofScientific 1 false exponent

/-- The greatest power of ten that is a finite double. -/
def maxPower : Nat := 308

def scaleDown (value : Float) (exponent : Nat) : Float :=
  if exponent ≤ maxPower then value / powerOfTen exponent
  else if exponent ≤ 2 * maxPower then
    value / powerOfTen maxPower / powerOfTen (exponent - maxPower)
  else 0.0

def scaleUp? (value : Float) (exponent : Nat) : Option Float :=
  if value == 0.0 then some value
  else if exponent ≤ maxPower then
    let product := value * powerOfTen exponent
    if product.isInf then none else some product
  else none

/-- The double of the digits before and behind a decimal point and a power of ten, unless it is too
large. Digits that no longer fit count by their number before the point, and not at all behind it. -/
def scaled? (whole fraction : List Char) (exponent : Int) : Option Float :=
  let (value, before) := appendDigits 0 whole
  let (value, behind) := appendDigits value fraction
  let power := exponent + before.length - (fraction.length - behind.length : Nat)
  if 0 ≤ power then scaleUp? (Float.ofNat value) power.toNat
  else some (scaleDown (Float.ofNat value) power.natAbs)

end Larder.Decimal
