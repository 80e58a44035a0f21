/-!
The shortest decimal that reads back to a given double.

A finite double that is not zero is `significand * 2 ^ power`. The reals that round to it form an
interval around it, whose ends belong to it when the significand is even. Among the decimals in that
interval with the fewest digits, the one nearest to the double is taken. All arithmetic is exact, on
natural numbers.
-/

namespace Larder.Decimal

/-- A positive number `digits * 10 ^ exponent`. -/
structure Scaled where
  digits : Nat
  exponent : Int
deriving Repr, DecidableEq

/-- The significand, the power of two and whether the gap below is half of the gap above. -/
def binaryParts (x : Float) : Nat × Int × Bool :=
  let bits := x.toBits.toNat
  let fraction : Nat := bits % Nat.pow 2 52
  let exponent : Nat := bits / Nat.pow 2 52 % Nat.pow 2 11
  if exponent = 0 then (fraction, -1074, false)
  else (fraction + Nat.pow 2 52, (exponent : Int) - 1075, fraction == 0 && 1 < exponent)

structure Ratio where
  num : Nat
  den : Nat

def Ratio.scale (r : Ratio) (power : Int) : Ratio :=
  if 0 ≤ power then ⟨r.num * Nat.pow 10 power.toNat, r.den⟩
  else ⟨r.num, r.den * Nat.pow 10 power.natAbs⟩

/-- The reals that round to a double, in quarters of its unit in the last place. -/
structure Interval where
  value : Ratio
  lower : Ratio
  upper : Ratio
  closed : Bool

def Interval.of (x : Float) : Interval :=
  let (significand, power, narrow) := binaryParts x
  let quarters (n : Nat) : Ratio :=
    if 2 ≤ power then ⟨n * Nat.pow 2 (power - 2).toNat, 1⟩
    else ⟨n, Nat.pow 2 (2 - power).toNat⟩
  { value := quarters (4 * significand)
    lower := quarters (4 * significand - if narrow then 1 else 2)
    upper := quarters (4 * significand + 2)
    closed := significand % 2 == 0 }

def Interval.has (i : Interval) (power : Int) (n : Nat) : Bool :=
  let lower := i.lower.scale power
  let upper := i.upper.scale power
  if i.closed then lower.num ≤ n * lower.den && n * upper.den ≤ upper.num
  else lower.num < n * lower.den && n * upper.den < upper.num

/-- The decimal with `count` digits in the interval that is nearest to its value, if there is one,
for a value below ten to the power `magnitude` and not below a tenth of that. -/
def Interval.withDigits? (i : Interval) (magnitude : Int) (count : Nat) : Option Scaled :=
  let power := (count : Int) - magnitude
  let value := i.value.scale power
  let below := value.num / value.den
  let remainder := value.num % value.den
  let nearBelow := 2 * remainder < value.den || (2 * remainder == value.den && below % 2 == 0)
  match i.has power below, i.has power (below + 1) with
  | true, true => some ⟨if nearBelow then below else below + 1, -power⟩
  | true, false => some ⟨below, -power⟩
  | false, true => some ⟨below + 1, -power⟩
  | false, false => none

/-- The least power of ten above a positive rational, near the guess `start`. -/
def magnitudeFrom (value : Ratio) (start : Int) : Int :=
  let above (power : Int) : Bool :=
    let scaled := value.scale (-power)
    scaled.num < scaled.den
  ([start - 2, start - 1, start, start + 1, start + 2].find? above).getD (start + 3)

def Scaled.strip (s : Scaled) : Nat → Scaled
  | 0 => s
  | steps + 1 =>
      if s.digits ≠ 0 ∧ s.digits % 10 = 0 then strip ⟨s.digits / 10, s.exponent + 1⟩ steps else s

def shortest (x : Float) : Scaled :=
  let interval := Interval.of x
  let (significand, power, _) := binaryParts x
  let guess := (power + significand.log2) * 30103 / 100000 + 1
  let magnitude := magnitudeFrom interval.value guess
  let found := (List.range 17).findSome? fun n => interval.withDigits? magnitude (n + 1)
  (found.getD ⟨0, 0⟩).strip 20

/-- Text of a finite double: positional from `1e-5` up to below `1e16`, with an exponent outside;
always with a fraction or an exponent. -/
def text (x : Float) : String :=
  let sign := if x.toBits >>> 63 == 1 then "-" else ""
  let size := x.abs
  if size == 0.0 then sign ++ "0.0"
  else
    let number := shortest size
    let digits := Nat.toDigits 10 number.digits
    let count : Int := digits.length
    let point := count + number.exponent
    let body :=
      if 0 < point ∧ point ≤ 16 then
        if count ≤ point then
          String.ofList (digits ++ List.replicate (point - count).toNat '0') ++ ".0"
        else String.ofList (digits.take point.toNat ++ '.' :: digits.drop point.toNat)
      else if -5 < point ∧ point ≤ 0 then
        "0." ++ String.ofList (List.replicate (-point).toNat '0' ++ digits)
      else
        let fraction := if digits.length = 1 then [] else '.' :: digits.drop 1
        String.ofList (digits.take 1 ++ fraction) ++ "e" ++ toString (point - 1)
    sign ++ body

end Larder.Decimal
