import Larder.Decimal.Nearest
import Larder.Uuid

/-!
Numbers in TOML.

Digits may be grouped by underscores, each of which stands between two digits. A decimal number does
not begin with a needless zero; numbers in base 16, 8 and 2 carry a mark and no sign. A number that
fits no 128-bit word, or a decimal fraction beyond the range of doubles, is read but has no value.
-/

namespace Larder.Toml.Number

def grouped? (isDigit : Char → Bool) : List Char → Option (List Char)
  | [] => none
  | [c] => if isDigit c then some [c] else none
  | c :: '_' :: d :: rest =>
      if isDigit c then (grouped? isDigit (d :: rest)).map (c :: ·) else none
  | c :: d :: rest => if isDigit c then (grouped? isDigit (d :: rest)).map (c :: ·) else none

def whole? (chars : List Char) : Option (List Char) := do
  let digits ← grouped? Char.isDigit chars
  if digits.head? == some '0' && 1 < digits.length then none else some digits

def based? (base : Nat) (chars : List Char) : Option Nat := do
  let digits ← grouped? (fun c => (Uuid.hexDigit? c).any (· < base)) chars
  return digits.foldl (fun value c => value * base + (Uuid.hexDigit? c).getD 0) 0

def exponent? (chars : List Char) : Option Int :=
  let (down, digits) :=
    match chars with
    | '-' :: digits => (true, digits)
    | '+' :: digits => (false, digits)
    | digits => (false, digits)
  (grouped? Char.isDigit digits).map fun digits =>
    let size : Int := Decimal.exponentValue digits
    if down then -size else size

/-- A number without its sign: a whole one, or a double, which may be infinite. -/
inductive Size
  | whole (value : Nat)
  | real (value : Float)
  | outOfRange

def ofDigits (digits : List Char) (exponent : Int) : Size :=
  let value := Decimal.nearest digits exponent
  if value.isInf then .outOfRange else .real value

def decimal? (chars : List Char) : Option Size := do
  let mantissa := chars.takeWhile fun c => c != 'e' && c != 'E'
  let behind := chars.drop mantissa.length
  let exponent ← match behind with
    | [] => some none
    | _ :: digits => (exponent? digits).map some
  let before := mantissa.takeWhile (· != '.')
  let whole ← whole? before
  match mantissa.drop before.length with
  | [] =>
      match exponent with
      | none => return .whole (Decimal.digitsValue whole)
      | some exponent => return ofDigits whole exponent
  | _ :: fraction =>
      let fraction ← grouped? Char.isDigit fraction
      return ofDigits (whole ++ fraction) (exponent.getD 0 - fraction.length)

def size? (chars : List Char) : Option Size :=
  match chars with
  | ['i', 'n', 'f'] => some (.real (1.0 / 0.0))
  | ['n', 'a', 'n'] => some (.real (0.0 / 0.0))
  | _ => decimal? chars

end Larder.Toml.Number
