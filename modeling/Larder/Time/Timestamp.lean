import Larder.Time.Calendar

/-!
Points in time with the offset they were given in.

Two time stamps are compared by the instant they name. The offset only matters when a time stamp is
written. RFC 3339 text has a year of four digits, one arbitrary ASCII character between date and
time, seconds, an optional fraction kept to nanoseconds, and `Z` or an offset. Second 60 is read
only where a leap second can be, at the end of a month in UTC, and stands for the last nanosecond
before it.
-/

namespace Larder

/-- An instant, as seconds and nanoseconds from 1970-01-01T00:00:00Z, and an offset in minutes. -/
structure Timestamp where
  seconds : Int
  nanos : Nat
  offset : Int
deriving DecidableEq, Repr, Inhabited

namespace Timestamp

def ofSeconds (seconds : Int) : Timestamp :=
  ⟨seconds, 0, 0⟩

def compareInstant (a b : Timestamp) : Ordering :=
  (compare a.seconds b.seconds).then (compare a.nanos b.nanos)

def padded (width value : Nat) : String :=
  let digits := Nat.toDigits 10 value
  String.ofList (List.replicate (width - digits.length) '0' ++ digits)

def fractionText (nanos : Nat) : String :=
  if nanos = 0 then ""
  else
    let digits := (padded 9 nanos).toList
    "." ++ String.ofList (digits.reverse.dropWhile (· == '0')).reverse

def offsetText (offset : Int) : String :=
  if offset = 0 then "Z"
  else
    let size := offset.natAbs
    (if offset < 0 then "-" else "+") ++ padded 2 (size / 60) ++ ":" ++ padded 2 (size % 60)

def toText (t : Timestamp) : String :=
  let here := t.seconds + t.offset * 60
  let date := Time.Date.ofDays (here / 86400)
  let second := (here % 86400).toNat
  padded 4 date.year.toNat ++ "-" ++ padded 2 date.month ++ "-" ++ padded 2 date.day ++ "T" ++
    padded 2 (second / 3600) ++ ":" ++ padded 2 (second / 60 % 60) ++ ":" ++
    padded 2 (second % 60) ++ fractionText t.nanos ++ offsetText t.offset

def number? (chars : List Char) : Option Nat :=
  if chars.all Char.isDigit && !chars.isEmpty then
    some (chars.foldl (fun value c => value * 10 + (c.toNat - '0'.toNat)) 0)
  else none

/-- Nanoseconds of a fraction's digits; those after the ninth are cut. -/
def nanosOf (digits : List Char) : Nat :=
  ((digits ++ List.replicate 9 '0').take 9).foldl
    (fun value c => value * 10 + (c.toNat - '0'.toNat)) 0

def offset? : List Char → Option Int
  | ['Z'] | ['z'] => some 0
  | [sign, h1, h2, ':', m1, m2] => do
      let hours ← number? [h1, h2]
      let minutes ← number? [m1, m2]
      if 23 < hours ∨ 59 < minutes then none
      else
        let size : Int := hours * 60 + minutes
        if sign == '+' then some size else if sign == '-' then some (-size) else none
  | _ => none

def tail? : List Char → Option (Nat × Int)
  | '.' :: rest => do
      let digits := rest.takeWhile Char.isDigit
      if digits.isEmpty then none
      else return (nanosOf digits, ← offset? (rest.dropWhile Char.isDigit))
  | rest => (offset? rest).map (0, ·)

def endsMonth (seconds : Int) : Bool :=
  let date := Time.Date.ofDays (seconds / 86400)
  seconds % 86400 == 86399 && date.day == Time.daysInMonth date.year date.month &&
    -9999 ≤ date.year && date.year ≤ 9999

def parse? (text : String) : Option Timestamp :=
  match text.toList with
  | y1 :: y2 :: y3 :: y4 :: '-' :: o1 :: o2 :: '-' :: d1 :: d2 :: separator ::
      h1 :: h2 :: ':' :: m1 :: m2 :: ':' :: s1 :: s2 :: rest => do
      let year ← number? [y1, y2, y3, y4]
      let month ← number? [o1, o2]
      let day ← number? [d1, d2]
      let hour ← number? [h1, h2]
      let minute ← number? [m1, m2]
      let second ← number? [s1, s2]
      let (nanos, offset) ← tail? rest
      let date : Time.Date := ⟨year, month, day⟩
      if !date.isValid || 23 < hour || 59 < minute || 60 < second || 127 < separator.toNat then none
      else
        let leap := second == 60
        let second := if leap then 59 else second
        let seconds := date.toDays * 86400 + (hour * 3600 + minute * 60 + second : Nat) - offset * 60
        if leap then (if endsMonth seconds then some ⟨seconds, 999999999, offset⟩ else none)
        else some ⟨seconds, nanos, offset⟩
  | _ => none

end Timestamp

end Larder
