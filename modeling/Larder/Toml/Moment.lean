import Larder.Time.Timestamp

/-!
Dates and times of day in TOML, alone or together, with or without an offset.

A moment is checked against the calendar and the clock and kept as text in a settled form: `T`
between date and time, `Z` in upper case, and at most nine digits of a second's fraction without
zeros at its end.
-/

namespace Larder.Toml.Moment

open Timestamp

def date? : List Char → Option String
  | [y1, y2, y3, y4, '-', o1, o2, '-', d1, d2] => do
      let year ← number? [y1, y2, y3, y4]
      let month ← number? [o1, o2]
      let day ← number? [d1, d2]
      let date : Time.Date := ⟨year, month, day⟩
      if date.isValid then
        some (padded 4 year ++ "-" ++ padded 2 month ++ "-" ++ padded 2 day)
      else none
  | _ => none

def fractionOf (digits : List Char) : String :=
  match ((digits.take 9).reverse.dropWhile (· == '0')).reverse with
  | [] => ".0"
  | kept => "." ++ String.ofList kept

def seconds? : List Char → Option (String × List Char)
  | ':' :: s1 :: s2 :: rest => do
      let second ← number? [s1, s2]
      if 60 < second then none
      else
        match rest with
        | '.' :: more =>
            let digits := more.takeWhile Char.isDigit
            if digits.isEmpty then none
            else some (":" ++ padded 2 second ++ fractionOf digits, more.dropWhile Char.isDigit)
        | _ => some (":" ++ padded 2 second, rest)
  | rest => some ("", rest)

def time? : List Char → Option (String × List Char)
  | h1 :: h2 :: ':' :: m1 :: m2 :: rest => do
      let hour ← number? [h1, h2]
      let minute ← number? [m1, m2]
      if 23 < hour ∨ 59 < minute then none
      else
        let (tail, rest) ← seconds? rest
        return (padded 2 hour ++ ":" ++ padded 2 minute ++ tail, rest)
  | _ => none

def offsetText? (chars : List Char) : Option String :=
  match chars with
  | ['Z'] | ['z'] => some "Z"
  | _ => do
      let minutes ← offset? chars
      return if minutes = 0 then "+00:00" else offsetText minutes

def clock? (dated : Bool) (chars : List Char) : Option String := do
  let (text, rest) ← time? chars
  if rest.isEmpty then return text
  else if dated then return text ++ (← offsetText? rest)
  else none

def ofChars? (chars : List Char) : Option String :=
  match chars.drop 10 with
  | [] => (date? chars).or (clock? false chars)
  | separator :: clock =>
      match date? (chars.take 10) with
      | some date =>
          if separator == 'T' || separator == 't' || separator == ' ' then
            (clock? true clock).map fun time => date ++ "T" ++ time
          else none
      | none => clock? false chars

end Larder.Toml.Moment
