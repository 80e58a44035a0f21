/-!
Punycode, which writes a label of any characters in ASCII.

The ASCII characters of the label stand first. Behind the last hyphen follow the others, in the order
of their numbers: each as one whole number in base 36, which says how far its number and its place are
from those of the character before.
-/

namespace Larder.Url.Punycode

def digit? (c : Char) : Option Nat :=
  if 'a' ≤ c ∧ c ≤ 'z' then some (c.toNat - 'a'.toNat)
  else if '0' ≤ c ∧ c ≤ '9' then some (c.toNat - '0'.toNat + 26)
  else none

/-- The least value of a digit, with so much weight before it, behind which another digit follows. -/
def threshold (position bias : Nat) : Nat :=
  if position ≤ bias then 1 else min 26 (position - bias)

/-- The bias for the next number, from a distance that is evened out. -/
def spread : Nat → Nat → Nat → Nat
  | 0, position, _ => position
  | fuel + 1, position, distance =>
      if 455 < distance then spread fuel (position + 36) (distance / 35)
      else position + 36 * distance / (distance + 38)

def nextBias (first : Bool) (distance count : Nat) : Nat :=
  let distance := if first then distance / 700 else distance / 2
  spread (distance + 1) 0 (distance + distance / count)

/-- Reads a number with the digits of the least weight first; answers the characters left over. -/
def readNumber? (bias position weight value : Nat) : List Char → Option (Nat × List Char)
  | [] => none
  | c :: rest => do
      let digit ← digit? c
      let value := value + digit * weight
      let least := threshold position bias
      if digit < least then return (value, rest)
      else readNumber? bias (position + 36) (weight * (36 - least)) value rest

def bound : Nat := Nat.pow 2 32

def insertAll? : Nat → Nat → Nat → Nat → List Char → List Char → Option (List Char)
  | _, _, _, _, done, [] => some done
  | 0, _, _, _, _, _ => none
  | fuel + 1, bias, code, place, done, chars => do
      let (distance, rest) ← readNumber? bias 36 1 0 chars
      let count := done.length + 1
      let code := code + (place + distance) / count
      let place := (place + distance) % count
      if bound ≤ distance ∨ ¬ code.isValidChar then none
      else
        let bias := nextBias (done.all (·.toNat < 0x80)) distance count
        insertAll? fuel bias code (place + 1)
          (done.take place ++ Char.ofNat code :: done.drop place) rest

def decode? (chars : List Char) : Option (List Char) :=
  let behind := (chars.reverse.takeWhile (· != '-')).reverse
  let plain := chars.take (chars.length - behind.length - 1)
  insertAll? chars.length 72 128 0 plain (if plain.isEmpty then chars else behind)

end Larder.Url.Punycode
