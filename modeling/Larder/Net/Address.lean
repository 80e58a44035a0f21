import Larder.Text.Parts
import Larder.Time.Timestamp
import Larder.Uuid

/-!
Network addresses as text.

An address of version 4 is four numbers below 256 without needless zeros. One of version 6 is eight
groups of up to four hexadecimal digits, where a double colon stands for one or more groups of zero
and an address of version 4 may stand for the last two groups.
-/

namespace Larder.Net

/-- An address, as its octets or as its groups of 16 bits. -/
inductive Address
  | v4 (octets : List Nat)
  | v6 (groups : List Nat)
deriving DecidableEq, Repr

def numberBelow? (bound : Nat) (chars : List Char) : Option Nat := do
  let value ← Timestamp.number? chars
  if value < bound then some value else none

def octet? (chars : List Char) : Option Nat :=
  if chars.head? == some '0' && 1 < chars.length then none else numberBelow? 256 chars

def octets? (chars : List Char) : Option (List Nat) := do
  let octets ← (Text.parts '.' chars).mapM octet?
  if octets.length = 4 then some octets else none

def group? (chars : List Char) : Option Nat :=
  if chars.isEmpty || 4 < chars.length then none
  else (chars.mapM Uuid.hexDigit?).map fun digits => digits.foldl (fun value d => value * 16 + d) 0

def pair? (chars : List Char) : Option (List Nat) :=
  match octets? chars with
  | some [a, b, c, d] => some [a * 256 + b, c * 256 + d]
  | _ => none

/-- Groups with colons between them; the last part may be a version 4 address if `tail` says so. -/
def groups? (tail : Bool) : List (List Char) → Option (List Nat)
  | [] => some []
  | [last] =>
      match group? last with
      | some value => some [value]
      | none => if tail then pair? last else none
  | part :: rest => do
      let value ← group? part
      return value :: (← groups? tail rest)

def side? (tail : Bool) (chars : List Char) : Option (List Nat) :=
  if chars.isEmpty then some [] else groups? tail (Text.parts ':' chars)

def allGroups? (chars : List Char) : Option (List Nat) :=
  match Text.cut? [':', ':'] chars with
  | none => do
      let groups ← side? true chars
      if groups.length = 8 then some groups else none
  | some (before, behind) => do
      let front ← side? false before
      let back ← side? true behind
      let missing := 8 - (front.length + back.length)
      if missing = 0 then none else some (front ++ List.replicate missing 0 ++ back)

structure SocketAddress where
  address : Address
  port : Nat
deriving DecidableEq, Repr

def port? : List Char → Option Nat
  | ':' :: digits => numberBelow? 65536 digits
  | _ => none

/-- Reads an address with a port. A version 6 address stands in brackets and may carry the number of a
zone. -/
def SocketAddress.parse? (text : String) : Option SocketAddress :=
  match text.toList with
  | '[' :: rest => do
      let inside := rest.takeWhile (· != ']')
      let port ← port? (rest.drop (inside.length + 1))
      let address := inside.takeWhile (· != '%')
      let zone := inside.drop address.length
      if zone.isEmpty || (numberBelow? (Nat.pow 2 32) (zone.drop 1)).isSome then
        return ⟨.v6 (← allGroups? address), port⟩
      else none
  | chars => do
      let address := chars.takeWhile (· != ':')
      return ⟨.v4 (← octets? address), ← port? (chars.drop address.length)⟩

/-- The longest run of zeros in groups, as its place and its length; the first of equal ones. -/
def longestZeros (groups : List Nat) : Nat × Nat :=
  (List.range groups.length).foldl (fun best place =>
    let run := ((groups.drop place).takeWhile (· == 0)).length
    if best.2 < run then (place, run) else best) (0, 0)

def groupsText (groups : List Nat) : String :=
  ":".intercalate (groups.map fun group => String.ofList (Nat.toDigits 16 group))

/-- An address as text; a double colon stands for the longest run of two or more groups of zero. -/
def Address.toText : Address → String
  | .v4 octets => ".".intercalate (octets.map toString)
  | .v6 groups =>
      let (place, run) := longestZeros groups
      if run < 2 then groupsText groups
      else groupsText (groups.take place) ++ "::" ++ groupsText (groups.drop (place + run))

end Larder.Net
