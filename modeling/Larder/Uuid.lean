/-!
Universally unique identifiers: 128-bit values, written as lower-case hyphenated hexadecimal.

`Uuid.parse?` accepts the hyphenated form, the same in braces or after `urn:uuid:`, and 32 bare
hexadecimal digits, and nothing around any of these.
-/

namespace Larder

structure Uuid where
  value : BitVec 128
deriving DecidableEq, Inhabited, Hashable

namespace Uuid

instance : Ord Uuid where
  compare a b := compare a.value.toNat b.value.toNat

def hexDigit? (c : Char) : Option Nat :=
  if '0' ≤ c ∧ c ≤ '9' then some (c.toNat - '0'.toNat)
  else if 'a' ≤ c ∧ c ≤ 'f' then some (c.toNat - 'a'.toNat + 10)
  else if 'A' ≤ c ∧ c ≤ 'F' then some (c.toNat - 'A'.toNat + 10)
  else none

def hexChar (digit : Nat) : Char :=
  if digit < 10 then Char.ofNat ('0'.toNat + digit) else Char.ofNat ('a'.toNat + (digit - 10))

def hexValue? (digits : List Char) : Option Nat :=
  digits.foldlM (fun value c => (hexDigit? c).map (value * 16 + ·)) 0

def digits (id : Uuid) : List Char :=
  (List.range 32).map fun position => hexChar ((id.value >>> (4 * (31 - position))).toNat % 16)

def toText (id : Uuid) : String :=
  let d := id.digits
  let group (start size : Nat) := String.ofList ((d.drop start).take size)
  String.intercalate "-" [group 0 8, group 8 4, group 12 4, group 16 4, group 20 12]

instance : ToString Uuid := ⟨toText⟩

def ofDigits? (chars : List Char) : Option Uuid :=
  if chars.length = 32 then (hexValue? chars).map fun value => ⟨BitVec.ofNat 128 value⟩ else none

def ofHyphenated? (chars : List Char) : Option Uuid :=
  if chars.length = 36 ∧ [8, 13, 18, 23].all (fun position => chars[position]? == some '-') then
    ofDigits? (chars.take 8 ++ (chars.drop 9).take 4 ++ (chars.drop 14).take 4 ++
      (chars.drop 19).take 4 ++ chars.drop 24)
  else none

def parse? (text : String) : Option Uuid :=
  let chars := text.toList
  match chars.length with
  | 32 => ofDigits? chars
  | 36 => ofHyphenated? chars
  | 38 =>
      if chars.head? == some '{' && chars.getLast? == some '}' then
        ofHyphenated? ((chars.drop 1).take 36)
      else none
  | 45 =>
      if (chars.take 9).map Char.toLower == "urn:uuid:".toList then ofHyphenated? (chars.drop 9)
      else none
  | _ => none

end Uuid

end Larder
