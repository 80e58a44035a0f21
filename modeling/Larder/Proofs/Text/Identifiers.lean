import Larder.Uuid
import Mathlib.Algebra.Group.Nat.Defs

namespace Larder.Uuid

theorem hexDigit?_hexChar : ∀ digit < 16, hexDigit? (hexChar digit) = some digit := by
  decide

theorem hexValue?_append {digits : List Char} {value : Nat} (read : hexValue? digits = some value) {digit : Nat}
    (hex : digit < 16) : hexValue? (digits ++ [hexChar digit]) = some (value * 16 + digit) := by
  unfold hexValue? at read ⊢
  rw [List.foldlM_append, read]
  simp [hexDigit?_hexChar digit hex]

theorem hexValue?_digits (value count : Nat) :
    hexValue? ((List.range count).map fun position => hexChar (value / 16 ^ (count - 1 - position) % 16)) =
      some (value % 16 ^ count) := by
  induction count generalizing value with
  | zero => simp [hexValue?, Nat.mod_one]
  | succ count ih =>
      -- All digits but the last are those of the number without it.
      have upper :
          (List.range count).map (fun position => hexChar (value / 16 ^ (count + 1 - 1 - position) % 16)) =
          (List.range count).map fun position => hexChar (value / 16 / 16 ^ (count - 1 - position) % 16) := by
        apply List.map_congr_left
        intro position listed
        have below := List.mem_range.mp listed
        have next : count + 1 - 1 - position = (count - 1 - position) + 1 := by omega
        rw [next, Nat.pow_succ', ← Nat.div_div_eq_div_mul]
      have last : value / 16 ^ (count + 1 - 1 - count) % 16 = value % 16 := by simp
      rw [List.range_succ, List.map_append, upper, List.map_singleton, last,
        hexValue?_append (ih (value / 16)) (by omega), Nat.pow_succ', Nat.mod_mul]
      rw [Nat.mul_comm, Nat.add_comm]

theorem digits_eq (id : Uuid) :
    id.digits = (List.range 32).map fun position => hexChar (id.value.toNat / 16 ^ (31 - position) % 16) := by
  unfold digits
  apply List.map_congr_left
  intro position _
  rw [BitVec.toNat_ushiftRight, Nat.shiftRight_eq_div_pow, Nat.pow_mul]

theorem ofDigits?_digits (id : Uuid) : ofDigits? id.digits = some id := by
  have read : hexValue? id.digits = some id.value.toNat := by
    rw [digits_eq, hexValue?_digits id.value.toNat 32, Nat.mod_eq_of_lt]
    exact id.value.isLt
  unfold ofDigits?
  rw [if_pos (by simp [digits]), read]
  simp

theorem ofHyphenated?_groups {a b c d e : List Char} (lengthA : a.length = 8) (lengthB : b.length = 4)
    (lengthC : c.length = 4) (lengthD : d.length = 4) (lengthE : e.length = 12) :
    ofHyphenated? (a ++ '-' :: (b ++ '-' :: (c ++ '-' :: (d ++ '-' :: e)))) =
      ofDigits? (a ++ b ++ c ++ d ++ e) := by
  unfold ofHyphenated?
  simp [List.drop_append, List.drop_eq_nil_of_le, List.getElem?_append, lengthA, lengthB,
    lengthC, lengthD, lengthE]

theorem toList_toText (id : Uuid) : id.toText.toList =
    id.digits.take 8 ++ '-' :: ((id.digits.drop 8).take 4 ++ '-' :: ((id.digits.drop 12).take 4 ++
      '-' :: ((id.digits.drop 16).take 4 ++ '-' :: (id.digits.drop 20).take 12))) := by
  unfold toText
  simp

theorem parse?_toText (id : Uuid) : parse? id.toText = some id := by
  have count : id.digits.length = 32 := by simp [digits]
  have size : id.toText.toList.length = 36 := by simp [toList_toText, count]
  have joined : id.digits.take 8 ++ (id.digits.drop 8).take 4 ++ (id.digits.drop 12).take 4 ++
      (id.digits.drop 16).take 4 ++ (id.digits.drop 20).take 12 = id.digits := by
    rw [← List.take_add, ← List.take_add, ← List.take_add, ← List.take_add, List.take_of_length_le (by omega)]
  unfold parse?
  simp only [size]
  rw [toList_toText, ofHyphenated?_groups, joined, ofDigits?_digits]
  all_goals simp [count]

end Larder.Uuid
