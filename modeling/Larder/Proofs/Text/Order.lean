import Larder.Proofs.Text.Utf8
import Mathlib.Data.String.Basic

namespace Larder.Text.Utf8

theorem ofNat_cons_lt {a b : Nat} {x y : List UInt8} (byte : a < 256) (byte' : b < 256) :
    UInt8.ofNat a :: x < UInt8.ofNat b :: y ↔ a < b ∨ a = b ∧ x < y := by
  rw [List.cons_lt_cons_iff, UInt8.lt_iff_toNat_lt, ← UInt8.toNat_inj, toNat_ofNat byte, toNat_ofNat byte']

theorem utf8EncodeChar_append_lt {c d : Char} (below : c < d) (x y : List UInt8) :
    String.utf8EncodeChar c ++ x < String.utf8EncodeChar d ++ y := by
  have range : c.toNat < 0xD800 ∨ 0xDFFF < c.toNat ∧ c.toNat < 0x110000 := c.valid
  have range' : d.toNat < 0xD800 ∨ 0xDFFF < d.toNat ∧ d.toNat < 0x110000 := d.valid
  have below : c.toNat < d.toNat := below
  unfold String.utf8EncodeChar
  simp only [Char.toNat_val]
  generalize c.toNat = m at range below ⊢
  generalize d.toNat = n at range' below ⊢
  -- Of characters with as many bytes, the first digit to the base of 64 that differs decides.
  have last : m / 64 < n / 64 ∨ m / 64 = n / 64 ∧ m % 64 < n % 64 := by omega
  have middle : m / 64 < n / 64 →
      m / 4096 < n / 4096 ∨ m / 4096 = n / 4096 ∧ m / 64 % 64 < n / 64 % 64 := by omega
  have first : m / 4096 < n / 4096 →
      m / 262144 < n / 262144 ∨ m / 262144 = n / 262144 ∧ m / 4096 % 64 < n / 4096 % 64 := by omega
  have sameFront : m / 64 = n / 64 → m / 4096 = n / 4096 := by omega
  have sameLead : m / 4096 = n / 4096 → m / 262144 = n / 262144 := by omega
  have lead : m / 262144 % 8 = m / 262144 ∧ n / 262144 % 8 = n / 262144 := by omega
  repeat' split
  all_goals
    simp only [List.cons_append, List.nil_append]
    repeat rw [ofNat_cons_lt (by omega) (by omega)]
    omega

theorem flatMap_lt {first second : List Char} (below : first < second) :
    first.flatMap String.utf8EncodeChar < second.flatMap String.utf8EncodeChar := by
  induction below with
  | @nil d rest =>
      obtain ⟨byte, bytes, code⟩ := List.exists_cons_of_ne_nil (String.utf8EncodeChar_ne_nil (c := d))
      rw [List.flatMap_nil, List.flatMap_cons, code]
      exact List.nil_lt_cons _ _
  | rel less => exact utf8EncodeChar_append_lt less _ _
  | cons later ih => exact List.append_left_lt ih

theorem encode_lt_iff (first second : String) : encode first < encode second ↔ first < second := by
  have forward (a b : String) (below : a < b) : encode a < encode b := by
    rw [encode_eq, encode_eq]
    exact flatMap_lt below
  refine ⟨fun below => ?_, forward first second⟩
  rcases lt_trichotomy first second with less | rfl | greater
  · exact less
  · exact absurd below (List.lt_irrefl _)
  · exact absurd below (List.lt_asymm (forward _ _ greater))

end Larder.Text.Utf8
