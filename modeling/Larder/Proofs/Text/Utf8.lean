import Larder.Text.Utf8

namespace Larder.Text.Utf8

theorem encode_eq (text : String) : encode text = text.toList.flatMap String.utf8EncodeChar := by
  have bytes : text.toUTF8 = (text.toList.flatMap String.utf8EncodeChar).toByteArray :=
    String.utf8Encode_toList.symm
  unfold encode
  rw [bytes, List.data_toByteArray]

theorem encode_append (first second : String) : encode (first ++ second) = encode first ++ encode second := by
  rw [encode_eq, encode_eq, encode_eq, String.toList_append, List.flatMap_append]

theorem encode_push (text : String) (c : Char) :
    encode (text.push c) = encode text ++ String.utf8EncodeChar c := by
  rw [encode_eq, encode_eq, String.toList_push, List.flatMap_append, List.flatMap_singleton]

/-! ## Reading -/

variable {done : List (Option Char)} {rest : List UInt8}

theorem decodeFrom_char {byte : UInt8} {c : Char} (leads : lead byte = .char c) :
    decodeFrom none done (byte :: rest) = decodeFrom none (some c :: done) rest := by
  simp only [decodeFrom, leads]

theorem decodeFrom_starts {byte : UInt8} {begun : Partial} (leads : lead byte = .starts begun) :
    decodeFrom none done (byte :: rest) = decodeFrom (some begun) done rest := by
  simp only [decodeFrom, leads]

/-- A byte that continues a character, given by the number of the least one that may stand there. -/
theorem decodeFrom_continues {begun : Partial} {tail : Nat} (below : tail < 64)
    (lower : begun.lower.toNat ≤ tail + 128) (upper : tail + 128 ≤ begun.upper.toNat) :
    decodeFrom (some begun) done (UInt8.ofNat (tail + 128) :: rest) =
      if begun.missing ≤ 1 then decodeFrom none (some (Char.ofNat (begun.value * 64 + tail)) :: done) rest
      else decodeFrom (some ⟨begun.value * 64 + tail, begun.missing - 1, 0x80, 0xBF⟩) done rest := by
  have code : (UInt8.ofNat (tail + 128)).toNat = tail + 128 :=
    UInt8.toNat_ofNat_of_lt' (show tail + 128 < 256 by omega)
  have within : begun.lower ≤ UInt8.ofNat (tail + 128) ∧ UInt8.ofNat (tail + 128) ≤ begun.upper := by
    rw [UInt8.le_iff_toNat_le, UInt8.le_iff_toNat_le, code]
    exact ⟨lower, upper⟩
  have value : (UInt8.ofNat (tail + 128)).toNat - 0x80 = tail := by omega
  rw [decodeFrom, if_pos within, value]

theorem toNat_ofNat {code : Nat} (byte : code < 256) : (UInt8.ofNat code).toNat = code :=
  UInt8.toNat_ofNat_of_lt' byte

theorem lead_one {code : Nat} (ascii : code < 128) : lead (UInt8.ofNat code) = .char (Char.ofNat code) := by
  unfold lead
  rw [toNat_ofNat (by omega)]
  exact if_pos ascii

theorem lead_two {head : Nat} (lower : 2 ≤ head) (upper : head < 32) :
    lead (UInt8.ofNat (head + 192)) = .starts ⟨head, 1, 0x80, 0xBF⟩ := by
  unfold lead
  rw [toNat_ofNat (by omega)]
  dsimp only
  rw [if_neg (by omega), if_neg (by omega), if_pos (by omega), Nat.add_sub_cancel]

/-- The second byte says whether a character of three bytes could have fewer or is none. -/
theorem lead_three {head : Nat} (upper : head < 16) :
    lead (UInt8.ofNat (head + 224)) =
      .starts ⟨head, 2, if head = 0 then 0xA0 else 0x80, if head = 13 then 0x9F else 0xBF⟩ := by
  unfold lead
  rw [toNat_ofNat (by omega)]
  dsimp only
  rw [if_neg (by omega), if_neg (by omega), if_neg (by omega), if_pos (by omega), Nat.add_sub_cancel]
  simp

theorem lead_four {head : Nat} (upper : head < 5) :
    lead (UInt8.ofNat (head + 240)) =
      .starts ⟨head, 3, if head = 0 then 0x90 else 0x80, if head = 4 then 0x8F else 0xBF⟩ := by
  unfold lead
  rw [toNat_ofNat (by omega)]
  dsimp only
  rw [if_neg (by omega), if_neg (by omega), if_neg (by omega), if_neg (by omega), if_pos (by omega),
    Nat.add_sub_cancel]
  simp

theorem decodeFrom_utf8EncodeChar (c : Char) :
    decodeFrom none done (String.utf8EncodeChar c ++ rest) = decodeFrom none (some c :: done) rest := by
  have range : c.toNat < 0xD800 ∨ 0xDFFF < c.toNat ∧ c.toNat < 0x110000 := c.valid
  have char : Char.ofNat c.toNat = c := Char.ofNat_toNat c
  unfold String.utf8EncodeChar
  simp only [Char.toNat_val]
  generalize c.toNat = n at range char ⊢
  -- A character has one to four bytes; each length has its own lead bytes.
  split
  case isTrue one => rw [List.cons_append, decodeFrom_char (lead_one (by omega)), char, List.nil_append]
  case isFalse several =>
    split
    case isTrue two =>
      rw [List.cons_append, decodeFrom_starts (lead_two (by omega) (by omega)), List.cons_append,
        decodeFrom_continues (by omega) (by simp) (by simp; omega), if_pos (by simp), List.nil_append,
        ← char]
      congr
      dsimp only
      omega
    case isFalse more =>
      split
      case isTrue three =>
        rw [List.cons_append, decodeFrom_starts (lead_three (by omega)), List.cons_append,
          decodeFrom_continues (by omega) ?_ ?_, if_neg (by simp), List.cons_append,
          decodeFrom_continues (by omega) (by simp) (by simp; omega), if_pos (by simp), List.nil_append,
          ← char]
        · congr
          dsimp only
          omega
        · dsimp only
          split
          · simp
            omega
          · simp
        · dsimp only
          split
          · simp
            omega
          · simp
            omega
      case isFalse four =>
        rw [List.cons_append, decodeFrom_starts (lead_four (by omega)), List.cons_append,
          decodeFrom_continues (by omega) ?_ ?_, if_neg (by simp), List.cons_append,
          decodeFrom_continues (by omega) (by simp) (by simp; omega), if_neg (by simp), List.cons_append,
          decodeFrom_continues (by omega) (by simp) (by simp; omega), if_pos (by simp), List.nil_append,
          ← char]
        · congr
          dsimp only
          omega
        · dsimp only
          split
          · simp
            omega
          · simp
        · dsimp only
          split
          · simp
            omega
          · simp
            omega

theorem decodeFrom_flatMap (chars : List Char) :
    decodeFrom none done (chars.flatMap String.utf8EncodeChar) = done.reverse ++ chars.map some := by
  induction chars generalizing done with
  | nil => simp [decodeFrom]
  | cons c chars ih =>
      rw [List.flatMap_cons, decodeFrom_utf8EncodeChar, ih, List.reverse_cons, List.append_assoc]
      rfl

theorem decode_encode (text : String) : decode (encode text) = text.toList.map some := by
  rw [encode_eq]
  exact decodeFrom_flatMap text.toList

theorem decode?_encode (text : String) : decode? (encode text) = some text := by
  unfold decode?
  rw [decode_encode]
  simp [Function.comp_def]

theorem ascii_of_mem_utf8EncodeChar {c : Char} {byte : UInt8} (member : byte ∈ String.utf8EncodeChar c)
    (ascii : byte.toNat < 128) : byte.toNat = c.toNat ∧ String.utf8EncodeChar c = [byte] := by
  have range : c.toNat < 0x110000 := by
    have valid : c.toNat < 0xD800 ∨ 0xDFFF < c.toNat ∧ c.toNat < 0x110000 := c.valid
    omega
  unfold String.utf8EncodeChar at member ⊢
  simp only [Char.toNat_val] at member ⊢
  generalize c.toNat = n at range member ⊢
  split at member
  case isTrue one =>
    obtain rfl := List.mem_singleton.mp member
    rw [if_pos one]
    exact ⟨toNat_ofNat (by omega), rfl⟩
  case isFalse several =>
    -- Every byte of a longer character is 128 or more.
    exfalso
    split at member
    · simp only [List.mem_cons, List.not_mem_nil, or_false] at member
      rcases member with rfl | rfl <;> rw [toNat_ofNat (by omega)] at ascii <;> omega
    · split at member
      · simp only [List.mem_cons, List.not_mem_nil, or_false] at member
        rcases member with rfl | rfl | rfl <;> rw [toNat_ofNat (by omega)] at ascii <;> omega
      · simp only [List.mem_cons, List.not_mem_nil, or_false] at member
        rcases member with rfl | rfl | rfl | rfl <;> rw [toNat_ofNat (by omega)] at ascii <;> omega

theorem exists_append_of_flatMap {chars : List Char} {before after : List UInt8} {byte : UInt8}
    (ascii : byte.toNat < 128) (same : chars.flatMap String.utf8EncodeChar = before ++ byte :: after) :
    ∃ front back, chars = front ++ Char.ofNat byte.toNat :: back ∧
      front.flatMap String.utf8EncodeChar = before ∧ back.flatMap String.utf8EncodeChar = after := by
  induction chars generalizing before with
  | nil => cases before <;> cases same
  | cons c chars ih =>
      rw [List.flatMap_cons] at same
      rcases List.append_eq_append_iff.mp same with ⟨rest, rfl, later⟩ | ⟨own, first, later⟩
      · obtain ⟨front, back, rfl, rfl, rfl⟩ := ih later
        exact ⟨c :: front, back, rfl, rfl, rfl⟩
      · cases own with
        | nil =>
            have behind : chars.flatMap String.utf8EncodeChar = [] ++ byte :: after := later.symm
            obtain ⟨front, back, rfl, none, rfl⟩ := ih behind
            refine ⟨c :: front, back, rfl, ?_, rfl⟩
            rw [List.flatMap_cons, none, first]
            simp
        | cons own rest =>
            obtain ⟨rfl, rfl⟩ := List.cons.inj later
            have member : byte ∈ String.utf8EncodeChar c := by
              rw [first]
              exact List.mem_append_right _ List.mem_cons_self
            obtain ⟨code, single⟩ := ascii_of_mem_utf8EncodeChar member ascii
            have alone : before = [] ∧ rest = [] := by
              rcases List.append_eq_singleton_iff.mp (first.symm.trans single) with ⟨none, last⟩ | ⟨_, none⟩
              · exact ⟨none, (List.cons.inj last).2⟩
              · cases none
            obtain ⟨rfl, rfl⟩ := alone
            exact ⟨[], chars, by rw [code, Char.ofNat_toNat]; rfl, rfl, rfl⟩

theorem exists_split {text : String} {before after : List UInt8} {byte : UInt8} (ascii : byte.toNat < 128)
    (same : encode text = before ++ byte :: after) :
    ∃ front back, text = front ++ String.singleton (Char.ofNat byte.toNat) ++ back ∧ encode front = before ∧
      encode back = after := by
  rw [encode_eq] at same
  obtain ⟨front, back, chars, rfl, rfl⟩ := exists_append_of_flatMap ascii same
  refine ⟨String.ofList front, String.ofList back, ?_, ?_, ?_⟩
  · rw [← String.toList_inj]
    simp [chars]
  · rw [encode_eq, String.toList_ofList]
  · rw [encode_eq, String.toList_ofList]

end Larder.Text.Utf8
