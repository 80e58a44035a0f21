import Larder.Json.Decoder
import Larder.Json.Printer
import Larder.Proofs.Json.Reading
import Mathlib.Data.List.TakeWhile

namespace Larder.Json
open Text.Utf8 (encode)

/-! ## Texts -/

theorem writeChar_eq (written : String) (c : Char) : writeChar written c = written ++ writeChar "" c := by
  unfold writeChar
  repeat' split
  all_goals simp [← String.append_singleton, String.append_assoc]

theorem encode_foldl_writeChar (chars : List Char) (written : String) :
    encode (chars.foldl writeChar written) =
      encode written ++ chars.flatMap fun c => encode (writeChar "" c) := by
  induction chars generalizing written with
  | nil => simp
  | cons c chars ih =>
      rw [List.foldl_cons, ih, writeChar_eq, Text.Utf8.encode_append, List.flatMap_cons, List.append_assoc]

theorem encode_writeText (written text : String) :
    encode (writeText written text) = encode written ++
      0x22 :: ((text.toList.flatMap fun c => encode (writeChar "" c)) ++ [0x22]) := by
  unfold writeText
  rw [String.foldl_eq_foldl_toList, Text.Utf8.encode_push, encode_foldl_writeChar, Text.Utf8.encode_push]
  simp only [List.append_assoc]
  rfl

variable {read more : List UInt8}

theorem scanText_plain {plain : List UInt8}
    (stands : ∀ byte ∈ plain, byte ≠ 0x22 ∧ byte ≠ 0x5C ∧ ¬ byte < 0x20) :
    scanText ⟨some read, none⟩ (plain ++ more) = scanText ⟨some (plain.reverse ++ read), none⟩ more := by
  induction plain generalizing read with
  | nil => rfl
  | cons byte plain ih =>
      obtain ⟨⟨noQuote, noEscape, printable⟩, rest⟩ := List.forall_mem_cons.mp stands
      rw [List.cons_append, scanText_byte noQuote noEscape printable]
      exact (ih rest).trans (by simp)

theorem hexByte?_escapeDigit : ∀ digit < 16,
    String.utf8EncodeChar (escapeDigit digit) = [UInt8.ofNat (escapeDigit digit).toNat] ∧
      hexByte? (UInt8.ofNat (escapeDigit digit).toNat) = some digit := by
  decide

theorem scanText_control {code : Nat} (control : code < 32) :
    scanText ⟨some read, none⟩
        (0x5C :: 0x75 :: 0x30 :: 0x30 :: (String.utf8EncodeChar (escapeDigit (code / 16)) ++
          (String.utf8EncodeChar (escapeDigit (code % 16)) ++ more))) =
      scanText ⟨some (pushChar read code), none⟩ more := by
  obtain ⟨highByte, high⟩ := hexByte?_escapeDigit (code / 16) (by omega)
  obtain ⟨lowByte, low⟩ := hexByte?_escapeDigit (code % 16) (by omega)
  have unit : hexUnit? 0x30 0x30 (UInt8.ofNat (escapeDigit (code / 16)).toNat)
      (UInt8.ofNat (escapeDigit (code % 16)).toNat) = some code := by
    have zero : hexByte? 0x30 = some 0 := rfl
    simp only [hexUnit?, zero, high, low, Option.bind_eq_bind, Option.bind_some, Option.pure_def,
      Option.some.injEq]
    omega
  have noHalf : Scanned.unit ⟨some read, none⟩ code = ⟨some (pushChar read code), none⟩ := by
    unfold Scanned.unit
    dsimp only
    rw [if_neg (by omega), if_neg (by omega)]
    rfl
  rw [highByte, lowByte, List.singleton_append, List.singleton_append, scanText_unit unit, noHalf]

theorem scanText_writeChar (c : Char) :
    scanText ⟨some read, none⟩ (encode (writeChar "" c) ++ more) =
      scanText ⟨some ((String.utf8EncodeChar c).reverse ++ read), none⟩ more := by
  by_cases quote : c = '"'
  · subst quote
    exact scanText_escape rfl _ more
  by_cases backslash : c = '\\'
  · subst backslash
    exact scanText_escape rfl _ more
  by_cases newline : c = '\n'
  · subst newline
    exact scanText_escape rfl _ more
  by_cases carriage : c = '\r'
  · subst carriage
    exact scanText_escape rfl _ more
  by_cases tabulator : c = '\t'
  · subst tabulator
    exact scanText_escape rfl _ more
  have char : Char.ofNat c.toNat = c := Char.ofNat_toNat c
  by_cases backspace : c.toNat = 8
  · obtain rfl : c = Char.ofNat 8 := by rw [← backspace, char]
    exact scanText_escape rfl _ more
  by_cases feed : c.toNat = 12
  · obtain rfl : c = Char.ofNat 12 := by rw [← feed, char]
    exact scanText_escape rfl _ more
  have written : writeChar "" c = if c.toNat < 32 then
      (("\\u00").push (escapeDigit (c.toNat / 16))).push (escapeDigit (c.toNat % 16))
      else "".push c := by
    unfold writeChar
    simp only [beq_iff_eq, quote, backslash, newline, carriage, tabulator, backspace, feed, if_false]
    rfl
  rw [written]
  by_cases control : c.toNat < 32
  · rw [if_pos control, Text.Utf8.encode_push, Text.Utf8.encode_push, List.append_assoc, List.append_assoc]
    refine (scanText_control control).trans ?_
    unfold pushChar
    rw [char, Text.Utf8.encode_eq]
    simp
  · rw [if_neg control, Text.Utf8.encode_push]
    apply scanText_plain
    intro byte member
    have same (ascii : byte.toNat < 128) : Char.ofNat byte.toNat = c := by
      rw [(Text.Utf8.ascii_of_mem_utf8EncodeChar member ascii).1, char]
    refine ⟨?_, ?_, ?_⟩
    · rintro rfl
      exact quote (same (by decide)).symm
    · rintro rfl
      exact backslash (same (by decide)).symm
    · intro low
      have below : byte.toNat < 32 := low
      have code := (Text.Utf8.ascii_of_mem_utf8EncodeChar member (by omega)).1
      omega

theorem scanText_flatMap (chars : List Char) :
    scanText ⟨some read, none⟩ ((chars.flatMap fun c => encode (writeChar "" c)) ++ more) =
      scanText ⟨some ((chars.flatMap String.utf8EncodeChar).reverse ++ read), none⟩ more := by
  induction chars generalizing read with
  | nil => rfl
  | cons c chars ih =>
      rw [List.flatMap_cons, List.append_assoc, scanText_writeChar, ih, List.flatMap_cons,
        List.reverse_append, List.append_assoc]

theorem spells_text (text : String) : Spells (writeText "" text) (.text (some text)) := by
  have content : Scanned.content ⟨some (encode text).reverse, none⟩ = some text := by
    unfold Scanned.content
    simp [Text.Utf8.decode?_encode]
  have scanned : scanText ⟨some [], none⟩
      ((text.toList.flatMap fun c => encode (writeChar "" c)) ++ [0x22]) = some (some text, []) := by
    rw [scanText_flatMap, List.append_nil, ← Text.Utf8.encode_eq, scanText_quote, content]
  have next : nextToken? 0x22 ((text.toList.flatMap fun c => encode (writeChar "" c)) ++ [0x22]) =
      some (.text (some text), []) := by
    unfold nextToken?
    exact (congrArg (Option.map _) scanned)
  unfold Spells
  rw [encode_writeText]
  exact .token rfl next rfl (.after rfl)

/-! ## Numbers -/

theorem digitChar_ne_zero : ∀ digit < 10, 0 < digit → Nat.digitChar digit ≠ '0' := by
  decide

theorem head_toDigits {n : Nat} (positive : 0 < n) : ∀ c ∈ (Nat.toDigits 10 n).head?, c ≠ '0' := by
  induction n using Nat.strongRecOn with
  | _ n ih =>
      by_cases small : n < 10
      · rw [Nat.toDigits_of_lt_base small]
        intro c first
        obtain rfl := Option.mem_some_iff.mp first
        exact digitChar_ne_zero n small positive
      · rw [Nat.toDigits_of_base_le (by omega) (by omega)]
        intro c first
        have earlier := ih (n / 10) (by omega) (by omega)
        rw [List.head?_append_of_ne_nil _ Nat.toDigits_ne_nil] at first
        exact earlier c first

theorem le_ofDigitChars (digits : List Char) (value : Nat) : value ≤ Nat.ofDigitChars 10 digits value := by
  induction digits generalizing value with
  | nil => exact Nat.le_refl value
  | cons c digits ih =>
      rw [Nat.ofDigitChars_cons]
      exact Nat.le_trans (by omega) (ih _)

theorem appendDigits_eq {digits : List Char} {value : Nat}
    (fits : Nat.ofDigitChars 10 digits value < Decimal.wordBound) :
    Decimal.appendDigits value digits = (Nat.ofDigitChars 10 digits value, []) := by
  induction digits generalizing value with
  | nil => rfl
  | cons c digits ih =>
      rw [Nat.ofDigitChars_cons, Nat.mul_comm] at fits ⊢
      unfold Decimal.appendDigits
      dsimp only
      rw [if_pos (Nat.lt_of_le_of_lt (le_ofDigitChars digits _) fits)]
      exact ih fits

theorem appendDigits_toDigits {n : Nat} (word : n < Decimal.wordBound) :
    Decimal.appendDigits 0 (Nat.toDigits 10 n) = (n, []) := by
  have same : Nat.ofDigitChars 10 (Nat.toDigits 10 n) 0 = n := Nat.ofDigitChars_ten_toDigits
  rw [appendDigits_eq (same.symm ▸ word), same]

theorem isDigit_toDigits (n : Nat) : ∀ c ∈ Nat.toDigits 10 n, c.isDigit = true :=
  fun _ member => Nat.isDigit_of_mem_toDigits (by omega) (by omega) member

theorem utf8EncodeChar_digit {c : Char} (digit : c.isDigit = true) :
    String.utf8EncodeChar c = [UInt8.ofNat c.toNat] ∧ isDigit (UInt8.ofNat c.toNat) = true ∧
      Char.ofNat (UInt8.ofNat c.toNat).toNat = c := by
  have range : 48 ≤ c.toNat ∧ c.toNat ≤ 57 := by
    simpa [Char.isDigit, UInt32.le_iff_toNat_le] using digit
  have byte : (UInt8.ofNat c.toNat).toNat = c.toNat := Text.Utf8.toNat_ofNat (by omega)
  refine ⟨?_, ?_, by rw [byte, Char.ofNat_toNat]⟩
  · unfold String.utf8EncodeChar
    rw [Char.toNat_val, if_pos (by omega)]
  · unfold isDigit
    simp only [Bool.and_eq_true, decide_eq_true_eq, UInt8.le_iff_toNat_le, byte]
    exact range

theorem digitChars_flatMap {digits : List Char} (all : ∀ c ∈ digits, c.isDigit = true) :
    (∀ byte ∈ digits.flatMap String.utf8EncodeChar, isDigit byte = true) ∧
      digitChars (digits.flatMap String.utf8EncodeChar) = digits := by
  induction digits with
  | nil => exact ⟨nofun, rfl⟩
  | cons c digits ih =>
      obtain ⟨first, rest⟩ := List.forall_mem_cons.mp all
      obtain ⟨bytes, isByte, char⟩ := utf8EncodeChar_digit first
      obtain ⟨restBytes, restChars⟩ := ih rest
      rw [List.flatMap_cons, bytes, List.singleton_append]
      refine ⟨List.forall_mem_cons.mpr ⟨isByte, restBytes⟩, ?_⟩
      unfold digitChars at restChars ⊢
      rw [List.map_cons, char, restChars]

theorem head_flatMap_toDigits {n : Nat} (positive : 0 < n) :
    ((Nat.toDigits 10 n).flatMap String.utf8EncodeChar).head? ≠ some 0x30 := by
  have digits := isDigit_toDigits n
  have leads := head_toDigits positive
  generalize Nat.toDigits 10 n = chars at digits leads
  cases chars with
  | nil => nofun
  | cons c chars =>
      obtain ⟨bytes, _, char⟩ := utf8EncodeChar_digit (digits c List.mem_cons_self)
      rw [List.flatMap_cons, bytes]
      intro zero
      have same : UInt8.ofNat c.toNat = 0x30 := Option.some.inj zero
      rw [same] at char
      exact leads c rfl char.symm

theorem scanNumber_toDigits (negative : Bool) (n : Nat) :
    scanNumber negative (encode (String.ofList (Nat.toDigits 10 n))) =
      some (⟨negative, Nat.toDigits 10 n, none, none⟩, []) := by
  rcases Nat.eq_zero_or_pos n with rfl | positive
  · cases negative <;> rfl
  · obtain ⟨bytes, chars⟩ := digitChars_flatMap (isDigit_toDigits n)
    have leads := head_flatMap_toDigits positive
    have filled : (Nat.toDigits 10 n).flatMap String.utf8EncodeChar ≠ [] := by
      intro empty
      rw [empty] at chars
      exact Nat.toDigits_ne_nil chars.symm
    rw [Text.Utf8.encode_eq, String.toList_ofList, scanNumber_eq]
    generalize (Nat.toDigits 10 n).flatMap String.utf8EncodeChar = all at bytes chars leads filled ⊢
    have taken : all.takeWhile isDigit = all := List.takeWhile_eq_self_iff.mpr bytes
    have dropped : all.dropWhile isDigit = [] := List.dropWhile_eq_nil_iff.mpr bytes
    rw [taken, dropped, chars]
    rw [if_neg (by simp [leads, filled])]
    rfl

theorem nextToken?_digit {byte : UInt8} (digit : isDigit byte = true) (rest : List UInt8) :
    nextToken? byte rest =
      (scanNumber false (byte :: rest)).map fun (parts, more) => (.number parts.value?, more) := by
  have range : 48 ≤ byte.toNat ∧ byte.toNat ≤ 57 := by
    simpa [isDigit, UInt8.le_iff_toNat_le] using digit
  unfold nextToken?
  split
  case h_12 => rw [if_pos digit]
  all_goals omega

theorem spells_natural {n : Nat} (word : n < Decimal.wordBound) :
    Spells (toString n) (.number (some (.whole n))) := by
  have scanned := scanNumber_toDigits false n
  have bytes := (digitChars_flatMap (isDigit_toDigits n)).1
  have value : NumberText.value? ⟨false, Nat.toDigits 10 n, none, none⟩ = some (.whole n) := by
    unfold NumberText.value?
    simp only [appendDigits_toDigits word]
    rfl
  unfold Spells
  rw [Nat.toString_eq_ofList_toDigits]
  rw [← String.toList_ofList (l := Nat.toDigits 10 n), ← Text.Utf8.encode_eq] at bytes
  generalize encode (String.ofList (Nat.toDigits 10 n)) = all at scanned bytes ⊢
  cases all with
  | nil => cases scanned
  | cons byte rest =>
      have digit := bytes byte List.mem_cons_self
      have next : nextToken? byte rest = some (.number (some (.whole n)), []) := by
        rw [nextToken?_digit digit, scanned, ← value]
        rfl
      have visible : isSpace byte = false := by
        unfold isSpace
        simp only [Bool.or_eq_false_iff, beq_eq_false_iff_ne]
        refine ⟨⟨⟨?_, ?_⟩, ?_⟩, ?_⟩ <;> rintro rfl <;> cases digit
      exact .token visible next rfl (.after rfl)

theorem spells_negative {n : Nat} (positive : 0 < n) (word : n ≤ Nat.pow 2 63) :
    Spells ("-" ++ toString n) (.number (some (.whole (-n)))) := by
  have value : NumberText.value? ⟨true, Nat.toDigits 10 n, none, none⟩ = some (.whole (-n)) := by
    have bound : n < Decimal.wordBound := Nat.lt_of_le_of_lt word (by decide)
    unfold NumberText.value?
    simp only [appendDigits_toDigits bound]
    rw [if_pos (by rfl), if_neg (by simp), if_neg (by omega)]
  have next : nextToken? 0x2D (encode (toString n)) = some (.number (some (.whole (-n))), []) := by
    rw [Nat.toString_eq_ofList_toDigits, ← value]
    unfold nextToken?
    exact congrArg (Option.map _) (scanNumber_toDigits true n)
  unfold Spells
  rw [Text.Utf8.encode_append]
  exact .token rfl next rfl (.after rfl)

theorem spells_whole {value : Int} (word : Decoder.isWord value) :
    Spells (toString value) (.number (some (.whole value))) := by
  unfold Decoder.isWord at word
  simp only [Bool.and_eq_true, decide_eq_true_eq] at word
  cases value with
  | ofNat n =>
      have upper : (n : Int) < (Nat.pow 2 64 : Nat) := word.2
      exact spells_natural (Int.ofNat_lt.mp upper)
  | negSucc n =>
      have lower : -((Nat.pow 2 63 : Nat) : Int) ≤ -((n + 1 : Nat) : Int) := word.1
      exact spells_negative (Nat.succ_pos n) (Int.ofNat_le.mp (Int.neg_le_neg_iff.mp lower))

/-- That a double is read as it was printed. Only a finite one can be. -/
def ReadsBack (value : Float) : Prop :=
  parse (encode (render (.ofFloat value))) = .ok (.ofFloat value)

theorem eq_real_of_json {context : Context} {tree : Tree} {value : Float}
    (decoded : Decoder.json context tree = .ok (.ofFloat value)) :
    tree = .number (some (.real value)) ∧ value.isFinite = true := by
  cases tree with
  | number content =>
      rcases content with _ | ⟨whole | found⟩
      · cases decoded
      · rw [Decoder.json] at decoded
        split at decoded <;> cases decoded
      · rw [Decoder.json] at decoded
        split at decoded
        next finite =>
          cases decoded
          exact ⟨rfl, finite⟩
        next => cases decoded
  | text content => cases content <;> cases decoded
  | list items ending =>
      rw [Decoder.json] at decoded
      obtain ⟨_, _, decoded⟩ := bind_eq_ok_iff.mp decoded
      obtain ⟨_, _, decoded⟩ := bind_eq_ok_iff.mp decoded
      split at decoded <;> cases decoded
  | object members ending =>
      rw [Decoder.json] at decoded
      obtain ⟨_, _, decoded⟩ := bind_eq_ok_iff.mp decoded
      obtain ⟨_, _, decoded⟩ := bind_eq_ok_iff.mp decoded
      split at decoded <;> cases decoded
  | _ => cases decoded

theorem ReadsBack.spells {value : Float} (same : ReadsBack value) :
    Spells (Decimal.text value) (.number (some (.real value))) ∧ value.isFinite = true := by
  have written : render (.ofFloat value) = Decimal.text value := by
    unfold render Json.ofFloat
    rw [write]
    exact String.empty_append
  have decodes : decodeText Decoder.json (Decimal.text value) = .ok (.ofFloat value) := written ▸ same
  obtain ⟨tree, spells, decoded⟩ := decodeText_eq_ok_iff.mp decodes
  obtain ⟨rfl, finite⟩ := eq_real_of_json decoded
  exact ⟨spells, finite⟩

/-! ## Values -/

theorem foldl_writeChar (chars : List Char) (written : String) :
    chars.foldl writeChar written = written ++ chars.foldl writeChar "" := by
  induction chars generalizing written with
  | nil => simp
  | cons c chars ih =>
      rw [List.foldl_cons, List.foldl_cons, ih, ih (writeChar "" c), writeChar_eq, String.append_assoc]

theorem writeText_eq (written text : String) : writeText written text = written ++ writeText "" text := by
  unfold writeText
  rw [String.foldl_eq_foldl_toList, String.foldl_eq_foldl_toList, foldl_writeChar,
    foldl_writeChar _ ("".push '"')]
  simp [← String.append_singleton, String.append_assoc]

def memberText (member : String × Json) : String :=
  writeText "" member.1 ++ ":" ++ render member.2

theorem append_memberText (written name : String) (value : Json) :
    (writeText written name).push ':' ++ render value = written ++ memberText (name, value) := by
  rw [writeText_eq]
  simp [memberText, ← String.append_singleton, String.append_assoc]

mutual

theorem write_eq (written : String) : (value : Json) → write written value = written ++ render value
  | .null => by simp [render, write]
  | .bool value => by simp [render, write]
  | .number (.whole value) => by simp [render, write, writeNumber]
  | .number (.real value) => by simp [render, write, writeNumber]
  | .text value => by
      unfold render
      rw [write, write, writeText_eq]
  | .list [] => by simp [render, write]
  | .list (item :: items) => by
      unfold render
      rw [write, write, write_eq _ item, write_eq ("".push '[') item, writeItems_eq, writeItems_eq]
      simp [← String.append_singleton, String.append_assoc]
  | .object [] => by simp [render, write]
  | .object ((name, value) :: members) => by
      unfold render
      rw [write, write, write_eq _ value, write_eq (_ : String) value, append_memberText, append_memberText,
        writeMembers_eq, writeMembers_eq]
      simp [← String.append_singleton, String.append_assoc]

theorem writeItems_eq (written first : String) : (items : List Json) →
    writeItems (written ++ first) items = written ++ ",".intercalate (first :: items.map render)
  | [] => by simp [writeItems]
  | item :: items => by
      rw [writeItems, write_eq _ item, writeItems_eq _ _ items, List.map_cons, String.intercalate_cons_cons]
      simp [← String.append_singleton, String.append_assoc]

theorem writeMembers_eq (written first : String) : (members : List (String × Json)) →
    writeMembers (written ++ first) members = written ++ ",".intercalate (first :: members.map memberText)
  | [] => by simp [writeMembers]
  | (name, value) :: members => by
      rw [writeMembers, write_eq _ value, append_memberText, writeMembers_eq _ _ members, List.map_cons,
        String.intercalate_cons_cons]
      simp [← String.append_singleton, String.append_assoc]

end

inductive Legible : Json → Prop
  | null : Legible .null
  | bool (value : Bool) : Legible (.bool value)
  | whole {value : Int} (word : Decoder.isWord value) : Legible (.number (.whole value))
  | real {value : Float} (same : ReadsBack value) : Legible (.number (.real value))
  | text (value : String) : Legible (.text value)
  | list {items : List Json} (each : ∀ item ∈ items, Legible item) : Legible (.list items)
  | object {members : List (String × Json)} (each : ∀ member ∈ members, Legible member.2) :
      Legible (.object members)

theorem render_list (items : List Json) :
    render (.list items) = "[" ++ ",".intercalate (items.map render) ++ "]" := by
  cases items with
  | nil => simp [render, write]
  | cons item items =>
      rw [render, write, write_eq, writeItems_eq]
      simp [← String.append_singleton]

theorem render_object (members : List (String × Json)) :
    render (.object members) = "\x7b" ++ ",".intercalate (members.map memberText) ++ "\x7d" := by
  cases members with
  | nil => simp [render, write]
  | cons member members =>
      rw [render, write, write_eq, append_memberText, writeMembers_eq]
      simp [← String.append_singleton]

theorem ofItems_eq (items : List Json) : Tree.ofItems items = items.map Tree.ofJson := by
  induction items with
  | nil => rfl
  | cons item items ih => rw [Tree.ofItems, ih, List.map_cons]

theorem ofMembers_eq (members : List (String × Json)) :
    Tree.ofMembers members = members.map fun member => (some member.1, Tree.ofJson member.2) := by
  induction members with
  | nil => rfl
  | cons member members ih => rw [Tree.ofMembers, ih, List.map_cons]

def MemberText.ofJson (member : String × Json) : MemberText :=
  ⟨writeText "" member.1, some member.1, render member.2, Tree.ofJson member.2⟩

theorem Legible.spells {value : Json} (legible : Legible value) :
    Spells (render value) (Tree.ofJson value) := by
  induction legible with
  | null => exact .token rfl rfl rfl (.after rfl)
  | bool value =>
      cases value with
      | false => exact .token rfl rfl rfl (.after rfl)
      | true => exact .token rfl rfl rfl (.after rfl)
  | @whole value word =>
      have written : render (.number (.whole value)) = toString value := by simp [render, write, writeNumber]
      exact written ▸ spells_whole word
  | @real value same =>
      have written : render (.number (.real value)) = Decimal.text value := by simp [render, write, writeNumber]
      exact written ▸ same.spells.1
  | text value =>
      have written : render (.text value) = writeText "" value := by simp [render, write]
      exact written ▸ spells_text value
  | @list items _ ih =>
      have each : ∀ part ∈ items.map fun item => (render item, Tree.ofJson item), Spells part.1 part.2 :=
        List.forall_mem_map.mpr ih
      have parts := spells_list each
      rw [List.map_map, List.map_map] at parts
      rw [render_list, Tree.ofJson, ofItems_eq]
      exact parts
  | @object members _ ih =>
      have written : IsObjectText (render (.object members)) (members.map MemberText.ofJson) := by
        refine ⟨?_, "", "", "", rfl, rfl, rfl, ?_⟩
        · rw [List.forall_mem_map]
          exact fun member listed =>
            ⟨ofText_eq_iff.mpr (spells_text member.1), ofText_eq_iff.mpr (ih member listed)⟩
        · have texts : (members.map MemberText.ofJson).map (·.written) = members.map memberText :=
            List.map_map
          rw [render_object, texts]
          simp
      have spells := written.spells
      rw [List.map_map] at spells
      rw [Tree.ofJson, ofMembers_eq]
      exact spells

end Larder.Json
