import Larder.Proofs.Json.Reading

/-!
# Texts of objects taken apart

A token is read without a look at what stands behind it, but for a number, which ends where it cannot go on.
So from the text of a value the text of any value inside of it can be cut (`Reads.cut`), and the text of an
object is made of texts of names and values (`exists_isObjectText`).
-/

namespace Larder.Json
open Text.Utf8 (encode)

/-! ## Scanners -/

/-- A scanner that does not depend on what stands behind the bytes which it takes. -/
def IsLocal {α : Type} (scan : List UInt8 → Option (α × List UInt8)) : Prop :=
  ∀ ⦃bytes tail more : List UInt8⦄ ⦃value : α⦄, scan (bytes ++ tail) = some (value, more) →
    tail.length ≤ more.length → ∃ keep, more = keep ++ tail ∧ scan bytes = some (value, keep)

theorem exists_of_append_eq_append {α : Type} (taken : List α) {more bytes tail : List α}
    (same : bytes ++ tail = taken ++ more) (behind : tail.length ≤ more.length) :
    ∃ keep, bytes = taken ++ keep ∧ more = keep ++ tail := by
  rcases List.append_eq_append_iff.mp same with ⟨between, rfl, rfl⟩ | ⟨keep, rfl, rfl⟩
  · rw [List.length_append] at behind
    obtain rfl : between = [] := List.eq_nil_of_length_eq_zero (by omega)
    exact ⟨[], by simp⟩
  · exact ⟨keep, rfl, rfl⟩

theorem IsLocal.map {α β : Type} {scan : List UInt8 → Option (α × List UInt8)} (isLocal : IsLocal scan)
    (f : α → β) : IsLocal fun bytes => (scan bytes).map fun (value, more) => (f value, more) := by
  intro bytes tail more value scanned behind
  obtain ⟨⟨own, rest⟩, found, same⟩ := Option.map_eq_some_iff.mp scanned
  obtain ⟨rfl, rfl⟩ := Prod.mk.inj same
  obtain ⟨keep, rfl, alone⟩ := isLocal found behind
  exact ⟨keep, rfl, Option.map_eq_some_iff.mpr ⟨(own, keep), alone, rfl⟩⟩

theorem isLocal_scanText (s : Scanned) : IsLocal (scanText s) := by
  intro bytes tail more content scanned behind
  generalize all : bytes ++ tail = text at scanned
  fun_induction scanText s text generalizing bytes
  case case2 s byte rest quote =>
    obtain rfl := beq_iff_eq.mp quote
    obtain ⟨rfl, rfl⟩ := Prod.mk.inj (Option.some.inj scanned)
    obtain ⟨keep, rfl, rfl⟩ := exists_of_append_eq_append [0x22] all behind
    exact ⟨keep, rfl, scanText_quote s keep⟩
  case case3 escape a b c d more' _ read ih =>
    obtain rfl := beq_iff_eq.mp escape
    have behindAll := Nat.le_trans behind (scanText_suffix scanned).length_le
    obtain ⟨keep, rfl, rfl⟩ := exists_of_append_eq_append [0x5C, 0x75, a, b, c, d] all behindAll
    obtain ⟨rest, same, alone⟩ := ih rfl scanned
    exact ⟨rest, same, (scanText_unit read _ keep).trans alone⟩
  case case5 escape letter more' _ _ stands ih =>
    obtain rfl := beq_iff_eq.mp escape
    have behindAll := Nat.le_trans behind (scanText_suffix scanned).length_le
    obtain ⟨keep, rfl, rfl⟩ := exists_of_append_eq_append [0x5C, letter] all behindAll
    obtain ⟨rest, same, alone⟩ := ih rfl scanned
    exact ⟨rest, same, (scanText_escape stands _ keep).trans alone⟩
  case case9 s byte rest noQuote noEscape printable ih =>
    have behindAll := Nat.le_trans behind (scanText_suffix scanned).length_le
    obtain ⟨keep, rfl, rfl⟩ := exists_of_append_eq_append [byte] all behindAll
    obtain ⟨rest, same, alone⟩ := ih rfl scanned
    exact ⟨rest, same, (scanText_byte (by simpa using noQuote) (by simpa using noEscape) printable s
      keep).trans alone⟩
  all_goals cases scanned

/-! ## Numbers -/

theorem takeWhile_append_of_length_le {α : Type} {p : α → Bool} {bytes tail : List α}
    (behind : tail.length ≤ ((bytes ++ tail).dropWhile p).length) :
    (bytes ++ tail).takeWhile p = bytes.takeWhile p ∧
      (bytes ++ tail).dropWhile p = bytes.dropWhile p ++ tail := by
  induction bytes with
  | nil =>
      have all : tail.dropWhile p = tail := (List.dropWhile_suffix p).eq_of_length_le behind
      have parts : tail.takeWhile p ++ tail.dropWhile p = tail := List.takeWhile_append_dropWhile
      rw [all] at parts
      exact ⟨List.append_left_eq_self.mp parts, all⟩
  | cons x bytes ih =>
      cases picked : p x with
      | true =>
          rw [List.cons_append, List.dropWhile_cons_of_pos picked] at behind
          simp [picked, ih behind]
      | false => simp [picked]

theorem isLocal_exponentDigits (down : Bool) : IsLocal (exponentDigits down) := by
  intro bytes tail more exponent scanned behind
  unfold exponentDigits at scanned ⊢
  split at scanned
  · cases scanned
  next some =>
    obtain ⟨rfl, rfl⟩ := Prod.mk.inj (Option.some.inj scanned)
    obtain ⟨taken, dropped⟩ := takeWhile_append_of_length_le behind
    rw [taken] at some ⊢
    rw [dropped, if_neg some]
    exact ⟨_, rfl, rfl⟩

theorem isLocal_scanExponent : IsLocal scanExponent := by
  intro bytes tail more exponent scanned behind
  cases bytes with
  | nil =>
      exfalso
      cases tail with
      | nil => cases scanned
      | cons byte rest =>
          rw [List.nil_append, scanExponent_cons] at scanned
          split at scanned
          · exact absurd (exponentDigits_suffix scanned).length_le (Nat.not_le.mpr behind)
          · split at scanned
            · exact absurd (exponentDigits_suffix scanned).length_le (Nat.not_le.mpr behind)
            · obtain ⟨_, _, none⟩ := @isLocal_exponentDigits false [] _ _ _ scanned behind
              cases none
  | cons byte rest =>
      rw [List.cons_append, scanExponent_cons] at scanned
      rw [scanExponent_cons]
      by_cases minus : byte = 0x2D
      · rw [if_pos minus] at scanned ⊢
        exact isLocal_exponentDigits true scanned behind
      · by_cases plus : byte = 0x2B
        · rw [if_neg minus, if_pos plus] at scanned ⊢
          exact isLocal_exponentDigits false scanned behind
        · rw [if_neg minus, if_neg plus, ← List.cons_append] at scanned
          rw [if_neg minus, if_neg plus]
          exact isLocal_exponentDigits false scanned behind

theorem isLocal_scanNumberEnd (number : NumberText) : IsLocal (scanNumberEnd number) := by
  intro bytes tail more scannedNumber scanned behind
  unfold scanNumberEnd at scanned
  cases bytes with
  | nil =>
      rw [List.nil_append] at scanned
      split at scanned
      next letter rest =>
        split at scanned
        · obtain ⟨⟨exponent, rest'⟩, found, same⟩ := Option.map_eq_some_iff.mp scanned
          obtain ⟨_, rfl⟩ := Prod.mk.inj same
          exact absurd (scanExponent_suffix found).length_le (Nat.not_le.mpr behind)
        · obtain ⟨rfl, rfl⟩ := Prod.mk.inj (Option.some.inj scanned)
          exact ⟨[], rfl, rfl⟩
      next =>
        obtain ⟨rfl, rfl⟩ := Prod.mk.inj (Option.some.inj scanned)
        exact ⟨[], rfl, rfl⟩
  | cons letter rest =>
      rw [List.cons_append] at scanned
      unfold scanNumberEnd
      dsimp only at scanned ⊢
      split at scanned
      next exponential =>
        rw [if_pos exponential]
        exact isLocal_scanExponent.map (fun exponent => { number with exponent }) scanned behind
      next other =>
        obtain ⟨rfl, rfl⟩ := Prod.mk.inj (Option.some.inj scanned)
        rw [if_neg other]
        exact ⟨_, rfl, rfl⟩

theorem isLocal_scanFraction (number : NumberText) : IsLocal (scanFraction number) := by
  intro bytes tail more scannedNumber scanned behind
  cases bytes with
  | nil =>
      unfold scanFraction at scanned
      rw [List.nil_append] at scanned
      split at scanned
      next rest =>
        split at scanned
        · cases scanned
        · have shorter := ((scanNumberEnd_suffix scanned).trans (List.dropWhile_suffix isDigit)).length_le
          exact absurd shorter (Nat.not_le.mpr behind)
      next => exact @isLocal_scanNumberEnd number [] _ _ _ scanned behind
  | cons byte rest =>
      by_cases point : byte = 0x2E
      · subst point
        rw [List.cons_append, scanFraction_point] at scanned
        rw [scanFraction_point]
        split at scanned
        · cases scanned
        next some =>
          obtain ⟨taken, dropped⟩ :=
            takeWhile_append_of_length_le (Nat.le_trans behind (scanNumberEnd_suffix scanned).length_le)
          rw [taken] at some scanned
          rw [dropped] at scanned
          rw [if_neg some]
          exact isLocal_scanNumberEnd _ scanned behind
      · have other {more : List UInt8} : ∀ first ∈ (byte :: more).head?, first ≠ 0x2E := by
          rintro first isFirst rfl
          exact point (Option.some.inj isFirst)
        rw [List.cons_append, scanFraction_of_ne other] at scanned
        rw [scanFraction_of_ne other]
        exact isLocal_scanNumberEnd number scanned behind

theorem isLocal_scanNumber (negative : Bool) : IsLocal (scanNumber negative) := by
  intro bytes tail more number scanned behind
  obtain ⟨taken, dropped⟩ :=
    takeWhile_append_of_length_le (Nat.le_trans behind (scanNumber_suffix scanned).length_le)
  rw [scanNumber_eq] at scanned ⊢
  rw [taken, dropped] at scanned
  split at scanned
  · cases scanned
  next sound =>
    rw [if_neg sound]
    exact isLocal_scanFraction _ scanned behind

/-! ## Tokens -/

theorem isLocal_nextToken? (byte : UInt8) : IsLocal (nextToken? byte) := by
  intro bytes tail more token next behind
  unfold nextToken? at next ⊢
  split at next
  case h_7 => exact (isLocal_scanText _).map Token.text next behind
  case h_8 =>
    split at next
    next rest all =>
      obtain ⟨rfl, rfl⟩ := Prod.mk.inj (Option.some.inj next)
      obtain ⟨keep, rfl, rfl⟩ := exists_of_append_eq_append [0x75, 0x6C, 0x6C] all behind
      exact ⟨keep, rfl, rfl⟩
    next => cases next
  case h_9 =>
    split at next
    next rest all =>
      obtain ⟨rfl, rfl⟩ := Prod.mk.inj (Option.some.inj next)
      obtain ⟨keep, rfl, rfl⟩ := exists_of_append_eq_append [0x72, 0x75, 0x65] all behind
      exact ⟨keep, rfl, rfl⟩
    next => cases next
  case h_10 =>
    split at next
    next rest all =>
      obtain ⟨rfl, rfl⟩ := Prod.mk.inj (Option.some.inj next)
      obtain ⟨keep, rfl, rfl⟩ := exists_of_append_eq_append [0x61, 0x6C, 0x73, 0x65] all behind
      exact ⟨keep, rfl, rfl⟩
    next => cases next
  case h_11 => exact (isLocal_scanNumber true).map (fun parts => Token.number parts.value?) next behind
  case h_12 =>
    split at next
    next digit =>
      rw [if_pos digit]
      have number := (isLocal_scanNumber false).map fun parts => Token.number parts.value?
      exact @number (byte :: bytes) _ _ _ next behind
    next => cases next
  all_goals
    obtain ⟨rfl, rfl⟩ := Prod.mk.inj (Option.some.inj next)
    exact ⟨bytes, rfl, rfl⟩

theorem nextToken?_of_append {byte : UInt8} {taken keep tail : List UInt8} {token : Token}
    (next : nextToken? byte (taken ++ (keep ++ tail)) = some (token, keep ++ tail)) :
    nextToken? byte (taken ++ keep) = some (token, keep) := by
  rw [← List.append_assoc] at next
  obtain ⟨rest, same, alone⟩ := isLocal_nextToken? byte next (by simp)
  obtain rfl := List.append_cancel_right same
  exact alone

/-! ## Values inside of others -/

variable {root tree : Tree} {frames inner outer : List Frame} {due : Due} {cursor : Cursor}
  {bytes tail : List UInt8} {text : String}

theorem advance_eq_none_under {token : Token} (placed : inner ≠ [] ∨ due = .value)
    (stops : advance inner due token = none) : advance (inner ++ outer) due token = none := by
  cases inner with
  | nil =>
      obtain rfl := placed.resolve_left fun nested => nested rfl
      cases token <;> first | rfl | cases stops
  | cons frame inner => cases frame <;> cases due <;> cases token <;> first | rfl | cases stops

theorem exists_advance_of_under {token : Token} (placed : inner ≠ [] ∨ due = .value)
    (fits : advance (inner ++ outer) due token = some cursor) :
    ∃ own, advance inner due token = some own ∧ cursor = own.under outer := by
  cases alone : advance inner due token with
  | none => cases (advance_eq_none_under placed alone).symm.trans fits
  | some own => exact ⟨own, rfl, Option.some.inj (fits.symm.trans (advance_under alone))⟩

theorem ne_nil_of_advance {token : Token} {next : Due} (placed : inner ≠ [] ∨ due = .value)
    (fits : advance inner due token = some (.inside frames next)) : frames ≠ [] := by
  cases inner with
  | cons frame inner => exact advance_isNested (List.cons_ne_nil frame inner) fits
  | nil =>
      obtain rfl := placed.resolve_left fun nested => nested rfl
      cases token <;> cases fits <;> exact List.cons_ne_nil _ _

theorem Reads.cut (reads : Reads root (.inside (inner ++ outer) due) bytes)
    (placed : inner ≠ [] ∨ due = .value) :
    ∃ tree first tail, bytes = first ++ tail ∧ Reads tree (.inside inner due) first ∧
      Reads root (deliver tree outer) tail := by
  generalize at_ : Cursor.inside (inner ++ outer) due = cursor at reads
  -- The value opens frames of its own, so the induction is over any frames inside of the outer ones.
  induction reads generalizing inner due with
  | after blank => cases at_
  | @space _ _ byte _ blank _ ih =>
      obtain ⟨rfl, rfl⟩ := Cursor.inside.inj at_
      obtain ⟨tree, first, tail, rfl, own, later⟩ := ih placed rfl
      exact ⟨tree, byte :: first, tail, rfl, .space blank own, later⟩
  | @token _ _ byte rest more token cursor visible next fits reads ih =>
      obtain ⟨rfl, rfl⟩ := Cursor.inside.inj at_
      obtain ⟨own, alone, rfl⟩ := exists_advance_of_under placed fits
      obtain ⟨taken, rfl⟩ := nextToken?_suffix next
      cases own with
      | after tree =>
          -- The token is the last one of the value.
          refine ⟨tree, byte :: (taken ++ []), more, by simp, ?_, reads⟩
          exact .token visible (nextToken?_of_append next) alone (.after rfl)
      | inside frames due' =>
          obtain ⟨tree, first, tail, rfl, reads, later⟩ := ih (.inl (ne_nil_of_advance placed alone)) rfl
          refine ⟨tree, byte :: (taken ++ first), tail, by simp, ?_, later⟩
          exact .token visible (nextToken?_of_append next) alone reads

/-! ## Delimiters -/

def Token.byte? : Token → Option UInt8
  | .openList => some 0x5B
  | .closeList => some 0x5D
  | .openObject => some 0x7B
  | .closeObject => some 0x7D
  | .comma => some 0x2C
  | .colon => some 0x3A
  | _ => none

theorem eq_of_nextToken? {byte own : UInt8} {rest more : List UInt8} {token : Token}
    (next : nextToken? byte rest = some (token, more)) (single : token.byte? = some own) :
    byte = own ∧ more = rest := by
  unfold nextToken? at next
  split at next
  case h_7 | h_11 =>
    obtain ⟨_, _, same⟩ := Option.map_eq_some_iff.mp next
    obtain ⟨rfl, _⟩ := Prod.mk.inj same
    cases single
  case h_8 | h_9 | h_10 =>
    split at next <;> cases next
    cases single
  case h_12 =>
    split at next
    · obtain ⟨_, _, same⟩ := Option.map_eq_some_iff.mp next
      obtain ⟨rfl, _⟩ := Prod.mk.inj same
      cases single
    · cases next
  all_goals
    obtain ⟨rfl, rfl⟩ := Prod.mk.inj (Option.some.inj next)
    obtain rfl := Option.some.inj single
    exact ⟨UInt8.toNat_inj.mp (by assumption), rfl⟩

theorem Reads.exists_token (reads : Reads root (.inside frames due) bytes) :
    ∃ blanks byte rest token more cursor, bytes = blanks ++ byte :: rest ∧ blanks.all isSpace ∧
      isSpace byte = false ∧ nextToken? byte rest = some (token, more) ∧
      advance frames due token = some cursor ∧ Reads root cursor more := by
  generalize at_ : Cursor.inside frames due = cursor at reads
  induction reads with
  | after blank => cases at_
  | @space _ _ byte _ blank _ ih =>
      obtain ⟨blanks, first, rest, token, more, cursor, rfl, blankRest, read⟩ := ih at_
      obtain ⟨rfl, rfl⟩ := Cursor.inside.inj at_
      exact ⟨byte :: blanks, first, rest, token, more, cursor, rfl, by simp [blank, blankRest], read⟩
  | @token _ _ byte rest more token cursor visible next fits reads _ =>
      obtain ⟨rfl, rfl⟩ := Cursor.inside.inj at_
      exact ⟨[], byte, rest, token, more, cursor, rfl, rfl, visible, next, fits, reads⟩

/-! ## Objects -/

theorem delimits_of_blank (blank : bytes.all isSpace) : Delimits bytes := by
  intro byte first
  have space : isSpace byte = true := List.all_eq_true.mp blank byte (List.mem_of_mem_head? first)
  unfold isSpace at space
  simp only [Bool.or_eq_true, beq_iff_eq] at space
  rcases space with ((rfl | rfl) | rfl) | rfl <;> rfl

theorem Reads.exists_name {members : List (Option String × Tree)}
    (reads : Reads root (.inside (.object members :: frames) .name) bytes) :
    ∃ content name rest, bytes = name ++ 0x3A :: rest ∧ Reads (.text content) (.inside [] .value) name ∧
      Reads root (.inside (.member members content :: frames) .value) rest := by
  obtain ⟨lead, byte, rest, token, more, cursor, rfl, leads, visible, next, fits, later⟩ := reads.exists_token
  cases token with
  | text content =>
      obtain rfl := Option.some.inj fits
      obtain ⟨gap, colon, behind, token, more', cursor, rfl, gaps, _, nextColon, fitsColon, value⟩ :=
        later.exists_token
      cases token with
      | colon =>
          obtain ⟨rfl, rfl⟩ := eq_of_nextToken? nextColon rfl
          obtain rfl := Option.some.inj fitsColon
          obtain ⟨taken, rfl⟩ := nextToken?_suffix next
          refine ⟨content, lead ++ byte :: (taken ++ gap), more', by simp, ?_, value⟩
          exact .blanks leads (.token visible (nextToken?_of_append next) rfl (.after gaps))
      | _ => cases fitsColon
  | _ => cases fits

theorem Reads.exists_member {members : List (Option String × Tree)}
    (reads : Reads root (.inside [.object members] .name) bytes) :
    ∃ content tree name value delimiter rest, bytes = name ++ 0x3A :: (value ++ delimiter :: rest) ∧
      Reads (.text content) (.inside [] .value) name ∧ Reads tree (.inside [] .value) value ∧
      (delimiter = 0x2C ∧ Reads root (.inside [.object ((content, tree) :: members)] .name) rest ∨
        delimiter = 0x7D ∧ rest.all isSpace ∧
          root = .object ((content, tree) :: members).reverse .closed) := by
  obtain ⟨content, name, behind, rfl, named, begins⟩ := reads.exists_name
  have nested : Reads root (.inside ([] ++ [.member members content]) .value) behind := begins
  obtain ⟨tree, value, tail, rfl, valued, separated⟩ := nested.cut (.inr rfl)
  obtain ⟨gap, byte, rest, token, more, cursor, rfl, gaps, _, next, fits, later⟩ := separated.exists_token
  have spaced : Reads tree (.inside [] .value) (value ++ gap) :=
    Reads.append_under valued (delimits_of_blank gaps) (.after gaps)
  refine ⟨content, tree, name, value ++ gap, byte, rest, by simp, named, spaced, ?_⟩
  cases token with
  | comma =>
      obtain ⟨rfl, rfl⟩ := eq_of_nextToken? next rfl
      obtain rfl := Option.some.inj fits
      exact .inl ⟨rfl, later⟩
  | closeObject =>
      obtain ⟨rfl, rfl⟩ := eq_of_nextToken? next rfl
      obtain rfl := Option.some.inj fits
      cases later with
      | after blank => exact .inr ⟨rfl, blank, rfl⟩
  | _ => cases fits

theorem Reads.exists_parts {members : List (Option String × Tree)}
    (reads : Reads root (.inside [.object members] .name) (encode text)) :
    ∃ part parts trail, (∀ own ∈ part :: parts, MemberText.IsSound own) ∧ IsBlank trail ∧
      text = ",".intercalate ((part :: parts).map (·.written)) ++ "\x7d" ++ trail ∧
      root = .object (members.reverse ++ (part :: parts).map (·.entry)) .closed := by
  induction total : (encode text).length using Nat.strongRecOn generalizing text members with
  | ind size ih =>
      obtain ⟨content, tree, name, value, delimiter, rest, bytes, named, valued, follows⟩ := reads.exists_member
      obtain ⟨name, behind, rfl, rfl, bytesBehind⟩ := Text.Utf8.exists_split (by decide) bytes
      have ascii : delimiter.toNat < 128 := by
        rcases follows with ⟨rfl, _⟩ | ⟨rfl, _⟩ <;> decide
      obtain ⟨value, last, rfl, rfl, rfl⟩ := Text.Utf8.exists_split ascii bytesBehind
      let part : MemberText := ⟨name, content, value, tree⟩
      have sound : part.IsSound := ⟨ofText_eq_iff.mpr named, ofText_eq_iff.mpr valued⟩
      have colon : String.singleton (Char.ofNat (UInt8.toNat 0x3A)) = ":" := rfl
      rcases follows with ⟨rfl, later⟩ | ⟨rfl, blank, rfl⟩
      · have shorter : (encode last).length < size := by
          rw [← total, bytes]
          simp
          omega
        obtain ⟨next, parts, trail, sounds, trails, rfl, rfl⟩ := ih _ shorter later rfl
        refine ⟨part, next :: parts, trail, List.forall_mem_cons.mpr ⟨sound, sounds⟩, trails, ?_, ?_⟩
        · have comma : String.singleton (Char.ofNat (UInt8.toNat 0x2C)) = "," := rfl
          simp only [List.map_cons, String.intercalate_cons_cons]
          simp only [part, MemberText.written, colon, comma, String.append_assoc]
        · simp [part, MemberText.entry]
      · refine ⟨part, [], last, List.forall_mem_singleton.mpr sound, blank, ?_, ?_⟩
        · have brace : String.singleton (Char.ofNat (UInt8.toNat 0x7D)) = "\x7d" := rfl
          simp only [List.map_cons, List.map_nil, String.intercalate_singleton]
          simp only [part, MemberText.written, colon, brace, String.append_assoc]
        · simp [part, MemberText.entry]

theorem Reads.of_blanks {blanks : List UInt8} (blank : blanks.all isSpace)
    (reads : Reads root (.inside frames due) (blanks ++ bytes)) : Reads root (.inside frames due) bytes := by
  induction blanks with
  | nil => exact reads
  | cons byte blanks ih =>
      rw [List.all_cons, Bool.and_eq_true] at blank
      cases reads with
      | space _ later => exact ih blank.2 later
      | token visible _ _ _ => cases visible.symm.trans blank.1

theorem Reads.end_or_name {members : List (Option String × Tree)}
    (reads : Reads root (.inside [.object members] .firstName) bytes) :
    (∃ gap trail, bytes = gap ++ 0x7D :: trail ∧ gap.all isSpace ∧ trail.all isSpace ∧
      root = .object members.reverse .closed) ∨ Reads root (.inside [.object members] .name) bytes := by
  obtain ⟨gap, byte, rest, token, more, cursor, rfl, gaps, visible, next, fits, later⟩ := reads.exists_token
  rcases Option.or_eq_some_iff.mp fits with closes | ⟨_, begins⟩
  · cases token with
    | closeObject =>
        obtain ⟨rfl, rfl⟩ := eq_of_nextToken? next rfl
        obtain rfl := Option.some.inj closes
        cases later with
        | after blank => exact .inl ⟨gap, more, rfl, gaps, blank, rfl⟩
    | _ => cases closes
  · exact .inr (.blanks gaps (.token visible next begins later))

theorem Spells.exists_isObjectText (spells : Spells text tree) {lead rest : String} (leads : IsBlank lead)
    (braced : text = lead ++ "\x7b" ++ rest) :
    ∃ parts, IsObjectText text parts ∧ tree = .object (parts.map (·.entry)) .closed := by
  subst braced
  unfold Spells at spells
  rw [String.append_assoc, Text.Utf8.encode_append, Text.Utf8.encode_append] at spells
  have opened : Reads tree (.inside [.object []] .firstName) (encode rest) := by
    cases spells.of_blanks leads with
    | space blank _ => cases blank
    | token visible next fits later =>
        obtain ⟨rfl, rfl⟩ := Prod.mk.inj (Option.some.inj next)
        obtain rfl := Option.some.inj fits
        exact later
  rcases opened.end_or_name with ⟨gap, trail, bytes, gaps, trails, rfl⟩ | named
  · obtain ⟨gap, trail, rfl, rfl, rfl⟩ := Text.Utf8.exists_split (by decide) bytes
    exact ⟨[], ⟨nofun, lead, gap, trail, leads, gaps, trails, by simp [String.append_assoc]⟩, rfl⟩
  · obtain ⟨part, parts, trail, sound, trails, rfl, rfl⟩ := named.exists_parts
    exact ⟨part :: parts, ⟨sound, lead, "", trail, leads, rfl, trails, by simp [String.append_assoc]⟩, rfl⟩

theorem exists_isObjectText {α : Type} {read : Decoder α} {lead rest : String} {value : α}
    (decodes : decodeText read text = .ok value) (leads : IsBlank lead)
    (braced : text = lead ++ "\x7b" ++ rest) :
    ∃ parts, IsObjectText text parts := by
  obtain ⟨tree, spells, _⟩ := decodeText_eq_ok_iff.mp decodes
  obtain ⟨parts, isText, _⟩ := spells.exists_isObjectText leads braced
  exact ⟨parts, isText⟩

end Larder.Json
