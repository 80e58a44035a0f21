import Larder.Json.Token
import Mathlib.Data.List.Basic

namespace Larder.Json

def continuesNumber (byte : UInt8) : Bool :=
  isDigit byte || byte == 0x2E || byte == 0x65 || byte == 0x45

def Delimits (tail : List UInt8) : Prop :=
  ∀ byte ∈ tail.head?, continuesNumber byte = false

theorem delimits_cons {byte : UInt8} (other : continuesNumber byte = false) (tail : List UInt8) :
    Delimits (byte :: tail) := by
  intro first isFirst
  obtain rfl := Option.mem_some_iff.mp isFirst
  exact other

variable {tail : List UInt8}

/-! ## Texts -/

theorem scanText_quote (s : Scanned) (rest : List UInt8) :
    scanText s (0x22 :: rest) = some (s.content, rest) := by
  rw [scanText.eq_def]
  rfl

theorem scanText_unit {a b c d : UInt8} {unit : Nat} (read : hexUnit? a b c d = some unit) (s : Scanned)
    (more : List UInt8) :
    scanText s (0x5C :: 0x75 :: a :: b :: c :: d :: more) = scanText (s.unit unit) more := by
  rw [scanText.eq_def]
  simp only [read]
  rfl

theorem scanText_escape {letter value : UInt8} (stands : escaped? letter = some value) (s : Scanned)
    (more : List UInt8) : scanText s (0x5C :: letter :: more) = scanText (s.byte value) more := by
  have other : letter ≠ 0x75 := by
    rintro rfl
    cases stands
  rw [scanText.eq_def]
  dsimp only
  rw [if_neg (by decide), if_pos (by decide)]
  split
  case h_1 same => exact absurd (List.cons.inj same).1 other
  case h_2 same =>
    obtain ⟨rfl, rfl⟩ := List.cons.inj same
    rw [stands]
  case h_3 same => cases same

theorem scanText_byte {byte : UInt8} (noQuote : byte ≠ 0x22) (noEscape : byte ≠ 0x5C)
    (printable : ¬ byte < 0x20) (s : Scanned) (rest : List UInt8) :
    scanText s (byte :: rest) = scanText (s.byte byte) rest := by
  rw [scanText.eq_def]
  dsimp only
  rw [if_neg (by simpa using noQuote), if_neg (by simpa using noEscape), if_neg printable]

theorem scanText_suffix {s : Scanned} {bytes more : List UInt8} {content : Option String}
    (scanned : scanText s bytes = some (content, more)) : more <:+ bytes := by
  fun_induction scanText s bytes
  case case2 s byte rest quote =>
    obtain ⟨_, rfl⟩ := Prod.mk.inj (Option.some.inj scanned)
    exact List.suffix_cons byte rest
  case case3 read ih =>
    exact (ih scanned).trans (List.suffix_append [_, _, _, _, _, _] _)
  case case5 stands ih => exact (ih scanned).trans (List.suffix_append [_, _] _)
  case case9 ih => exact (ih scanned).trans (List.suffix_cons _ _)
  all_goals cases scanned

theorem scanText_append {s : Scanned} {bytes more : List UInt8} {content : Option String}
    (scanned : scanText s bytes = some (content, more)) :
    scanText s (bytes ++ tail) = some (content, more ++ tail) := by
  fun_induction scanText s bytes
  case case2 s byte rest quote =>
    obtain rfl := beq_iff_eq.mp quote
    obtain ⟨rfl, rfl⟩ := Prod.mk.inj (Option.some.inj scanned)
    exact scanText_quote s (rest ++ tail)
  case case3 escape _ _ _ _ more _ read ih =>
    obtain rfl := beq_iff_eq.mp escape
    exact (scanText_unit read _ (more ++ tail)).trans (ih scanned)
  case case5 escape _ more _ _ stands ih =>
    obtain rfl := beq_iff_eq.mp escape
    exact (scanText_escape stands _ (more ++ tail)).trans (ih scanned)
  case case9 s byte rest noQuote noEscape printable ih =>
    exact (scanText_byte (by simpa using noQuote) (by simpa using noEscape) printable s
      (rest ++ tail)).trans (ih scanned)
  all_goals cases scanned

/-! ## Numbers -/

theorem takeWhile_append_of_head {α : Type} {p : α → Bool} {after : List α}
    (stops : ∀ x ∈ after.head?, p x = false) (before : List α) :
    (before ++ after).takeWhile p = before.takeWhile p ∧
      (before ++ after).dropWhile p = before.dropWhile p ++ after := by
  induction before with
  | nil =>
      cases after with
      | nil => exact ⟨rfl, rfl⟩
      | cons x rest =>
          have stop := stops x rfl
          simp [stop]
  | cons x before ih =>
      cases picked : p x with
      | true => simp [picked, ih]
      | false => simp [picked]

theorem Delimits.digit (delimits : Delimits tail) : ∀ byte ∈ tail.head?, isDigit byte = false := by
  intro byte first
  have stops := delimits byte first
  unfold continuesNumber at stops
  simp only [Bool.or_eq_false_iff] at stops
  exact stops.1.1.1

def exponentDigits (down : Bool) (bytes : List UInt8) : Option ((Bool × List Char) × List UInt8) :=
  if (bytes.takeWhile isDigit).isEmpty then none
  else some ((down, digitChars (bytes.takeWhile isDigit)), bytes.dropWhile isDigit)

theorem scanExponent_cons (byte : UInt8) (rest : List UInt8) :
    scanExponent (byte :: rest) =
      if byte = 0x2D then exponentDigits true rest
      else if byte = 0x2B then exponentDigits false rest
      else exponentDigits false (byte :: rest) := by
  by_cases minus : byte = 0x2D
  · subst minus
    rfl
  · by_cases plus : byte = 0x2B
    · subst plus
      rfl
    · rw [if_neg minus, if_neg plus]
      unfold scanExponent
      split
      next sign digits signed =>
        split at signed
        case h_1 same => exact absurd (List.cons.inj same).1 minus
        case h_2 same => exact absurd (List.cons.inj same).1 plus
        case h_3 =>
          obtain ⟨rfl, rfl⟩ := Prod.mk.inj signed
          rfl

theorem exponentDigits_suffix {down : Bool} {bytes more : List UInt8} {exponent : Bool × List Char}
    (scanned : exponentDigits down bytes = some (exponent, more)) : more <:+ bytes := by
  unfold exponentDigits at scanned
  split at scanned
  · cases scanned
  · obtain ⟨_, rfl⟩ := Prod.mk.inj (Option.some.inj scanned)
    exact List.dropWhile_suffix isDigit

theorem scanExponent_suffix {bytes more : List UInt8} {exponent : Bool × List Char}
    (scanned : scanExponent bytes = some (exponent, more)) : more <:+ bytes := by
  cases bytes with
  | nil => cases scanned
  | cons byte rest =>
      rw [scanExponent_cons] at scanned
      split at scanned
      · exact (exponentDigits_suffix scanned).trans (List.suffix_cons byte rest)
      · split at scanned
        · exact (exponentDigits_suffix scanned).trans (List.suffix_cons byte rest)
        · exact exponentDigits_suffix scanned

theorem exponentDigits_append (delimits : Delimits tail) {down : Bool} {bytes more : List UInt8}
    {exponent : Bool × List Char} (scanned : exponentDigits down bytes = some (exponent, more)) :
    exponentDigits down (bytes ++ tail) = some (exponent, more ++ tail) := by
  obtain ⟨taken, dropped⟩ := takeWhile_append_of_head delimits.digit bytes
  unfold exponentDigits at scanned ⊢
  rw [taken, dropped]
  by_cases none : (bytes.takeWhile isDigit).isEmpty
  · rw [if_pos none] at scanned
    cases scanned
  · rw [if_neg none] at scanned ⊢
    obtain ⟨rfl, rfl⟩ := Prod.mk.inj (Option.some.inj scanned)
    rfl

theorem scanExponent_append (delimits : Delimits tail) {bytes more : List UInt8}
    {exponent : Bool × List Char} (scanned : scanExponent bytes = some (exponent, more)) :
    scanExponent (bytes ++ tail) = some (exponent, more ++ tail) := by
  cases bytes with
  | nil => cases scanned
  | cons byte rest =>
      rw [scanExponent_cons] at scanned
      rw [List.cons_append, scanExponent_cons]
      by_cases minus : byte = 0x2D
      · rw [if_pos minus] at scanned ⊢
        exact exponentDigits_append delimits scanned
      · by_cases plus : byte = 0x2B
        · rw [if_neg minus, if_pos plus] at scanned ⊢
          exact exponentDigits_append delimits scanned
        · rw [if_neg minus, if_neg plus] at scanned ⊢
          exact exponentDigits_append delimits scanned

theorem Delimits.letter (delimits : Delimits tail) :
    ∀ byte ∈ tail.head?, byte ≠ 0x2E ∧ (byte == 0x65 || byte == 0x45) = false := by
  intro byte first
  have stops := delimits byte first
  unfold continuesNumber at stops
  simp only [Bool.or_eq_false_iff] at stops
  exact ⟨by simpa using stops.1.1.2, by simp [stops.1.2, stops.2]⟩

theorem scanNumberEnd_suffix {number scannedNumber : NumberText} {bytes more : List UInt8}
    (scanned : scanNumberEnd number bytes = some (scannedNumber, more)) : more <:+ bytes := by
  unfold scanNumberEnd at scanned
  split at scanned
  next letter rest =>
    split at scanned
    · obtain ⟨⟨exponent, behind⟩, found, same⟩ := Option.map_eq_some_iff.mp scanned
      obtain ⟨_, rfl⟩ := Prod.mk.inj same
      exact (scanExponent_suffix found).trans (List.suffix_cons letter rest)
    · obtain ⟨_, rfl⟩ := Prod.mk.inj (Option.some.inj scanned)
      exact List.suffix_rfl
  next =>
    obtain ⟨_, rfl⟩ := Prod.mk.inj (Option.some.inj scanned)
    exact List.suffix_rfl

theorem scanNumberEnd_append (delimits : Delimits tail) {number scannedNumber : NumberText}
    {bytes more : List UInt8} (scanned : scanNumberEnd number bytes = some (scannedNumber, more)) :
    scanNumberEnd number (bytes ++ tail) = some (scannedNumber, more ++ tail) := by
  cases bytes with
  | nil =>
      obtain ⟨rfl, rfl⟩ := Prod.mk.inj (Option.some.inj scanned)
      cases tail with
      | nil => rfl
      | cons letter rest =>
          obtain ⟨_, other⟩ := delimits.letter letter rfl
          unfold scanNumberEnd
          rw [List.nil_append]
          simp only [other]
          rfl
  | cons letter rest =>
      unfold scanNumberEnd at scanned ⊢
      rw [List.cons_append]
      dsimp only at scanned ⊢
      split
      case isTrue exponential =>
        rw [if_pos exponential] at scanned
        obtain ⟨⟨exponent, behind⟩, found, same⟩ := Option.map_eq_some_iff.mp scanned
        obtain ⟨rfl, rfl⟩ := Prod.mk.inj same
        rw [scanExponent_append delimits found]
        rfl
      case isFalse other =>
        rw [if_neg other] at scanned
        obtain ⟨rfl, rfl⟩ := Prod.mk.inj (Option.some.inj scanned)
        rfl

def scanFraction (number : NumberText) (bytes : List UInt8) : Option (NumberText × List UInt8) :=
  match bytes with
  | 0x2E :: more =>
      if (more.takeWhile isDigit).isEmpty then none
      else
        scanNumberEnd { number with fraction := some (digitChars (more.takeWhile isDigit)) }
          (more.dropWhile isDigit)
  | _ => scanNumberEnd number bytes

theorem scanNumber_eq (negative : Bool) (bytes : List UInt8) :
    let whole := bytes.takeWhile isDigit
    scanNumber negative bytes =
      if whole.isEmpty || (whole.head? == some 0x30 && 1 < whole.length) then none
      else scanFraction ⟨negative, digitChars whole, none, none⟩ (bytes.dropWhile isDigit) := rfl

theorem scanFraction_point (number : NumberText) (rest : List UInt8) :
    scanFraction number (0x2E :: rest) =
      if (rest.takeWhile isDigit).isEmpty then none
      else
        scanNumberEnd { number with fraction := some (digitChars (rest.takeWhile isDigit)) }
          (rest.dropWhile isDigit) := rfl

theorem scanFraction_of_ne {bytes : List UInt8} (other : ∀ byte ∈ bytes.head?, byte ≠ 0x2E)
    (number : NumberText) : scanFraction number bytes = scanNumberEnd number bytes := by
  unfold scanFraction
  split
  · exact absurd rfl (other 0x2E rfl)
  · rfl

theorem scanFraction_suffix {number scannedNumber : NumberText} {bytes more : List UInt8}
    (scanned : scanFraction number bytes = some (scannedNumber, more)) : more <:+ bytes := by
  unfold scanFraction at scanned
  split at scanned
  next rest =>
    split at scanned
    · cases scanned
    · exact (scanNumberEnd_suffix scanned).trans
        ((List.dropWhile_suffix isDigit).trans (List.suffix_cons _ rest))
  next => exact scanNumberEnd_suffix scanned

theorem scanFraction_append (delimits : Delimits tail) {number scannedNumber : NumberText}
    {bytes more : List UInt8} (scanned : scanFraction number bytes = some (scannedNumber, more)) :
    scanFraction number (bytes ++ tail) = some (scannedNumber, more ++ tail) := by
  by_cases point : bytes.head? = some 0x2E
  · obtain ⟨rest, rfl⟩ := List.head?_eq_some_iff.mp point
    obtain ⟨taken, dropped⟩ := takeWhile_append_of_head delimits.digit rest
    rw [scanFraction_point] at scanned
    rw [List.cons_append, scanFraction_point, taken, dropped]
    by_cases none : (rest.takeWhile isDigit).isEmpty
    · rw [if_pos none] at scanned
      cases scanned
    · rw [if_neg none] at scanned ⊢
      exact scanNumberEnd_append delimits scanned
  · have other : ∀ byte ∈ bytes.head?, byte ≠ 0x2E := by
      rintro byte first rfl
      exact point first
    have otherThen : ∀ byte ∈ (bytes ++ tail).head?, byte ≠ 0x2E := by
      cases bytes with
      | nil => exact fun byte first => (delimits.letter byte first).1
      | cons byte rest => exact other
    rw [scanFraction_of_ne other] at scanned
    rw [scanFraction_of_ne otherThen]
    exact scanNumberEnd_append delimits scanned

theorem scanNumber_suffix {negative : Bool} {number : NumberText} {bytes more : List UInt8}
    (scanned : scanNumber negative bytes = some (number, more)) : more <:+ bytes.dropWhile isDigit := by
  rw [scanNumber_eq] at scanned
  split at scanned
  · cases scanned
  · exact scanFraction_suffix scanned

theorem scanNumber_append (delimits : Delimits tail) {negative : Bool} {number : NumberText}
    {bytes more : List UInt8} (scanned : scanNumber negative bytes = some (number, more)) :
    scanNumber negative (bytes ++ tail) = some (number, more ++ tail) := by
  obtain ⟨taken, dropped⟩ := takeWhile_append_of_head delimits.digit bytes
  rw [scanNumber_eq] at scanned ⊢
  rw [taken, dropped]
  generalize ((bytes.takeWhile isDigit).isEmpty || _) = malformed at scanned ⊢
  cases malformed with
  | true => cases scanned
  | false => exact scanFraction_append delimits scanned

/-! ## Tokens -/

theorem nextToken?_suffix {byte : UInt8} {rest more : List UInt8} {token : Token}
    (next : nextToken? byte rest = some (token, more)) : more <:+ rest := by
  unfold nextToken? at next
  split at next
  case h_7 =>
    obtain ⟨⟨content, behind⟩, scanned, same⟩ := Option.map_eq_some_iff.mp next
    obtain ⟨_, rfl⟩ := Prod.mk.inj same
    exact scanText_suffix scanned
  case h_8 =>
    split at next
    · obtain ⟨_, rfl⟩ := Prod.mk.inj (Option.some.inj next)
      exact List.suffix_append [_, _, _] _
    · cases next
  case h_9 =>
    split at next
    · obtain ⟨_, rfl⟩ := Prod.mk.inj (Option.some.inj next)
      exact List.suffix_append [_, _, _] _
    · cases next
  case h_10 =>
    split at next
    · obtain ⟨_, rfl⟩ := Prod.mk.inj (Option.some.inj next)
      exact List.suffix_append [_, _, _, _] _
    · cases next
  case h_11 =>
    obtain ⟨⟨number, behind⟩, scanned, same⟩ := Option.map_eq_some_iff.mp next
    obtain ⟨_, rfl⟩ := Prod.mk.inj same
    exact (scanNumber_suffix scanned).trans (List.dropWhile_suffix isDigit)
  case h_12 =>
    split at next
    next digit =>
      obtain ⟨⟨number, behind⟩, scanned, same⟩ := Option.map_eq_some_iff.mp next
      obtain ⟨_, rfl⟩ := Prod.mk.inj same
      have behindDigits := scanNumber_suffix scanned
      rw [List.dropWhile_cons_of_pos digit] at behindDigits
      exact behindDigits.trans (List.dropWhile_suffix isDigit)
    next => cases next
  all_goals
    obtain ⟨_, rfl⟩ := Prod.mk.inj (Option.some.inj next)
    exact List.suffix_rfl

theorem nextToken?_append (delimits : Delimits tail) {byte : UInt8} {rest more : List UInt8} {token : Token}
    (next : nextToken? byte rest = some (token, more)) :
    nextToken? byte (rest ++ tail) = some (token, more ++ tail) := by
  unfold nextToken? at next ⊢
  split at next
  case h_7 =>
    obtain ⟨⟨content, behind⟩, scanned, same⟩ := Option.map_eq_some_iff.mp next
    obtain ⟨rfl, rfl⟩ := Prod.mk.inj same
    rw [scanText_append scanned]
    rfl
  case h_8 =>
    split at next
    · obtain ⟨rfl, rfl⟩ := Prod.mk.inj (Option.some.inj next)
      rfl
    · cases next
  case h_9 =>
    split at next
    · obtain ⟨rfl, rfl⟩ := Prod.mk.inj (Option.some.inj next)
      rfl
    · cases next
  case h_10 =>
    split at next
    · obtain ⟨rfl, rfl⟩ := Prod.mk.inj (Option.some.inj next)
      rfl
    · cases next
  case h_11 =>
    obtain ⟨⟨number, behind⟩, scanned, same⟩ := Option.map_eq_some_iff.mp next
    obtain ⟨rfl, rfl⟩ := Prod.mk.inj same
    rw [scanNumber_append delimits scanned]
    rfl
  case h_12 =>
    split at next
    next digit =>
      obtain ⟨⟨number, behind⟩, scanned, same⟩ := Option.map_eq_some_iff.mp next
      obtain ⟨rfl, rfl⟩ := Prod.mk.inj same
      have scannedThen := scanNumber_append delimits scanned
      rw [List.cons_append] at scannedThen
      rw [if_pos digit, scannedThen]
      rfl
    next => cases next
  all_goals
    obtain ⟨rfl, rfl⟩ := Prod.mk.inj (Option.some.inj next)
    rfl

end Larder.Json
