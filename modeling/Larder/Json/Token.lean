import Larder.Json.Basic
import Larder.Decimal.Scaled
import Larder.Text.Utf8

/-!
The tokens of a JSON text.

`nextToken?` reads one token from bytes that begin with no blank. A token is recognised by its shape
alone: a text may still hold a lone surrogate or bytes that are not UTF-8, and a number may still be
out of range. Such a token has no content, and is an error only for a reader that needs its content.
-/

namespace Larder.Json

/-- One token; texts and numbers hold their content when they have one. -/
inductive Token
  | null
  | bool (value : Bool)
  | number (value : Option Number)
  | text (value : Option String)
  | openList
  | closeList
  | openObject
  | closeObject
  | comma
  | colon

def isSpace (byte : UInt8) : Bool :=
  byte == 0x20 || byte == 0x0A || byte == 0x0D || byte == 0x09

def hexByte? (byte : UInt8) : Option Nat :=
  let code := byte.toNat
  if 0x30 ≤ code ∧ code ≤ 0x39 then some (code - 0x30)
  else if 0x61 ≤ code ∧ code ≤ 0x66 then some (code - 0x61 + 10)
  else if 0x41 ≤ code ∧ code ≤ 0x46 then some (code - 0x41 + 10)
  else none

def hexUnit? (a b c d : UInt8) : Option Nat := do
  return (((← hexByte? a) * 16 + (← hexByte? b)) * 16 + (← hexByte? c)) * 16 + (← hexByte? d)

def escaped? (byte : UInt8) : Option UInt8 :=
  match byte.toNat with
  | 0x22 => some 0x22
  | 0x5C => some 0x5C
  | 0x2F => some 0x2F
  | 0x62 => some 0x08
  | 0x66 => some 0x0C
  | 0x6E => some 0x0A
  | 0x72 => some 0x0D
  | 0x74 => some 0x09
  | _ => none

/-- What is read of a text: its bytes, latest first, unless they can have no content, and the first
half of a surrogate pair whose second half is due. -/
structure Scanned where
  bytes : Option (List UInt8)
  half : Option Nat

def Scanned.byte (s : Scanned) (byte : UInt8) : Scanned :=
  ⟨if s.half.isSome then none else s.bytes.map (byte :: ·), none⟩

def pushChar (bytes : List UInt8) (code : Nat) : List UInt8 :=
  (Text.Utf8.encode (Char.ofNat code).toString).reverse ++ bytes

def Scanned.unit (s : Scanned) (unit : Nat) : Scanned :=
  match s.half with
  | some first =>
      if 0xDC00 ≤ unit ∧ unit ≤ 0xDFFF then
        ⟨s.bytes.map (pushChar · (0x10000 + (first - 0xD800) * 1024 + (unit - 0xDC00))), none⟩
      else ⟨none, none⟩
  | none =>
      if 0xD800 ≤ unit ∧ unit ≤ 0xDBFF then ⟨s.bytes, some unit⟩
      else if 0xDC00 ≤ unit ∧ unit ≤ 0xDFFF then ⟨none, none⟩
      else ⟨s.bytes.map (pushChar · unit), none⟩

def Scanned.content (s : Scanned) : Option String :=
  if s.half.isSome then none else s.bytes.bind fun bytes => Text.Utf8.decode? bytes.reverse

def scanText (s : Scanned) : List UInt8 → Option (Option String × List UInt8)
  | [] => none
  | byte :: rest =>
      if byte == 0x22 then some (s.content, rest)
      else if byte == 0x5C then
        match rest with
        | 0x75 :: a :: b :: c :: d :: more =>
            match hexUnit? a b c d with
            | some unit => scanText (s.unit unit) more
            | none => none
        | letter :: more =>
            match escaped? letter with
            | some value => scanText (s.byte value) more
            | none => none
        | [] => none
      else if byte < 0x20 then none
      else scanText (s.byte byte) rest

def isDigit (byte : UInt8) : Bool :=
  0x30 ≤ byte && byte ≤ 0x39

def digitChars (bytes : List UInt8) : List Char :=
  bytes.map fun byte => Char.ofNat byte.toNat

structure NumberText where
  negative : Bool
  whole : List Char
  fraction : Option (List Char)
  exponent : Option (Bool × List Char)

/-- The number that a text denotes, unless it is too large for a double. Whole numbers are exact when
they fit a 64-bit word, and all other numbers are doubles. -/
def NumberText.value? (n : NumberText) : Option Number :=
  let exponent : Int :=
    match n.exponent with
    | none => 0
    | some (down, digits) =>
        let size : Int := Decimal.exponentValue digits
        if down then -size else size
  let real := (Decimal.scaled? n.whole (n.fraction.getD []) exponent).map fun size =>
    Number.real (if n.negative then -size else size)
  if n.fraction.isNone && n.exponent.isNone then
    match Decimal.appendDigits 0 n.whole with
    | (size, []) =>
        if !n.negative then some (.whole size)
        else if size = 0 ∨ Nat.pow 2 63 < size then real
        else some (.whole (-size))
    | _ => real
  else real

def scanExponent (bytes : List UInt8) : Option ((Bool × List Char) × List UInt8) :=
  let (down, rest) :=
    match bytes with
    | 0x2D :: rest => (true, rest)
    | 0x2B :: rest => (false, rest)
    | rest => (false, rest)
  let digits := rest.takeWhile isDigit
  if digits.isEmpty then none else some ((down, digitChars digits), rest.dropWhile isDigit)

def scanNumberEnd (number : NumberText) (bytes : List UInt8) : Option (NumberText × List UInt8) :=
  match bytes with
  | letter :: rest =>
      if letter == 0x65 || letter == 0x45 then
        (scanExponent rest).map fun (exponent, more) => ({ number with exponent }, more)
      else some (number, bytes)
  | [] => some (number, [])

def scanNumber (negative : Bool) (bytes : List UInt8) : Option (NumberText × List UInt8) :=
  let whole := bytes.takeWhile isDigit
  let rest := bytes.dropWhile isDigit
  if whole.isEmpty || (whole.head? == some 0x30 && 1 < whole.length) then none
  else
    let number : NumberText := ⟨negative, digitChars whole, none, none⟩
    match rest with
    | 0x2E :: more =>
        let fraction := more.takeWhile isDigit
        if fraction.isEmpty then none
        else
          scanNumberEnd { number with fraction := some (digitChars fraction) }
            (more.dropWhile isDigit)
    | _ => scanNumberEnd number rest

def nextToken? (byte : UInt8) (rest : List UInt8) : Option (Token × List UInt8) :=
  match byte.toNat with
  | 0x5B => some (.openList, rest)
  | 0x5D => some (.closeList, rest)
  | 0x7B => some (.openObject, rest)
  | 0x7D => some (.closeObject, rest)
  | 0x2C => some (.comma, rest)
  | 0x3A => some (.colon, rest)
  | 0x22 => (scanText ⟨some [], none⟩ rest).map fun (value, more) => (.text value, more)
  | 0x6E =>
      match rest with
      | 0x75 :: 0x6C :: 0x6C :: more => some (.null, more)
      | _ => none
  | 0x74 =>
      match rest with
      | 0x72 :: 0x75 :: 0x65 :: more => some (.bool true, more)
      | _ => none
  | 0x66 =>
      match rest with
      | 0x61 :: 0x6C :: 0x73 :: 0x65 :: more => some (.bool false, more)
      | _ => none
  | 0x2D => (scanNumber true rest).map fun (parts, more) => (.number parts.value?, more)
  | _ =>
      if isDigit byte then
        (scanNumber false (byte :: rest)).map fun (parts, more) => (.number parts.value?, more)
      else none

end Larder.Json
