/-!
Bytes and text.

`decode` reads bytes as UTF-8. A sequence that is not UTF-8 is answered by one `none` per maximal
prefix of a character, as Unicode recommends; `decode?` refuses such bytes, `decodeLossy` puts the
replacement character in their place, and `fault?` tells where the first of them are.
-/

namespace Larder.Text.Utf8

/-- A character of which the first bytes are read: the value so far, the number of bytes that must
follow, and the range in which the next one has to lie. -/
structure Partial where
  value : Nat
  missing : Nat
  lower : UInt8
  upper : UInt8

inductive Lead
  | char (c : Char)
  | starts (partialChar : Partial)
  | invalid

def lead (byte : UInt8) : Lead :=
  let code := byte.toNat
  if code < 0x80 then .char (Char.ofNat code)
  else if code < 0xC2 then .invalid
  else if code < 0xE0 then .starts ⟨code - 0xC0, 1, 0x80, 0xBF⟩
  else if code < 0xF0 then
    .starts ⟨code - 0xE0, 2, if code == 0xE0 then 0xA0 else 0x80, if code == 0xED then 0x9F else 0xBF⟩
  else if code < 0xF5 then
    .starts ⟨code - 0xF0, 3, if code == 0xF0 then 0x90 else 0x80, if code == 0xF4 then 0x8F else 0xBF⟩
  else .invalid

/-- Reads bytes after `state`; `done` holds what was read before, latest first. -/
def decodeFrom (state : Option Partial) (done : List (Option Char)) :
    List UInt8 → List (Option Char)
  | [] =>
      match state with
      | none => done.reverse
      | some _ => (none :: done).reverse
  | byte :: rest =>
      match state with
      | some begun =>
          if begun.lower ≤ byte ∧ byte ≤ begun.upper then
            let value := begun.value * 64 + (byte.toNat - 0x80)
            if begun.missing ≤ 1 then decodeFrom none (some (Char.ofNat value) :: done) rest
            else decodeFrom (some ⟨value, begun.missing - 1, 0x80, 0xBF⟩) done rest
          else
            match lead byte with
            | .char c => decodeFrom none (some c :: none :: done) rest
            | .starts next => decodeFrom (some next) (none :: done) rest
            | .invalid => decodeFrom none (none :: none :: done) rest
      | none =>
          match lead byte with
          | .char c => decodeFrom none (some c :: done) rest
          | .starts next => decodeFrom (some next) done rest
          | .invalid => decodeFrom none (none :: done) rest

def decode (bytes : List UInt8) : List (Option Char) :=
  decodeFrom none [] bytes

def decode? (bytes : List UInt8) : Option String :=
  let chars := decode bytes
  if chars.all Option.isSome then some (String.ofList (chars.map (·.getD '\uFFFD'))) else none

def decodeLossy (bytes : List UInt8) : String :=
  String.ofList ((decode bytes).map (·.getD '\uFFFD'))

/-- Where bytes stop being UTF-8: the number of bytes before, and the length of what is not UTF-8
there, unless the bytes end within a character. -/
structure Fault where
  start : Nat
  length : Option Nat
deriving DecidableEq, Repr

def Fault.message (fault : Fault) : String :=
  match fault.length with
  | some length =>
      "invalid utf-8 sequence of " ++ toString length ++ " bytes from index " ++ toString fault.start
  | none => "incomplete utf-8 byte sequence from index " ++ toString fault.start

/-- The first fault in bytes after `state`, of which `taken` bytes are read; `start` is the number of
bytes before them. -/
def faultFrom (state : Option Partial) (start taken : Nat) : List UInt8 → Option Fault
  | [] => state.map fun _ => ⟨start, none⟩
  | byte :: rest =>
      match state with
      | some begun =>
          if begun.lower ≤ byte ∧ byte ≤ begun.upper then
            if begun.missing ≤ 1 then faultFrom none (start + taken + 1) 0 rest
            else faultFrom (some ⟨begun.value, begun.missing - 1, 0x80, 0xBF⟩) start (taken + 1) rest
          else some ⟨start, some taken⟩
      | none =>
          match lead byte with
          | .char _ => faultFrom none (start + 1) 0 rest
          | .starts next => faultFrom (some next) start 1 rest
          | .invalid => some ⟨start, some 1⟩

def fault? (bytes : List UInt8) : Option Fault :=
  faultFrom none 0 0 bytes

def encode (text : String) : List UInt8 :=
  text.toUTF8.data.toList

end Larder.Text.Utf8
