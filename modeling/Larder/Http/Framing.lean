import Larder.Http.Header
import Larder.Text.Blank
import Larder.Text.Parts

/-!
How the end of a body is told.

A body is announced by its length or sent in pieces. A field `transfer-encoding` asks for pieces, and
is completed so that they are its last coding; a field `content-length` gives the length. A length that
is none is replaced by the right one.
-/

namespace Larder.Http

/-- The parts of a field's value between its commas, without the blanks around them; none of a value
that is not ASCII. -/
def fieldParts (value : String) : List String :=
  let chars := value.toList
  if chars.any fun (c : Char) => decide (0x7F ≤ c.toNat) then []
  else (Text.parts ',' chars).map fun part => Text.trim (String.ofList part)

def endsInPieces (value : String) : Bool :=
  (fieldParts value).getLast?.any fun coding =>
    String.ofList (coding.toList.map Char.toLower) == "chunked"

def lengthOf? (digits : String) : Option Nat :=
  if digits.isEmpty || !digits.all Char.isDigit then none
  else
    let value := digits.foldl (fun value c => value * 10 + (c.toNat - '0'.toNat)) 0
    if value < Nat.pow 2 64 then some value else none

def announcedLength? (value : String) : Option Nat := do
  let lengths ← (fieldParts value).mapM lengthOf?
  let length ← lengths.head?
  if lengths.all (· == length) then some length else none

inductive Framing
  | length (count : Nat)
  | pieces
deriving DecidableEq, Repr

def Headers.framing (headers : Headers) (size : Nat) : Framing :=
  match headers.get? "transfer-encoding" with
  | some _ => .pieces
  | none => .length (((headers.get? "content-length").bind announcedLength?).getD size)

/-- The fields as they are sent: pieces are named as the last coding of a transfer. -/
def Headers.completed (headers : Headers) : Headers :=
  match headers.get? "transfer-encoding" with
  | some value =>
      if endsInPieces value then headers
      else headers.put "transfer-encoding" (value ++ ", chunked")
  | none => headers

end Larder.Http
