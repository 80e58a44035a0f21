import Larder.Json.Token

/-!
JSON texts read as far as they go.

A reader that stops at the first fault must answer a fault in the meaning of an early part before a
fault in the form of a later one. Reading is therefore split: `Document.ofBytes` never fails and
builds a tree of all there is, in which lists and objects that are not properly ended are marked, and
`Decoder` walks that tree in the order of the text.
-/

namespace Larder.Json

/-- How the text of a list or object ends: with its closing bracket, with the bracket but around a
value that cannot be read, or somewhere before it. -/
inductive Ending
  | closed
  | spoiled
  | broken
deriving DecidableEq

def Ending.isClosed : Ending → Bool
  | .closed | .spoiled => true
  | .broken => false

/-- A value read as far as its text goes. Texts, numbers and names without content are `none`. -/
inductive Tree
  | broken
  | null
  | bool (value : Bool)
  | number (value : Option Number)
  | text (value : Option String)
  | list (items : List Tree) (ending : Ending)
  | object (members : List (Option String × Tree)) (ending : Ending)
deriving Inhabited

/-- Whether a value can be passed over: its text is well formed up to its end. -/
def Tree.isWhole : Tree → Bool
  | .broken => false
  | .list _ ending | .object _ ending => ending == .closed
  | _ => true

/-- A list or object that is not ended yet; what is read of it stands latest first. -/
inductive Frame
  | list (items : List Tree)
  | object (members : List (Option String × Tree))
  | member (members : List (Option String × Tree)) (name : Option String)

inductive Due
  | value
  | firstItem
  | firstName
  | name
  | colon
  | separator

inductive Cursor
  | inside (frames : List Frame) (due : Due)
  | after (root : Tree)

def deliver (value : Tree) : List Frame → Cursor
  | [] => .after value
  | .list items :: frames => .inside (.list (value :: items) :: frames) .separator
  | .member members name :: frames =>
      .inside (.object ((name, value) :: members) :: frames) .separator
  | .object members :: frames => .inside (.object members :: frames) .separator

def abandon (value : Option Tree) : List Frame → Tree
  | [] => value.getD .broken
  | .list items :: frames => abandon (some (.list (value.toList ++ items).reverse .broken)) frames
  | .object members :: frames => abandon (some (.object members.reverse .broken)) frames
  | .member members name :: frames =>
      abandon (some (.object ((name, value.getD .broken) :: members).reverse .broken)) frames

def Token.scalar? : Token → Option Tree
  | .null => some .null
  | .bool value => some (.bool value)
  | .number value => some (.number value)
  | .text value => some (.text value)
  | _ => none

def beginValue (frames : List Frame) (token : Token) : Option Cursor :=
  match token with
  | .openList => some (.inside (.list [] :: frames) .firstItem)
  | .openObject => some (.inside (.object [] :: frames) .firstName)
  | other => other.scalar?.map (deliver · frames)

def beginMember (frames : List Frame) (token : Token) : Option Cursor :=
  match token, frames with
  | .text name, .object members :: outer => some (.inside (.member members name :: outer) .colon)
  | _, _ => none

def close (frames : List Frame) (token : Token) : Option Cursor :=
  match token, frames with
  | .closeList, .list items :: outer => some (deliver (.list items.reverse .closed) outer)
  | .closeObject, .object members :: outer => some (deliver (.object members.reverse .closed) outer)
  | _, _ => none

def advance (frames : List Frame) (due : Due) (token : Token) : Option Cursor :=
  match due with
  | .value => beginValue frames token
  | .firstItem => (close frames token).or (beginValue frames token)
  | .firstName => (close frames token).or (beginMember frames token)
  | .name => beginMember frames token
  | .colon =>
      match token with
      | .colon => some (.inside frames .value)
      | _ => none
  | .separator =>
      match token, frames with
      | .comma, .list _ :: _ => some (.inside frames .value)
      | .comma, .object _ :: _ => some (.inside frames .name)
      | _, _ => close frames token

def stopped (frames : List Frame) (due : Due) : Tree :=
  match due with
  | .value | .firstItem => abandon (some .broken) frames
  | _ => abandon none frames

structure Document where
  root : Tree
  clean : Bool

/-- Reads on from a cursor. Every step takes at least one byte, so `fuel` bytes need no more. -/
def readFrom : Nat → Cursor → List UInt8 → Document
  | _, .after root, bytes => ⟨root, bytes.all isSpace⟩
  | 0, .inside frames due, _ => ⟨stopped frames due, false⟩
  | _ + 1, .inside frames due, [] => ⟨stopped frames due, false⟩
  | fuel + 1, .inside frames due, byte :: rest =>
      if isSpace byte then readFrom fuel (.inside frames due) rest
      else
        match nextToken? byte rest with
        | none => ⟨stopped frames due, false⟩
        | some (token, more) =>
            match advance frames due token with
            | none => ⟨stopped frames due, false⟩
            | some cursor => readFrom fuel cursor more

def Document.ofBytes (bytes : List UInt8) : Document :=
  readFrom (bytes.length + 1) (.inside [] .value) bytes

def Document.ofText (text : String) : Document :=
  ofBytes (Text.Utf8.encode text)

mutual

def Tree.ofJson : Json → Tree
  | .null => .null
  | .bool value => .bool value
  | .number value => .number (some value)
  | .text value => .text (some value)
  | .list items => .list (ofItems items) .closed
  | .object members => .object (ofMembers members) .closed

def Tree.ofItems : List Json → List Tree
  | [] => []
  | item :: items => Tree.ofJson item :: ofItems items

def Tree.ofMembers : List (String × Json) → List (Option String × Tree)
  | [] => []
  | (name, value) :: members => (some name, Tree.ofJson value) :: ofMembers members

end

end Larder.Json
