import Larder.Json.Tree
import Larder.Uuid

/-!
Decoding typed values from JSON trees.

A decoder walks a tree in the order of its text and answers the first fault it meets. A record is
described once, as a `Record`: its fields in their declared order, each with a name, a decoder and
perhaps a value for when it is absent. The description then reads objects, in which unknown members
are skipped, and lists that give the fields by position.
-/

namespace Larder

inductive DecodeError
  | missingField (name : String)
  | duplicateField (name : String)
  | unknownVariant (name : String)
  | invalidType
  | invalidValue
  | invalidLength
  | invalidUuid
  | malformed
deriving DecidableEq, Repr

def DecodeError.message : DecodeError → String
  | .missingField name => "missing field `" ++ name ++ "`"
  | .duplicateField name => "duplicate field `" ++ name ++ "`"
  | .unknownVariant name =>
      "unknown variant `" ++ String.ofList (name.toList.takeWhile (· != '`')) ++ "`"
  | .invalidType => "invalid type"
  | .invalidValue => "invalid value"
  | .invalidLength => "invalid length"
  | .invalidUuid => "invalid uuid"
  | .malformed => "syntax"

namespace Json

/-- How a tree is to be read: how many levels of lists and objects may still be entered, less one, and
how a list with more items than the record has fields is answered, if it is a fault. -/
structure Context where
  levels : Nat
  surplus : Option DecodeError

def Context.text : Context := ⟨127, some .malformed⟩

def Context.value : Context := ⟨127, some .invalidLength⟩

abbrev Decoder (α : Type) := Context → Tree → Except DecodeError α

def mismatch : Tree → DecodeError
  | .broken | .number none | .text none => .malformed
  | _ => .invalidType

def Context.enter (context : Context) : Except DecodeError Context :=
  match context.levels with
  | 0 => .error .malformed
  | levels + 1 => .ok { context with levels }

namespace Decoder

def text : Decoder String
  | _, .text (some value) => .ok value
  | _, tree => .error (mismatch tree)

def bool : Decoder Bool
  | _, .bool value => .ok value
  | _, tree => .error (mismatch tree)

def isWord (value : Int) : Bool :=
  -(Nat.pow 2 63 : Int) ≤ value && value < Nat.pow 2 64

def float : Decoder Float
  | _, .number (some (.whole value)) =>
      if isWord value then .ok (Number.whole value).toFloat else .error .invalidType
  | _, .number (some (.real value)) => .ok value
  | _, tree => .error (mismatch tree)

def unsigned (bits : Nat) : Decoder Nat
  | _, .number (some (.whole value)) =>
      if 0 ≤ value ∧ value < Nat.pow 2 bits then .ok value.toNat
      else if isWord value then .error .invalidValue
      else .error .invalidType
  | _, tree => .error (mismatch tree)

def uuid : Decoder Uuid
  | _, .text (some value) =>
      match Uuid.parse? value with
      | some id => .ok id
      | none => .error .invalidUuid
  | _, tree => .error (mismatch tree)

def optional {α : Type} (read : Decoder α) : Decoder (Option α)
  | _, .null => .ok none
  | context, tree => (read context tree).map some

def items {α : Type} (read : Tree → Except DecodeError α) : List Tree → Except DecodeError (List α)
  | [] => .ok []
  | tree :: rest => do
      let value ← read tree
      return value :: (← items read rest)

def list {α : Type} (read : Decoder α) : Decoder (List α)
  | context, .list trees ending => do
      let inner ← context.enter
      let values ← items (read inner) trees
      if ending.isClosed then .ok values else .error .malformed
  | _, tree => .error (mismatch tree)

/-- One of the named values, given as its name or as an object with that one name and `null`. -/
def choice {α : Type} (named : String → Option α) : Decoder α
  | _, .text (some name) =>
      match named name with
      | some value => .ok value
      | none => .error (.unknownVariant name)
  | context, .object members ending => do
      let _ ← context.enter
      match members with
      | [] | (none, _) :: _ => .error .malformed
      | (some name, tree) :: rest =>
          match named name with
          | none => .error (.unknownVariant name)
          | some value =>
              match tree with
              | .null =>
                  if rest.isEmpty && ending.isClosed then .ok value else .error .malformed
              | other => .error (mismatch other)
  | _, _ => .error .malformed

end Decoder

mutual

/-- A value of any kind. Of members with one name the last counts. -/
def Decoder.json (context : Context) : Tree → Except DecodeError Json
  | .null => .ok .null
  | .bool value => .ok (.bool value)
  | .number (some (.whole value)) =>
      if Decoder.isWord value then .ok (.number (.whole value)) else .error .malformed
  | .number (some (.real value)) =>
      .ok (if value.isFinite then .number (.real value) else .null)
  | .text (some value) => .ok (.text value)
  | .list trees ending => do
      let values ← Decoder.jsonItems (← context.enter) trees
      if ending.isClosed then .ok (.list values) else .error .malformed
  | .object members ending => do
      let values ← Decoder.jsonMembers (← context.enter) members
      if ending.isClosed then .ok (.ofMembers values) else .error .malformed
  | .broken | .number none | .text none => .error .malformed

def Decoder.jsonItems (context : Context) : List Tree → Except DecodeError (List Json)
  | [] => .ok []
  | tree :: rest => do
      let value ← Decoder.json context tree
      return value :: (← Decoder.jsonItems context rest)

def Decoder.jsonMembers (context : Context) :
    List (Option String × Tree) → Except DecodeError (List (String × Json))
  | [] => .ok []
  | (none, _) :: _ => .error .malformed
  | (some name, tree) :: rest => do
      let value ← Decoder.json context tree
      return (name, value) :: (← Decoder.jsonMembers context rest)

end

def Decoder.members : Decoder (List (String × Json))
  | context, .object members ending => do
      match ← Decoder.json context (.object members ending) with
      | .object values => .ok values
      | _ => .error .invalidType
  | _, tree => .error (mismatch tree)

/-! ## Records -/

/-- The fields of a record in their declared order, with the values read so far. -/
inductive Record : Type → Type 1
  | done {α : Type} (value : α) : Record α
  | field {α β : Type} (earlier : Record (β → α)) (name : String) (read : Decoder β)
      (absent : Option β) (slot : Option β) : Record α

namespace Record

def required {α β : Type} (earlier : Record (β → α)) (name : String) (read : Decoder β) : Record α :=
  .field earlier name read none none

def optional {α β : Type} (earlier : Record (β → α)) (name : String) (read : Decoder β)
    (absent : β) : Record α :=
  .field earlier name read (some absent) none

def visit (context : Context) (name : String) (tree : Tree) :
    {α : Type} → Record α → Option (Except DecodeError (Record α))
  | _, .done _ => none
  | _, .field earlier own read absent slot =>
      if name == own then
        match slot with
        | some _ => some (.error (.duplicateField own))
        | none =>
            some ((read context tree).map fun value => .field earlier own read absent (some value))
      else
        (visit context name tree earlier).map fun outcome =>
          outcome.map fun earlier => .field earlier own read absent slot

def visitAll {α : Type} (context : Context) :
    List (Option String × Tree) → Record α → Except DecodeError (Record α)
  | [], record => .ok record
  | (none, _) :: _, _ => .error .malformed
  | (some name, tree) :: rest, record =>
      match visit context name tree record with
      | some (.ok filled) => visitAll context rest filled
      | some (.error fault) => .error fault
      | none => if tree.isWhole then visitAll context rest record else .error .malformed

def finish : {α : Type} → Record α → Except DecodeError α
  | _, .done value => .ok value
  | _, .field earlier name _ absent slot => do
      let build ← finish earlier
      match slot.or absent with
      | some value => .ok (build value)
      | none => .error (.missingField name)

def takeItems (context : Context) (whole : Bool) :
    {α : Type} → Record α → List Tree → Except DecodeError (α × List Tree)
  | _, .done value, trees => .ok (value, trees)
  | _, .field earlier _ read absent _, trees => do
      let (build, rest) ← takeItems context whole earlier trees
      match rest with
      | tree :: rest => return (build (← read context tree), rest)
      | [] =>
          if whole then
            match absent with
            | some value => .ok (build value, [])
            | none => .error .invalidLength
          else .error .malformed

def decode {α : Type} (record : Record α) : Decoder α
  | context, .object members ending =>
      match context.enter with
      | .error fault => .error fault
      | .ok inner =>
          match visitAll inner members record with
          | .error fault => .error fault
          | .ok filled => if ending.isClosed then filled.finish else .error .malformed
  | context, .list trees ending => do
      let inner ← context.enter
      let (value, rest) ← takeItems inner (ending.isClosed) record trees
      if ending.isClosed then
        match context.surplus with
        | some fault => if rest.isEmpty then .ok value else .error fault
        | none => .ok value
      else .error .malformed
  | _, tree => .error (mismatch tree)

end Record

/-! ## Whole texts -/

def decodeBytes {α : Type} (read : Decoder α) (bytes : List UInt8) : Except DecodeError α := do
  let document := Document.ofBytes bytes
  let value ← read Context.text document.root
  if document.clean then .ok value else .error .malformed

def decodeText {α : Type} (read : Decoder α) (text : String) : Except DecodeError α :=
  decodeBytes read (Text.Utf8.encode text)

def decodeValue {α : Type} (read : Decoder α) (value : Json) : Except DecodeError α :=
  read Context.value (Tree.ofJson value)

def parse (bytes : List UInt8) : Except DecodeError Json :=
  decodeBytes Decoder.json bytes

end Json

end Larder
