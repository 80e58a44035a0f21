import Larder.Named

/-!
JSON values.

Numbers are kept in the three ranges that reading tells apart: whole numbers from the least signed to
the greatest unsigned 64-bit one, and doubles for all others. Members of an object stand in the
order of their names, each name once, when the object was built with `Json.ofMembers`.
-/

namespace Larder

inductive Json.Number
  | whole (value : Int)
  | real (value : Float)
deriving Inhabited

def Json.Number.toFloat : Json.Number → Float
  | .whole value => if value < 0 then -(Float.ofNat value.natAbs) else Float.ofNat value.natAbs
  | .real value => value

inductive Json
  | null
  | bool (value : Bool)
  | number (value : Json.Number)
  | text (value : String)
  | list (items : List Json)
  | object (members : List (String × Json))
deriving Inhabited

namespace Json

/-- An object with members sorted by name; of two with one name the later counts. -/
def ofMembers (members : List (String × Json)) : Json :=
  .object (Named.ofList members)

def get? (name : String) : Json → Option Json
  | .object members => Named.get? name members
  | _ => none

def asText? : Json → Option String
  | .text value => some value
  | _ => none

def asList? : Json → Option (List Json)
  | .list items => some items
  | _ => none

def ofFloat (value : Float) : Json :=
  .number (.real value)

def ofNat (value : Nat) : Json :=
  .number (.whole value)

def ofOption {α : Type} (encode : α → Json) : Option α → Json
  | none => .null
  | some value => encode value

end Json

end Larder
