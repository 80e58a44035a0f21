import Larder.Store.Call
import Larder.Time.Timestamp

/-!
Values and rows of a relational database.

A point in time is kept in UTC to whole microseconds. A row gives its values by column. Reading a
column asks for a type and refuses `NULL`, unless it is read as optional.
-/

namespace Larder.Sql

inductive Value
  | null
  | uuid (value : Uuid)
  | double (value : Float)
  | text (value : String)
  | bool (value : Bool)
  | moment (value : Timestamp)
  | integer (value : Int)
deriving Inhabited

/-- The second from which the database counts, 2000-01-01T00:00:00Z. -/
def origin : Int := 946684800

/-- The microseconds from `origin` to an instant; a part of one is dropped. -/
def microseconds (moment : Timestamp) : Int :=
  ((moment.seconds - origin) * 1000000000 + moment.nanos).tdiv 1000

def ofMicroseconds (count : Int) : Timestamp :=
  ⟨origin + count / 1000000, (count % 1000000).toNat * 1000, 0⟩

namespace Value

def ofTimestamp (moment : Timestamp) : Value :=
  .moment (ofMicroseconds (microseconds moment))

def ofOption {α : Type} (encode : α → Value) : Option α → Value
  | none => .null
  | some value => encode value

def asUuid? : Value → Option Uuid
  | .uuid value => some value
  | _ => none

def asDouble? : Value → Option Float
  | .double value => some value
  | _ => none

def asText? : Value → Option String
  | .text value => some value
  | _ => none

def asBool? : Value → Option Bool
  | .bool value => some value
  | _ => none

def asMoment? : Value → Option Timestamp
  | .moment value => some value
  | _ => none

/-! ## Comparison -/

/-- Whether two values are equal. `NULL` equals nothing, and what is not a number equals itself. -/
def equals : Value → Value → Bool
  | .uuid a, .uuid b => a == b
  | .double a, .double b => a == b || a.isNaN && b.isNaN
  | .text a, .text b => a == b
  | .bool a, .bool b => a == b
  | .moment a, .moment b => a.compareInstant b == .eq
  | .integer a, .integer b => a == b
  | _, _ => false

/-- The order of doubles, in which what is not a number comes last. -/
def doubleOrder (a b : Float) : Ordering :=
  if a.isNaN || b.isNaN then compare a.isNaN b.isNaN
  else if a < b then .lt
  else if b < a then .gt
  else .eq

/-- The order of the values of a column. Texts go by their characters, and `NULL` comes last. -/
def order : Value → Value → Ordering
  | .null, .null => .eq
  | .null, _ => .gt
  | _, .null => .lt
  | .uuid a, .uuid b => compare a b
  | .double a, .double b => doubleOrder a b
  | .text a, .text b => compare a b
  | .bool a, .bool b => compare a b
  | .moment a, .moment b => a.compareInstant b
  | .integer a, .integer b => compare a b
  | _, _ => .eq

end Value

abbrev Row := List (String × Value)

namespace Row

/-- The value of a column; a column that is not there has none. -/
def value (row : Row) (column : String) : Value :=
  ((row.find? (·.1 == column)).map (·.2)).getD .null

def required {α : Type} (row : Row) (as? : Value → Option α) (column : String) :
    Except BackendFault α :=
  match row.value column with
  | .null => .error (.unexpectedNull column)
  | value =>
      match as? value with
      | some value => .ok value
      | none => .error (.wrongType column)

def optional {α : Type} (row : Row) (as? : Value → Option α) (column : String) :
    Except BackendFault (Option α) :=
  match row.value column with
  | .null => .ok none
  | _ => (row.required as? column).map some

def set (row : Row) (column : String) (value : Value) : Row :=
  row.map fun (name, old) => (name, if name == column then value else old)

def isBefore (columns : List String) (a b : Row) : Bool :=
  (columns.foldr (fun column rest => ((a.value column).order (b.value column)).then rest) .eq).isLE

end Row

end Larder.Sql
