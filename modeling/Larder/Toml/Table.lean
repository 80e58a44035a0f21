import Larder.Named

/-!
TOML values, and the rules by which a document's lines build tables.

A table can be brought about in four ways, and its `Origin` keeps which, because it decides what may
be added later: the table of a header is closed to dotted keys from outside, a table that a header
only passes through may still get a header of its own or be taken over by a dotted key, and nothing
is ever added to an inline table.
`within` finds the table that a path of names leads to and makes the tables on the way.
-/

namespace Larder.Toml

/-- How a table came about: by a header of its own (or as the whole document), by a header or by a
dotted key that leads through it, or in braces. -/
inductive Origin
  | header
  | passed
  | dotted
  | braces
deriving DecidableEq, Repr

/-- A value. A number without a value is out of range. The tables of repeated headers stand latest
first. -/
inductive Value
  | text (value : String)
  | bool (value : Bool)
  | integer (value : Int)
  | float (value : Option Float)
  | moment (value : String)
  | list (items : List Value)
  | tables (latestFirst : List Value)
  | table (origin : Origin) (members : List (String × Value))
deriving Inhabited

abbrev Members := Named Value

/-- A change to a table of known origin, unless the table may not be changed so. -/
abbrev Change := Origin → Members → Option Members

def Origin.isOpen : Origin → Bool
  | .passed | .dotted => true
  | .header | .braces => false

/-- How a table counts once a path has led through it: a dotted key makes it its own. -/
def Origin.after (fresh origin : Origin) : Origin :=
  if fresh == .dotted then .dotted else origin

/-- Changes the table at the end of a path. Tables that are not there are made; `fresh` is what brings
them about, and dotted keys do not lead through tables that are defined otherwise. -/
def within (fresh : Origin) (change : Change) : List String → Change
  | [], origin, members => change origin members
  | name :: path, _, members =>
      match members.get? name with
      | none => do
          let inner ← within fresh change path fresh []
          return members.put name (.table fresh inner)
      | some (.table origin held) =>
          if origin == .braces || (fresh == .dotted && !origin.isOpen) then none
          else do
            let inner ← within fresh change path (fresh.after origin) held
            return members.put name (.table (fresh.after origin) inner)
      | some (.tables (.table origin held :: earlier)) => do
          let inner ← within fresh change path origin held
          return members.put name (.tables (.table origin inner :: earlier))
      | some _ => none

/-- Gives a name its value. A dotted key must end in a table that dotted keys made, a plain one must
not. -/
def define (dotted : Bool) (name : String) (value : Value) : Change := fun origin members =>
  if (origin == .dotted) != dotted || (members.get? name).isSome then none
  else some (members.put name value)

def assign (key : List String) (value : Value) : Change :=
  match key.reverse with
  | [] => fun _ _ => none
  | name :: path => within .dotted (define (!path.isEmpty) name value) path.reverse

def openTable (name : String) : Change := fun _ members =>
  match members.get? name with
  | none => some (members.put name (.table .header []))
  | some (.table .passed held) => some (members.put name (.table .header held))
  | some _ => none

def openRepeated (name : String) : Change := fun _ members =>
  match members.get? name with
  | none => some (members.put name (.tables [.table .header []]))
  | some (.tables earlier) => some (members.put name (.tables (.table .header [] :: earlier)))
  | some _ => none

def openHeader (repeated : Bool) (key : List String) : Change :=
  match key.reverse with
  | [] => fun _ _ => none
  | name :: path =>
      within .passed (if repeated then openRepeated name else openTable name) path.reverse

end Larder.Toml
