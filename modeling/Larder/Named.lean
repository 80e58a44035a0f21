/-!
Values by name.

The names stand in ascending order and each stands once, provided that the list was built with `put`
from an empty one. A value that is put in under a name takes the place of an earlier one.
-/

namespace Larder

abbrev Named (α : Type) := List (String × α)

namespace Named

def get? {α : Type} (name : String) (members : Named α) : Option α :=
  (members.find? (·.1 == name)).map (·.2)

def put {α : Type} (name : String) (value : α) : Named α → Named α
  | [] => [(name, value)]
  | (other, old) :: rest =>
      if name == other then (name, value) :: rest
      else if name < other then (name, value) :: (other, old) :: rest
      else (other, old) :: put name value rest

def erase {α : Type} (name : String) (members : Named α) : Named α :=
  members.filter (·.1 != name)

def ofList {α : Type} (members : List (String × α)) : Named α :=
  members.foldl (fun sorted member => put member.1 member.2 sorted) []

end Named

end Larder
