import Larder.Json.Tree
import Larder.Toml.Document

/-!
TOML values as trees to decode.

The trees are those of JSON, so that one decoder reads a record from either format. A table's members
are visited in the order of their names. A number out of range cannot even be skipped; it harms
nothing where it is not looked at, as an item that a record has no field for.
-/

namespace Larder.Toml

open Json (Tree Ending)

/-- The name under which a moment shows itself where a value of any kind is asked for. -/
def momentName : String := "$__toml_private_datetime"

/-- Lists and tables are passed over as a whole only if all that is in them can be. -/
def endingOf (trees : List Tree) : Ending :=
  if trees.all Tree.isWhole then .closed else .spoiled

mutual

def Value.toTree : Value → Tree
  | .text value => .text (some value)
  | .bool value => .bool value
  | .integer value => .number (some (.whole value))
  | .float (some value) => .number (some (.real value))
  | .float none => .broken
  | .moment text => .object [(some momentName, .text (some text))] .closed
  | .list items =>
      let trees := listTrees items
      .list trees (endingOf trees)
  | .tables latestFirst =>
      let trees := (listTrees latestFirst).reverse
      .list trees (endingOf trees)
  | .table _ members =>
      let trees := memberTrees members
      .object trees (endingOf (trees.map (·.2)))

def listTrees : List Value → List Tree
  | [] => []
  | item :: items => item.toTree :: listTrees items

def memberTrees : List (String × Value) → List (Option String × Tree)
  | [] => []
  | (name, value) :: members => (some name, value.toTree) :: memberTrees members

end

end Larder.Toml
