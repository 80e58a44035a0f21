import Larder.Sql.Schema

/-!
Statements with numbered parameters, as data and as text.

Only the forms that the store needs are there. A condition is a list of columns with the parameters
that they must equal; statements that return rows return all columns of their table.
-/

namespace Larder.Sql

structure Binding where
  column : String
  parameter : Nat
deriving DecidableEq, Repr

inductive Layout
  | line
  | block
deriving DecidableEq, Repr

/-- What becomes of an insertion when a row has the same value in the column `target`: that row takes
over the new values of the columns `replaced`. -/
structure OnConflict where
  target : String
  replaced : List String
deriving DecidableEq, Repr

inductive Statement
  | insert (table : Table) (layout : Layout) (values : List Binding) (onConflict : Option OnConflict)
  | select (table : Table) (condition : List Binding) (order : List String)
  | update (table : Table) (changes condition : List Binding)
  | delete (table : Table) (condition : List Binding)
deriving Repr

def placeholder (number : Nat) : String :=
  "$" ++ toString number

def Binding.equation (binding : Binding) : String :=
  binding.column ++ " = " ++ placeholder binding.parameter

def conditionText (before : String) : List Binding → String
  | [] => ""
  | condition => before ++ "WHERE " ++ " AND ".intercalate (condition.map Binding.equation)

def Layout.columns (columns : List String) : Layout → String
  | .line => "(" ++ ", ".intercalate columns ++ ")"
  | .block => "(\n\t" ++ ",\n\t".intercalate columns ++ "\n)"

def OnConflict.text (table : Table) (conflict : OnConflict) : String :=
  "\nON CONFLICT (" ++ conflict.target ++ ") DO UPDATE\nSET\n\t" ++
    ",\n\t".intercalate (conflict.replaced.map fun column => column ++ " = EXCLUDED." ++ column) ++
    "\nRETURNING " ++ table.columnList

def Statement.text : Statement → String
  | .insert table layout values onConflict =>
      "INSERT INTO " ++ table.name ++ " " ++ layout.columns (values.map Binding.column) ++
        "\nVALUES (" ++ ", ".intercalate (values.map fun value => placeholder value.parameter) ++
        ")" ++ (onConflict.map (OnConflict.text table)).getD ""
  | .select table condition order =>
      "SELECT " ++ table.columnList ++ " FROM " ++ table.name ++ conditionText " " condition ++
        (if order.isEmpty then "" else " ORDER BY " ++ ", ".intercalate order)
  | .update table changes condition =>
      "UPDATE " ++ table.name ++ "\nSET " ++ ", ".intercalate (changes.map Binding.equation) ++
        conditionText "\n" condition ++ "\nRETURNING " ++ table.columnList
  | .delete table condition => "DELETE FROM " ++ table.name ++ conditionText " " condition

end Larder.Sql
