namespace Larder.Sql

inductive ColumnType
  | uuid
  | double
  | text
  | boolean
  | timestamp
deriving DecidableEq, Repr

def ColumnType.name : ColumnType → String
  | .uuid => "uuid"
  | .double => "double precision"
  | .text => "text"
  | .boolean => "boolean"
  | .timestamp => "timestamptz"

/-- Whether a column must have a value, and whether that value identifies the row. -/
inductive Presence
  | key
  | always
  | sometimes
deriving DecidableEq, Repr

def Presence.text : Presence → String
  | .key => "PRIMARY KEY"
  | .always => "NOT NULL"
  | .sometimes => "NULL"

inductive Bound
  | notNegative
  | fraction
  | oneOf (texts : List String)
deriving DecidableEq, Repr

def literal (text : String) : String :=
  "'" ++ text ++ "'"

def Bound.condition (column : String) : Bound → String
  | .notNegative => column ++ " >= 0"
  | .fraction => column ++ " >= 0 AND " ++ column ++ " <= 1"
  | .oneOf texts => column ++ " IN (" ++ ", ".intercalate (texts.map literal) ++ ")"

/-- A column. Its values may have to be keys of another table, whose rows then take those of this table
with them when they are deleted. -/
structure Column where
  name : String
  type : ColumnType
  presence : Presence
  bound : Option Bound := none
  owner : Option (String × String) := none
deriving Repr

def Column.text (column : Column) : String :=
  let owner :=
    match column.owner with
    | some (table, key) => " REFERENCES " ++ table ++ " (" ++ key ++ ") ON DELETE CASCADE"
    | none => ""
  let bound :=
    match column.bound with
    | some bound => " CHECK (" ++ bound.condition column.name ++ ")"
    | none => ""
  column.name ++ " " ++ column.type.name ++ " " ++ column.presence.text ++ owner ++ bound

/-- A table. The values of a column can be kept apart by a named constraint, and rows can be found fast
by the columns of an index. -/
structure Table where
  name : String
  columns : List Column
  unique : Option (String × String)
  index : String × List String
deriving Repr

namespace Table

def columnNames (table : Table) : List String :=
  table.columns.map Column.name

def columnList (table : Table) : String :=
  ", ".intercalate table.columnNames

def lines (table : Table) : List String :=
  table.columns.map Column.text ++
    (table.unique.map fun (name, column) =>
      "CONSTRAINT " ++ name ++ " UNIQUE (" ++ column ++ ")").toList

def creation (table : Table) : String :=
  "CREATE TABLE IF NOT EXISTS " ++ table.name ++ " (\n\t" ++ ",\n\t".intercalate table.lines ++ "\n)"

def indexCreation (table : Table) : String :=
  "CREATE INDEX IF NOT EXISTS " ++ table.index.1 ++ "\n\tON " ++ table.name ++ " (" ++
    ", ".intercalate table.index.2 ++ ")"

def script (table : Table) : String :=
  table.creation ++ ";\n\n" ++ table.indexCreation ++ ";\n"

end Table

end Larder.Sql
