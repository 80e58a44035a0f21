import Larder.Sql.Statement
import Larder.Sql.Value

/-!
What statements do to the tables of a database.

A database holds the rows of each table. `Statement.execute` gives what a statement returns and the
database after it. Rows are stored only if each has the values that it must have, within their bounds,
if keys and unique columns stay distinct, and if the rows that others belong to are there; otherwise
the statement fails and changes nothing.
-/

namespace Larder.Sql

abbrev Database := String → List Row

inductive Breach
  | missingValue (table column : String)
  | outOfBounds (table column : String)
  | notDistinct (constraint : String)
  | missingOwner (table column : String)
deriving DecidableEq, Repr

def Breach.message : Breach → String
  | .missingValue table column =>
      "null value in column \"" ++ column ++ "\" of relation \"" ++ table ++
        "\" violates not-null constraint"
  | .outOfBounds table column =>
      "new row for relation \"" ++ table ++ "\" violates check constraint \"" ++ table ++ "_" ++
        column ++ "_check\""
  | .notDistinct constraint =>
      "duplicate key value violates unique constraint \"" ++ constraint ++ "\""
  | .missingOwner table column =>
      "insert or update on table \"" ++ table ++ "\" violates foreign key constraint \"" ++ table ++
        "_" ++ column ++ "_fkey\""

/-! ## Rules of a table -/

/-- Whether a bound admits a value; it says nothing about `NULL`. -/
def Bound.admits : Bound → Value → Bool
  | .notNegative, .double value => 0.0 ≤ value || value.isNaN
  | .fraction, .double value => 0.0 ≤ value && value ≤ 1.0
  | .oneOf texts, .text value => texts.contains value
  | _, .null => true
  | _, _ => false

def Column.isFilled (column : Column) (row : Row) : Bool :=
  match column.presence, row.value column.name with
  | .sometimes, _ => true
  | _, .null => false
  | _, _ => true

def Column.isBounded (column : Column) (row : Row) : Bool :=
  column.bound.all (·.admits (row.value column.name))

def Column.isOwned (column : Column) (database : Database) (row : Row) : Bool :=
  match column.owner, row.value column.name with
  | none, _ | _, .null => true
  | some (table, key), value => (database table).any fun owner => (owner.value key).equals value

def areDistinct (column : String) : List Row → Bool
  | [] => true
  | row :: rest =>
      !rest.any (fun other => (other.value column).equals (row.value column)) &&
        areDistinct column rest

namespace Table

def distinctions (table : Table) : List (String × String) :=
  (table.columns.filter (·.presence == .key)).map
      (fun column => (table.name ++ "_pkey", column.name)) ++
    table.unique.toList

def refused (table : Table) (rows : List Row) (test : Column → Row → Bool) : Option String :=
  (table.columns.find? fun column => !rows.all (test column)).map Column.name

def unfitness? (table : Table) (proposed : List Row) : Option Breach :=
  ((table.refused proposed Column.isFilled).map (Breach.missingValue table.name)).or
    ((table.refused proposed Column.isBounded).map (Breach.outOfBounds table.name))

def breach? (table : Table) (database : Database) (rows written : List Row) : Option Breach :=
  (table.unfitness? written).or
    (((table.distinctions.find? fun (_, column) => !areDistinct column rows).map
        fun (constraint, _) => Breach.notDistinct constraint).or
      ((table.refused written fun column => column.isOwned database).map
        (Breach.missingOwner table.name)))

end Table

/-! ## Rows of a database -/

namespace Database

def put (database : Database) (table : Table) (rows : List Row) : Database :=
  fun name => if name == table.name then rows else database name

def store (database : Database) (table : Table) (rows written : List Row) :
    Except Breach Database :=
  match table.breach? database rows written with
  | some breach => .error breach
  | none => .ok (database.put table rows)

/-- Takes out the rows whose owners are not there. As a table stands behind those that its rows belong
to, going through the tables once is enough. -/
def withoutOrphans (tables : List Table) (database : Database) : Database :=
  tables.foldl
    (fun database table =>
      database.put table ((database table.name).filter fun row =>
        table.columns.all fun column => column.isOwned database row))
    database

end Database

/-! ## Statements -/

def parameterValue (parameters : List Value) (number : Nat) : Value :=
  (parameters[number - 1]?).getD .null

def Row.meets (row : Row) (parameters : List Value) (condition : List Binding) : Bool :=
  condition.all fun binding =>
    (row.value binding.column).equals (parameterValue parameters binding.parameter)

def Row.changed (row : Row) (parameters : List Value) (changes : List Binding) : Row :=
  changes.foldl
    (fun row binding => row.set binding.column (parameterValue parameters binding.parameter)) row

def Table.rowOf (table : Table) (parameters : List Value) (values : List Binding) : Row :=
  Row.changed (table.columnNames.map fun column => (column, .null)) parameters values

def OnConflict.isMet (conflict : OnConflict) (new old : Row) : Bool :=
  (old.value conflict.target).equals (new.value conflict.target)

def OnConflict.merge (conflict : OnConflict) (new old : Row) : Row :=
  conflict.replaced.foldl (fun row column => row.set column (new.value column)) old

structure Outcome where
  rows : List Row
  affected : Nat
  database : Database

def insertRow (table : Table) (onConflict : Option OnConflict) (new : Row) (database : Database) :
    Except Breach Outcome := do
  let rows := database table.name
  match onConflict with
  | none => return ⟨[], 1, ← database.store table (rows ++ [new]) [new]⟩
  | some conflict =>
      if rows.any (conflict.isMet new) then
        if let some breach := table.unfitness? [new] then throw breach
        let merged := (rows.filter (conflict.isMet new)).map (conflict.merge new)
        let after := rows.map fun old =>
          if conflict.isMet new old then conflict.merge new old else old
        return ⟨merged, merged.length, ← database.store table after merged⟩
      else return ⟨[new], 1, ← database.store table (rows ++ [new]) [new]⟩

def Statement.execute (tables : List Table) (parameters : List Value) (database : Database) :
    Statement → Except Breach Outcome
  | .insert table _ values onConflict =>
      insertRow table onConflict (table.rowOf parameters values) database
  | .select table condition order =>
      let found := (database table.name).filter (·.meets parameters condition)
      let rows := if order.isEmpty then found else found.mergeSort (Row.isBefore order)
      .ok ⟨rows, rows.length, database⟩
  | .update table changes condition => do
      let rows := database table.name
      let changed :=
        (rows.filter (·.meets parameters condition)).map (·.changed parameters changes)
      let after := rows.map fun row =>
        if row.meets parameters condition then row.changed parameters changes else row
      return ⟨changed, changed.length, ← database.store table after changed⟩
  | .delete table condition =>
      let rows := database table.name
      let kept := rows.filter fun row => !row.meets parameters condition
      .ok ⟨[], rows.length - kept.length, (database.put table kept).withoutOrphans tables⟩

end Larder.Sql
