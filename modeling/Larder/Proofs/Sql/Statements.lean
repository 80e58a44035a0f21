import Larder.Sql.Database

namespace Larder.Sql

namespace Database

theorem put_self (database : Database) (table : Table) (rows : List Row) :
    database.put table rows table.name = rows := by
  simp [put]

theorem put_of_ne (database : Database) {table : Table} (rows : List Row) {name : String}
    (other : name ≠ table.name) : database.put table rows name = database name := by
  simp [put, other]

theorem withoutOrphans_eq_self {tables : List Table} {database : Database}
    (owned : ∀ table ∈ tables, ∀ row ∈ database table.name,
      table.columns.all (·.isOwned database row) = true) : database.withoutOrphans tables = database := by
  unfold withoutOrphans
  induction tables with
  | nil => rfl
  | cons table rest ih =>
      rw [List.forall_mem_cons] at owned
      have kept : database.put table ((database table.name).filter fun row =>
          table.columns.all (·.isOwned database row)) = database := by
        funext name
        rw [List.filter_eq_self.mpr owned.1, put]
        split
        · rename_i same
          rw [beq_iff_eq.mp same]
        · rfl
      rw [List.foldl_cons, kept]
      exact ih owned.2

end Database

section
variable {α : Type} {row : α → Row} {entries : List α}

theorem filter_rows {test : Row → Bool} {meets : α → Bool} (met : ∀ x, test (row x) = meets x) :
    (entries.map row).filter test = (entries.filter meets).map row := by
  rw [List.filter_map]
  exact congrArg _ (List.filter_congr fun x _ => met x)

variable {test : Row → Bool} {meets : α → Bool} {change' : Row → Row} {change : α → α}

theorem map_filter_rows (met : ∀ x, test (row x) = meets x)
    (changed : ∀ x, change' (row x) = row (change x)) :
    ((entries.map row).filter test).map change' = ((entries.filter meets).map change).map row := by
  rw [filter_rows met, List.map_map, List.map_map]
  exact List.map_congr_left fun x _ => changed x

theorem map_rows (met : ∀ x, test (row x) = meets x) (changed : ∀ x, change' (row x) = row (change x)) :
    (entries.map row).map (fun r => if test r then change' r else r) =
      (entries.map fun x => if meets x then change x else x).map row := by
  rw [List.map_map, List.map_map]
  apply List.map_congr_left
  intro x _
  simp only [Function.comp_apply, met, changed]
  split <;> rfl

theorem append_row (x : α) : entries.map row ++ [row x] = (entries ++ [x]).map row := by
  simp

variable {table : Table} {database : Database} {tables : List Table} {parameters : List Value}
variable {condition : List Binding}

theorem store_of_breach? {rows written : List Row} (fits : table.breach? database rows written = none) :
    database.store table rows written = .ok (database.put table rows) := by
  unfold Database.store
  rw [fits]

theorem execute_select (held : database table.name = entries.map row)
    (met : ∀ x, (row x).meets parameters condition = meets x) :
    (Statement.select table condition []).execute tables parameters database =
      .ok ⟨(entries.filter meets).map row, (entries.filter meets).length, database⟩ := by
  unfold Statement.execute
  dsimp only
  rw [held, filter_rows met, List.isEmpty_nil, if_pos rfl, List.length_map]

theorem execute_select_sorted {order : List String} {before : α → α → Bool}
    (held : database table.name = entries.map row)
    (met : ∀ x, (row x).meets parameters condition = meets x) (ordered : order.isEmpty = false)
    (sorted : ∀ a ∈ entries, ∀ b ∈ entries, before a b = (row a).isBefore order (row b)) :
    (Statement.select table condition order).execute tables parameters database =
      .ok ⟨((entries.filter meets).mergeSort before).map row, (entries.filter meets).length, database⟩ := by
  have listed : ((entries.filter meets).mergeSort before).map row =
      ((entries.filter meets).map row).mergeSort (Row.isBefore order) :=
    List.map_mergeSort fun a there b other =>
      sorted a (List.mem_filter.mp there).1 b (List.mem_filter.mp other).1
  unfold Statement.execute
  dsimp only
  rw [held, filter_rows met, ordered, if_neg Bool.false_ne_true, ← listed, List.length_map,
    List.length_mergeSort]

theorem execute_update {changes : List Binding} (held : database table.name = entries.map row)
    (met : ∀ x, (row x).meets parameters condition = meets x)
    (changed : ∀ x, (row x).changed parameters changes = row (change x))
    (fits : table.breach? database ((entries.map fun x => if meets x then change x else x).map row)
      (((entries.filter meets).map change).map row) = none) :
    (Statement.update table changes condition).execute tables parameters database =
      .ok ⟨((entries.filter meets).map change).map row, (entries.filter meets).length,
        database.put table ((entries.map fun x => if meets x then change x else x).map row)⟩ := by
  unfold Statement.execute
  dsimp only
  rw [held, map_filter_rows met changed, map_rows met changed, store_of_breach? fits, List.length_map,
    List.length_map]
  rfl

theorem execute_delete (held : database table.name = entries.map row)
    (met : ∀ x, (row x).meets parameters condition = meets x) :
    (Statement.delete table condition).execute tables parameters database =
      .ok ⟨[], entries.length - (entries.filter (!meets ·)).length,
        (database.put table ((entries.filter (!meets ·)).map row)).withoutOrphans tables⟩ := by
  have kept : (entries.map row).filter (fun r => !r.meets parameters condition) =
      (entries.filter (!meets ·)).map row :=
    filter_rows fun x => congrArg _ (met x)
  unfold Statement.execute
  dsimp only
  rw [held, kept, List.length_map, List.length_map]

/-! ## Insertions -/

variable {x : α} {conflict : OnConflict}

theorem insertRow_none (held : database table.name = entries.map row)
    (fits : table.breach? database ((entries ++ [x]).map row) [row x] = none) :
    insertRow table none (row x) database =
      .ok ⟨[], 1, database.put table ((entries ++ [x]).map row)⟩ := by
  unfold insertRow
  dsimp only
  rw [held, append_row, store_of_breach? fits]
  rfl

theorem insertRow_refused (held : database table.name = entries.map row)
    (breach : table.breach? database ((entries ++ [x]).map row) [row x] ≠ none) :
    ∃ refusal, insertRow table none (row x) database = .error refusal := by
  obtain ⟨refusal, found⟩ := Option.ne_none_iff_exists'.mp breach
  refine ⟨refusal, ?_⟩
  unfold insertRow Database.store
  dsimp only
  rw [held, append_row, found]
  rfl

theorem insertRow_unmet (held : database table.name = entries.map row)
    (met : ∀ y, conflict.isMet (row x) (row y) = meets y) (nowhere : entries.any meets = false)
    (fits : table.breach? database ((entries ++ [x]).map row) [row x] = none) :
    insertRow table (some conflict) (row x) database =
      .ok ⟨[row x], 1, database.put table ((entries ++ [x]).map row)⟩ := by
  have unmet : (entries.map row).any (conflict.isMet (row x)) = false := by
    rw [List.any_map, ← nowhere]
    exact congrArg _ (funext met)
  unfold insertRow
  dsimp only
  rw [held, unmet, append_row, store_of_breach? fits]
  rfl

theorem insertRow_met (held : database table.name = entries.map row)
    (met : ∀ y, conflict.isMet (row x) (row y) = meets y) (somewhere : entries.any meets = true)
    (merged : ∀ y, conflict.merge (row x) (row y) = row (change y))
    (proposed : table.unfitness? [row x] = none)
    (fits : table.breach? database ((entries.map fun y => if meets y then change y else y).map row)
      (((entries.filter meets).map change).map row) = none) :
    insertRow table (some conflict) (row x) database =
      .ok ⟨((entries.filter meets).map change).map row, (entries.filter meets).length,
        database.put table ((entries.map fun y => if meets y then change y else y).map row)⟩ := by
  have found : (entries.map row).any (conflict.isMet (row x)) = true := by
    rw [List.any_map, ← somewhere]
    exact congrArg _ (funext met)
  unfold insertRow
  dsimp only
  rw [held, found, proposed, map_filter_rows met merged, map_rows met merged, store_of_breach? fits,
    List.length_map, List.length_map]
  rfl

end

end Larder.Sql
