import Larder.Proofs.Store.Writes

namespace Larder.Memory

def stocks (m : Memory) : List Stock :=
  m.pantry.map (·.stock)

def putStock (stock : Stock) (stocks : List Stock) : List Stock :=
  if stocks.any (·.ingredientId == stock.ingredientId) then
    replaceFirst (·.ingredientId == stock.ingredientId)
      (fun old => { stock with ingredientId := old.ingredientId }) stocks
  else stocks ++ [stock]

theorem stocks_write (m : Memory) (w : PantryWrite) :
    (m.write w).stocks = if m.upsertFails then m.stocks else putStock w.stock m.stocks := by
  have sameKeys : m.stocks.any (·.ingredientId == w.stock.ingredientId) =
      (m.pantry.find? (·.ingredientId == w.ingredientId)).isSome := by
    rw [List.isSome_find?, stocks, List.any_map]
    rfl
  have changed : (replaceFirst (·.ingredientId == w.ingredientId) (·.replaced w) m.pantry).map
      (·.stock) = replaceFirst (·.ingredientId == w.stock.ingredientId)
        (fun old => { w.stock with ingredientId := old.ingredientId }) m.stocks := by
    apply map_replaceFirst_comm
    · exact fun _ => rfl
    · exact fun _ => rfl
  unfold write upsertItem putStock
  rw [sameKeys]
  split
  · rfl
  · cases m.pantry.find? (·.ingredientId == w.ingredientId) with
    | none => simp [stocks, PantryItem.stock_ofWrite]
    | some item => exact changed

/-- The same stocks, and room for the same number of writes. -/
structure SameStocks (m n : Memory) : Prop where
  stocks : m.stocks = n.stocks
  upserts : m.upserts = n.upserts
  failUpsertsAfter : m.failUpsertsAfter = n.failUpsertsAfter

namespace SameStocks

variable {m n : Memory}

theorem admits_iff (same : SameStocks m n) (count : Nat) : m.Admits count ↔ n.Admits count := by
  unfold Admits
  rw [same.upserts, same.failUpsertsAfter]

theorem write (same : SameStocks m n) {w v : PantryWrite} (sameStock : w.stock = v.stock) :
    SameStocks (m.write w) (n.write v) := by
  have sameFailure : m.upsertFails = n.upsertFails := by
    unfold upsertFails
    rw [same.upserts, same.failUpsertsAfter]
  constructor
  · rw [stocks_write, stocks_write, sameFailure, same.stocks, sameStock]
  · rw [write_upserts, write_upserts, same.upserts]
  · rw [write_failUpsertsAfter, write_failUpsertsAfter, same.failUpsertsAfter]

theorem writeAll (same : SameStocks m n) {writes others : List PantryWrite}
    (sameStocks : writes.map (·.stock) = others.map (·.stock)) :
    SameStocks (m.writeAll writes) (n.writeAll others) := by
  induction writes generalizing m n others with
  | nil =>
      obtain rfl : others = [] := List.map_eq_nil_iff.mp sameStocks.symm
      exact same
  | cons w rest ih =>
      cases others with
      | nil => cases sameStocks
      | cons v others =>
          obtain ⟨first, later⟩ := List.cons.inj sameStocks
          exact ih (same.write first) later

end SameStocks

end Larder.Memory
