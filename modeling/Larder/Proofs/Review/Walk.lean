import Larder.Proofs.Review.Overrides
import Larder.Proofs.Service.Run
import Larder.Proofs.Store.Writes
import Larder.Proofs.Text.Trimming

/-!
# Walks over staged items

A confirmation walks over the items of its job. `Walk` tells what comes of that, item by item, and
`run_writeAll` that running the program is such a walk. From there on a walk is only taken apart by
its rules: its writes are the stocks of the items that have an ingredient, up to the first write that
fails (`Walk.stocks`), its ids are those of the rows (`Walk.ids`), and when no write fails the other
items are left out in order (`Walk.skipped`).
-/

namespace Larder.Service
open Memory

/-- What a staged item is committed as with an edit: of each value the one that the edit gives, or else its own.
The unit is trimmed, and nothing expires. An item without an ingredient is not committed. -/
def committedWith (edit : Edit) (item : StagedItem) : Option Stock :=
  (edit.ingredientId.or item.ingredientId).map fun ingredientId =>
    { ingredientId
      quantity := edit.quantity.getD item.quantity
      unit := Text.trim (edit.unit.getD item.unit)
      expiresAt := none }

/-- What a staged item is committed as: with the edit of the one override that names it, or as it is. -/
def committed? (overrides : List Override) (item : StagedItem) : Option Stock :=
  match overrides.filter (·.stagedItemId = item.id) with
  | [given] => committedWith given.edit item
  | _ => committedWith .none item

def walk (overrides : List Override) (items : List StagedItem) : List Stock :=
  items.filterMap (committed? overrides)

def leftOut (overrides : List Override) (items : List StagedItem) : List Uuid :=
  (items.filter fun item => (committed? overrides item).isNone).map (·.id)

def writeFault : ServiceError :=
  .ofStore (.backend (.injected "pantry upsert"))

inductive Walk (overrides : List Override) :
    Memory → List StagedItem → Written → List PantryWrite → Memory → Prop
  | finished (m : Memory) : Walk overrides m [] ⟨[], [], none⟩ [] m
  | skipping {m after : Memory} {item : StagedItem} {rest : List StagedItem} {written : Written}
      {writes : List PantryWrite} (without : committed? overrides item = none)
      (later : Walk overrides m rest written writes after) :
      Walk overrides m (item :: rest) { written with skipped := item.id :: written.skipped }
        writes after
  | failing {m : Memory} {item : StagedItem} {rest : List StagedItem} {w : PantryWrite}
      (stock : committed? overrides item = some w.stock) (fails : ¬ m.Admits 1) :
      Walk overrides m (item :: rest) ⟨[], [], some writeFault⟩ [w] (m.write w)
  | writing {m after : Memory} {item : StagedItem} {rest : List StagedItem} {written : Written}
      {writes : List PantryWrite} {w : PantryWrite} {row : PantryItem}
      (stock : committed? overrides item = some w.stock) (answer : (m.upsertItem w).1 = .ok row)
      (later : Walk overrides (m.write w) rest written writes after) :
      Walk overrides m (item :: rest) { written with itemIds := row.id :: written.itemIds }
        (w :: writes) after

/-! ## Running -/

theorem exists_committedWith (overrides : List Override) (item : StagedItem) :
    ∃ edit, committed? overrides item = committedWith edit item := by
  unfold committed?
  split
  · exact ⟨_, rfl⟩
  · exact ⟨_, rfl⟩

theorem committed?_of_only {overrides : List Override} {item : StagedItem} {edit : Edit}
    (only : OnlyOverride overrides item.id edit) : committed? overrides item = committedWith edit item := by
  obtain ⟨front, rear, rfl, others⟩ := only
  obtain ⟨inFront, inRear⟩ := List.forall_mem_append.mp others
  have alone : (front ++ ⟨item.id, edit⟩ :: rear).filter (·.stagedItemId = item.id) = [⟨item.id, edit⟩] := by
    have noneInFront : front.filter (·.stagedItemId = item.id) = [] := by simpa using inFront
    have noneInRear : rear.filter (·.stagedItemId = item.id) = [] := by simpa using inRear
    simp [noneInFront, noneInRear]
  unfold committed?
  rw [alone]

theorem committed?_of_unnamed {overrides : List Override} {item : StagedItem}
    (unnamed : ∀ given ∈ overrides, given.stagedItemId ≠ item.id) :
    committed? overrides item = committedWith .none item := by
  have nothing : overrides.filter (·.stagedItemId = item.id) = [] := by simpa using unnamed
  unfold committed?
  rw [nothing]

theorem committed?_nil (item : StagedItem) : committed? [] item =
    item.ingredientId.map fun ingredientId => ⟨ingredientId, item.quantity, Text.trim item.unit, none⟩ := rfl

variable {overrides : List Override}

theorem committed?_eq_committedWith (distinct : (overrides.map (·.stagedItemId)).Nodup) (item : StagedItem) :
    committed? overrides item = committedWith ((overrideOf overrides item.id).getD .none) item := by
  cases given : overrideOf overrides item.id with
  | none => exact committed?_of_unnamed (overrideOf_eq_none_iff.mp given)
  | some edit => exact committed?_of_only ((overrideOf_eq_some_iff distinct).mp given)

theorem committed?_eq (distinct : (overrides.map (·.stagedItemId)).Nodup) (item : StagedItem) :
    let values := (Commitment.ofItem item).apply (overrideOf overrides item.id)
    committed? overrides item = values.ingredientId.map fun ingredientId =>
      ⟨ingredientId, values.quantity, Text.trim values.unit, none⟩ := by
  rw [committed?_eq_committedWith distinct]
  cases overrideOf overrides item.id with
  | none => rfl
  | some edit =>
      obtain ⟨ingredientId, quantity, unit⟩ := edit
      cases unit with
      | none => rfl
      | some unit => simp [committedWith, Commitment.apply, Commitment.edited, Commitment.ofItem]

variable (around : Surroundings)

theorem outcome_writeItem (s : Situation) (ingredientId : Uuid) (quantity : Float) (unit : String)
    (expiresAt : Option Timestamp) :
    ∃ w s', w.stock = ⟨ingredientId, quantity, Text.trim unit, expiresAt⟩ ∧
      (writeItem ingredientId quantity unit expiresAt).outcome around s =
        ((s.memory.upsertItem w).1.mapError .ofStore, s') ∧
      s'.memory = s.memory.write w ∧ published s'.past = published s.past := by
  let now := s.answer around .now
  let timed := s.next around .now
  let id := timed.answer around (.newId .pantryItem)
  let ready := timed.next around (.newId .pantryItem)
  let w : PantryWrite := ⟨id, ingredientId, quantity, Text.trim unit, expiresAt, now⟩
  refine ⟨w, ready.next around (.store (.upsertItem w)), rfl, ?_, rfl, ?_⟩
  · unfold writeItem
    rw [Operation.outcome_bind, Operation.outcome_ask]
    dsimp only
    rw [Operation.outcome_bind, Operation.outcome_ask]
    dsimp only
    rw [Operation.outcome_store]
    rfl
  · simp [ready, timed, Effect.batches]

theorem run_writeAll (distinct : (overrides.map (·.stagedItemId)).Nodup) (items : List StagedItem)
    (s : Situation) :
    ∃ writes, Walk overrides s.memory items ((Service.writeAll overrides items).run around s).1 writes
        ((Service.writeAll overrides items).run around s).2.memory ∧
      published ((Service.writeAll overrides items).run around s).2.past = published s.past := by
  induction items generalizing s with
  | nil => exact ⟨[], .finished s.memory, rfl⟩
  | cons item rest ih =>
      have stock := committed?_eq distinct item
      unfold Service.writeAll
      dsimp only at stock ⊢
      generalize (Commitment.ofItem item).apply (overrideOf overrides item.id) = values at stock ⊢
      obtain ⟨ingredientId, quantity, unit⟩ := values
      cases ingredientId with
      | none =>
          obtain ⟨writes, later, quiet⟩ := ih s
          exact ⟨writes, by simpa using .skipping stock later, by simpa using quiet⟩
      | some ingredientId =>
          obtain ⟨w, s', sameStock, ran, memoryAfter, quietWrite⟩ :=
            outcome_writeItem around s ingredientId quantity unit none
          unfold Operation.outcome at ran
          rw [Option.map_some, ← sameStock] at stock
          simp only [Program.run_bind, ran]
          cases answer : (s.memory.upsertItem w).1 with
          | error fault =>
              obtain ⟨rfl, fails⟩ := upsertItem_error answer
              refine ⟨[w], ?_, by simpa [Except.mapError] using quietWrite⟩
              simpa [Except.mapError, memoryAfter] using .failing stock fails
          | ok row =>
              obtain ⟨writes, later, quiet⟩ := ih s'
              rw [memoryAfter] at later
              refine ⟨w :: writes, ?_, ?_⟩
              · simpa [Except.mapError] using .writing stock answer later
              · simpa [Except.mapError, quietWrite] using quiet

/-! ## What a walk does -/

/-- Those of the stocks to be written that are tried: all up to the first one that fails. -/
def tried (m : Memory) (stocks : List Stock) : List Stock :=
  match m.failUpsertsAfter with
  | none => stocks
  | some limit => stocks.take (limit - m.upserts + 1)

theorem tried_write {m : Memory} (next : m.Admits 1) (w : PantryWrite) (stock : Stock)
    (stocks : List Stock) : tried m (stock :: stocks) = stock :: tried (m.write w) stocks := by
  unfold tried
  rw [write_failUpsertsAfter, write_upserts]
  cases limited : m.failUpsertsAfter with
  | none => rfl
  | some limit =>
      have room := next limit limited
      have count : limit - m.upserts + 1 = (limit - (m.upserts + 1) + 1) + 1 := by omega
      simp only [count, List.take_succ_cons]

theorem tried_fails {m : Memory} (fails : ¬ m.Admits 1) (stock : Stock) (stocks : List Stock) :
    tried m (stock :: stocks) = [stock] := by
  unfold tried
  unfold Admits at fails
  cases limited : m.failUpsertsAfter with
  | none => simp [limited] at fails
  | some limit =>
      have full : limit - m.upserts = 0 := by
        simp only [limited, Option.mem_def, Option.some.injEq, forall_eq'] at fails
        omega
      simp [full]

theorem walk_cons (overrides : List Override) (item : StagedItem) (rest : List StagedItem) :
    walk overrides (item :: rest) =
      (committed? overrides item).toList ++ walk overrides rest := by
  unfold walk
  cases stock : committed? overrides item with
  | none => rw [List.filterMap_cons_none stock]; rfl
  | some stock' => rw [List.filterMap_cons_some stock]; rfl

variable {before after : Memory} {items : List StagedItem}
  {written : Written} {writes : List PantryWrite}

theorem Walk.memory (h : Walk overrides before items written writes after) :
    after = before.writeAll writes := by
  induction h with
  | finished m => rfl
  | skipping without later ih => exact ih
  | failing stock fails => rfl
  | writing stock answer later ih => exact ih

theorem Walk.stocks (h : Walk overrides before items written writes after) :
    writes.map (·.stock) = tried before (walk overrides items) := by
  induction h with
  | finished m =>
      unfold tried walk
      split <;> simp
  | skipping without later ih => rw [ih, walk_cons, without]; rfl
  | failing stock fails =>
      rw [walk_cons, stock]
      exact (tried_fails fails _ _).symm
  | @writing m after item rest written writes w row stock answer later ih =>
      rw [walk_cons, stock]
      exact (congrArg _ ih).trans (tried_write (admits_of_ok answer) w _ _).symm

theorem Walk.fault_eq_none_iff (h : Walk overrides before items written writes after) :
    written.fault = none ↔ before.Admits (walk overrides items).length := by
  induction h with
  | finished m => simp [walk, Admits]
  | skipping without later ih => rw [walk_cons, without]; exact ih
  | failing stock fails =>
      rw [walk_cons, stock]
      simp only [reduceCtorEq, false_iff]
      exact fun within => fails (within.mono (by simp))
  | @writing m after item rest written writes w row stock answer later ih =>
      rw [walk_cons, stock]
      exact ih.trans (admits_write (admits_of_ok answer) w _)

theorem Walk.fault_eq (h : Walk overrides before items written writes after) :
    ∀ fault ∈ written.fault, fault = writeFault := by
  induction h with
  | finished m => simp
  | skipping without later ih => exact ih
  | failing stock fails => simp
  | writing stock answer later ih => exact ih

theorem Walk.skipped (h : Walk overrides before items written writes after)
    (noFault : written.fault = none) : written.skipped = leftOut overrides items := by
  induction h with
  | finished m => rfl
  | skipping without later ih => simp [leftOut, without, ih noFault]
  | failing stock fails => cases noFault
  | writing stock answer later ih => simp [leftOut, stock, ih noFault]

theorem Walk.length (h : Walk overrides before items written writes after) :
    writes.length = written.itemIds.length + written.fault.toList.length := by
  induction h with
  | finished m => rfl
  | skipping without later ih => exact ih
  | failing stock fails => rfl
  | writing stock answer later ih => simp [ih]; omega

theorem Walk.ids (h : Walk overrides before items written writes after)
    (unique : before.OnePerIngredient) :
    List.Forall₂ (fun id w => ∃ row, after.rowsOf w.ingredientId = [row] ∧ row.id = id)
      written.itemIds (writes.take written.itemIds.length) := by
  induction h with
  | finished m => exact .nil
  | skipping without later ih => exact ih unique
  | failing stock fails => exact .nil
  | @writing m after item rest written writes w row stock answer later ih =>
      obtain ⟨left, -, -⟩ := rowsOf_write_self unique answer
      have uniqueThen := onePerIngredient_write unique w
      obtain ⟨last, there, sameId, -⟩ := row_kept uniqueThen writes left
      rw [← later.memory] at there
      exact .cons ⟨last, there, sameId⟩ (ih uniqueThen)

end Larder.Service
