import Larder.Proofs.Store.Listing
import Larder.Proofs.Store.Writes
import Mathlib.Data.Finmap

/-!
# The pantry as a finite map

A store's pantry is a map from ingredients to rows (`Inventory`), whose calls are given by rules
(`Inventory.Step`). A store in memory that starts without rows follows these rules call by call, whatever its
limit for writes (`performAll_refines`), provided that no two writes bring the same id for a new row. As a row
keeps its id and the time it was added, what is listed twice stands in the same order both times.
-/

namespace Larder

/-- The row of each ingredient. If there is a limit, only so many writes go through. -/
structure Inventory where
  rows : Finmap fun _ : Uuid => PantryItem
  attempts : Nat
  limit : Option Nat

namespace Inventory

def empty (limit : Option Nat) : Inventory := ⟨∅, 0, limit⟩

def IsSpent (s : Inventory) : Prop :=
  ∃ limit ∈ s.limit, limit ≤ s.attempts

def merged (row : PantryItem) (w : PantryWrite) : PantryItem :=
  ⟨row.id, row.ingredientId, w.quantity, w.unit, w.expiresAt, row.addedAt, w.now⟩

def first (w : PantryWrite) : PantryItem :=
  ⟨w.itemId, w.ingredientId, w.quantity, w.unit, w.expiresAt, w.now, w.now⟩

def Precedes (a b : PantryItem) : Prop :=
  a.addedAt.compareInstant b.addedAt = .lt ∨
    a.addedAt.compareInstant b.addedAt = .eq ∧ a.id.value.toNat < b.id.value.toNat

inductive Step : Inventory → (call : StoreCall) → call.Answer → Inventory → Prop
  | failed {s : Inventory} (w : PantryWrite) (spent : s.IsSpent) :
      Step s (.upsertItem w) (.error (.backend (.injected "pantry upsert")))
        { s with attempts := s.attempts + 1 }
  | replaced {s : Inventory} {w : PantryWrite} {row : PantryItem} (goes : ¬ s.IsSpent)
      (found : s.rows.lookup w.ingredientId = some row) :
      Step s (.upsertItem w) (.ok (merged row w))
        { s with attempts := s.attempts + 1, rows := s.rows.insert w.ingredientId (merged row w) }
  | added {s : Inventory} {w : PantryWrite} (goes : ¬ s.IsSpent)
      (absent : s.rows.lookup w.ingredientId = none) :
      Step s (.upsertItem w) (.ok (first w))
        { s with attempts := s.attempts + 1, rows := s.rows.insert w.ingredientId (first w) }
  | deleted {s : Inventory} {row : PantryItem} (found : s.rows.lookup row.ingredientId = some row)
      (only : ∀ i other, s.rows.lookup i = some other → other.id = row.id → i = row.ingredientId) :
      Step s (.deleteItem row.id) (.ok ()) { s with rows := s.rows.erase row.ingredientId }
  | missing {s : Inventory} {id : Uuid} (absent : ∀ i row, s.rows.lookup i = some row → row.id ≠ id) :
      Step s (.deleteItem id) (.error (.noPantryItem id)) s
  | cleared (s : Inventory) :
      Step s .deleteAllItems (.ok s.rows.entries.card) { s with rows := ∅ }
  | listed {s : Inventory} {rows : List PantryItem}
      (each : (rows : Multiset PantryItem) = s.rows.entries.map (·.2))
      (ordered : rows.Pairwise Precedes) :
      Step s .listItems (.ok rows) s

end Inventory

namespace StoreCall

def OnPantry : StoreCall → Prop
  | .upsertItem _ | .deleteItem _ | .deleteAllItems | .listItems => True
  | _ => False

def writes : StoreCall → List PantryWrite
  | .upsertItem w => [w]
  | _ => []

end StoreCall

namespace Memory

variable {m : Memory}

theorem precedes_of_pantryOrder {a b : PantryItem} (le : pantryOrder a b = true) (ne : a.id ≠ b.id) :
    Inventory.Precedes a b := by
  rcases (pantryOrder_iff a b).mp le with sooner | ⟨same, le⟩
  · exact .inl sooner
  · exact .inr ⟨same, Uuid.lt_of_le_of_ne le ne⟩

def vacant (limit : Option Nat) : Memory :=
  { empty with failUpsertsAfter := limit }

def performAll (m : Memory) (calls : List StoreCall) : Memory :=
  calls.foldl (fun m call => (m.perform call).2) m

theorem performAll_concat (m : Memory) (calls : List StoreCall) (call : StoreCall) :
    m.performAll (calls ++ [call]) = ((m.performAll calls).perform call).2 := by
  rw [performAll, List.foldl_append]
  rfl

def entries (m : Memory) : List ((_ : Uuid) × PantryItem) :=
  m.pantry.map fun row => ⟨row.ingredientId, row⟩

def inventory (m : Memory) : Inventory :=
  ⟨m.entries.toFinmap, m.upserts, m.failUpsertsAfter⟩

theorem lookup_inventory (m : Memory) (i : Uuid) :
    m.inventory.rows.lookup i = m.pantry.find? (·.ingredientId == i) := by
  unfold inventory entries
  rw [Finmap.dlookup_list_toFinmap]
  induction m.pantry with
  | nil => rfl
  | cons row rest ih =>
      rw [List.map_cons]
      by_cases same : row.ingredientId = i
      · subst same
        have picked : (row :: rest).find? (·.ingredientId == row.ingredientId) = some row :=
          List.find?_cons_of_pos (by simp)
        rw [List.dlookup_cons_eq, picked]
      · have passed : (row :: rest).find? (·.ingredientId == i) = rest.find? (·.ingredientId == i) :=
          List.find?_cons_of_neg (by simpa using same)
        rw [List.dlookup_cons_ne _ _ (Ne.symm same), ih, passed]

theorem nodupKeys_entries (unique : m.OnePerIngredient) : m.entries.NodupKeys := by
  unfold List.NodupKeys List.keys entries
  rw [List.map_map]
  exact unique

theorem entries_inventory (unique : m.OnePerIngredient) : m.inventory.rows.entries = ↑m.entries := by
  have same : m.entries.toFinmap = AList.toFinmap ⟨m.entries, nodupKeys_entries unique⟩ := by
    apply Finmap.ext_lookup
    intro i
    rw [Finmap.dlookup_list_toFinmap, Finmap.lookup_toFinmap]
    rfl
  unfold inventory
  dsimp only
  rw [same, AList.toFinmap_entries]

theorem lookup_eq_some (unique : m.OnePerIngredient) {i : Uuid} {row : PantryItem} :
    m.inventory.rows.lookup i = some row ↔ row ∈ m.pantry ∧ row.ingredientId = i := by
  unfold inventory
  dsimp only
  rw [Finmap.dlookup_list_toFinmap, ← Option.mem_def, List.mem_dlookup_iff (nodupKeys_entries unique)]
  unfold entries
  rw [List.mem_map]
  constructor
  · rintro ⟨x, there, same⟩
    obtain ⟨rfl, same⟩ := Sigma.mk.inj same
    cases same
    exact ⟨there, rfl⟩
  · rintro ⟨there, rfl⟩
    exact ⟨row, there, rfl⟩

theorem isSpent_iff (m : Memory) : m.inventory.IsSpent ↔ m.upsertFails = true := by
  unfold Inventory.IsSpent upsertFails inventory
  cases m.failUpsertsAfter with
  | none => simp
  | some limit =>
      simp only [Option.mem_def, Option.some.injEq, exists_eq_left', decide_eq_true_eq]
      exact Nat.lt_succ_iff.symm

theorem inventory_write (unique : m.OnePerIngredient) {w : PantryWrite} {row : PantryItem}
    (written : (m.upsertItem w).1 = .ok row) :
    (m.write w).inventory = { m.inventory with
      attempts := m.upserts + 1, rows := m.inventory.rows.insert w.ingredientId row } := by
  have rows : (m.write w).inventory.rows = m.inventory.rows.insert w.ingredientId row := by
    apply Finmap.ext_lookup
    intro i
    rw [lookup_inventory, ← List.head?_filter]
    change ((m.write w).rowsOf i).head? = _
    by_cases same : i = w.ingredientId
    · subst same
      rw [(rowsOf_write_self unique written).1, Finmap.lookup_insert, List.head?_singleton]
    · rw [rowsOf_write_of_ne m (Ne.symm same), Finmap.lookup_insert_of_ne _ same, lookup_inventory,
        ← List.head?_filter]
      rfl
  rw [← rows, ← write_upserts m w, inventory, write_failUpsertsAfter]
  rfl

theorem step_upsertItem (unique : m.OnePerIngredient) (w : PantryWrite) :
    Inventory.Step m.inventory (.upsertItem w) (m.upsertItem w).1 (m.write w).inventory := by
  cases fails : m.upsertFails with
  | true =>
      have done : m.upsertItem w =
          (.error (.backend (.injected "pantry upsert")), { m with upserts := m.upserts + 1 }) := by
        unfold upsertItem
        rw [if_pos fails]
      rw [write, done]
      exact .failed w ((isSpent_iff m).mpr fails)
  | false =>
      have goes : ¬ m.inventory.IsSpent := by
        rw [isSpent_iff, fails]
        exact Bool.false_ne_true
      have found := lookup_inventory m w.ingredientId
      cases there : m.pantry.find? (·.ingredientId == w.ingredientId) with
      | some row =>
          have answer : (m.upsertItem w).1 = .ok (row.replaced w) := by simp [upsertItem, fails, there]
          rw [answer, inventory_write unique answer]
          exact .replaced goes (found.trans there)
      | none =>
          have answer : (m.upsertItem w).1 = .ok (.ofWrite w) := by simp [upsertItem, fails, there]
          rw [answer, inventory_write unique answer]
          exact .added goes (found.trans there)

structure Stocked (writes : List PantryWrite) (m : Memory) : Prop where
  unique : m.OnePerIngredient
  ids : (m.pantry.map (·.id)).Nodup
  origins : ∀ row ∈ m.pantry, ∃ w ∈ writes, w.itemId = row.id ∧ w.now = row.addedAt

variable {writes : List PantryWrite}

theorem Stocked.write (stocked : Stocked writes m) {w : PantryWrite}
    (fresh : w.itemId ∉ writes.map (·.itemId)) : Stocked (writes ++ [w]) (m.write w) := by
  have earlier {row : PantryItem} (there : row ∈ m.pantry) :
      ∃ w' ∈ writes ++ [w], w'.itemId = row.id ∧ w'.now = row.addedAt := by
    obtain ⟨w', member, origin⟩ := stocked.origins row there
    exact ⟨w', List.mem_append_left _ member, origin⟩
  have unused : w.itemId ∉ m.pantry.map (·.id) := by
    intro used
    obtain ⟨row, there, sameId⟩ := List.mem_map.mp used
    obtain ⟨w', member, origin, _⟩ := stocked.origins row there
    exact fresh (List.mem_map.mpr ⟨w', member, origin.trans sameId⟩)
  have unique := onePerIngredient_write stocked.unique w
  rcases upsertItem_cases m w with
    ⟨_, done⟩ | ⟨_, before, item, after, split, _, _, done⟩ | ⟨_, _, done⟩
  · refine ⟨unique, ?_, ?_⟩
    · simpa [Memory.write, done] using stocked.ids
    · rw [Memory.write, done]
      exact fun row there => earlier there
  · have sameIds : (before ++ item.replaced w :: after).map (·.id) = m.pantry.map (·.id) := by
      simp [split, PantryItem.replaced]
    refine ⟨unique, ?_, ?_⟩
    · rw [Memory.write, done]
      exact sameIds ▸ stocked.ids
    · rw [Memory.write, done]
      have old := fun row there => @earlier row there
      rw [split] at old
      simp only [List.forall_mem_append, List.forall_mem_cons] at old ⊢
      exact ⟨old.1, old.2.1, old.2.2⟩
  · refine ⟨unique, ?_, ?_⟩
    · have added : (PantryItem.ofWrite w).id = w.itemId := rfl
      rw [Memory.write, done, List.map_append, List.map_singleton, added, ← List.concat_eq_append]
      exact stocked.ids.concat unused
    · rw [Memory.write, done]
      simp only [List.forall_mem_append, List.forall_mem_singleton]
      exact ⟨fun row there => earlier there, w, by simp, rfl, rfl⟩

theorem Stocked.fewer (stocked : Stocked writes m) {rows : List PantryItem} (fewer : rows.Sublist m.pantry) :
    Stocked writes { m with pantry := rows } := by
  constructor
  · exact stocked.unique.sublist (fewer.map _)
  · exact stocked.ids.sublist (fewer.map _)
  · exact fun row there => stocked.origins row (fewer.subset there)

theorem Stocked.mono {more : List PantryWrite} (stocked : Stocked writes m) (subset : writes ⊆ more) :
    Stocked more m where
  unique := stocked.unique
  ids := stocked.ids
  origins row there := (stocked.origins row there).imp fun _ ⟨member, origin⟩ => ⟨subset member, origin⟩

theorem step_deleteItem (stocked : Stocked writes m) (id : Uuid) :
    Inventory.Step m.inventory (.deleteItem id) (m.deleteItem id).1 (m.deleteItem id).2.inventory := by
  have found {i : Uuid} {row : PantryItem} :
      m.inventory.rows.lookup i = some row ↔ row ∈ m.pantry ∧ row.ingredientId = i :=
    lookup_eq_some stocked.unique
  by_cases there : m.pantry.any (·.id == id) = true
  · obtain ⟨row, member, sameId⟩ := List.any_eq_true.mp there
    obtain rfl : row.id = id := by simpa using sameId
    have alone {other : PantryItem} (present : other ∈ m.pantry) (same : other.id = row.id) : other = row :=
      List.inj_on_of_nodup_map stocked.ids present member same
    let rest : Memory := { m with pantry := m.pantry.filter (·.id != row.id) }
    have fewer : rest.OnePerIngredient := (stocked.fewer List.filter_sublist).unique
    have erased : rest.inventory.rows = m.inventory.rows.erase row.ingredientId := by
      apply Finmap.ext_lookup
      intro i
      apply Option.ext
      intro other
      rw [lookup_eq_some fewer, List.mem_filter, bne_iff_ne]
      by_cases same : i = row.ingredientId
      · subst same
        rw [Finmap.lookup_erase]
        refine ⟨fun ⟨⟨present, otherId⟩, sameKey⟩ => ?_, fun none => nomatch none⟩
        have equal : other = row := List.inj_on_of_nodup_map stocked.unique present member sameKey
        exact absurd (congrArg _ equal) otherId
      · rw [Finmap.lookup_erase_ne same, found]
        refine ⟨fun ⟨⟨present, _⟩, key⟩ => ⟨present, key⟩, fun ⟨present, key⟩ => ⟨⟨present, ?_⟩, key⟩⟩
        intro sameId
        rw [alone present sameId] at key
        exact same key.symm
    have done : m.deleteItem row.id = (.ok (), rest) := if_pos there
    have after : rest.inventory = { m.inventory with rows := m.inventory.rows.erase row.ingredientId } :=
      congrArg (fun rows => { m.inventory with rows }) erased
    rw [done, after]
    refine .deleted (found.mpr ⟨member, rfl⟩) ?_
    intro i other looked same
    obtain ⟨present, rfl⟩ := found.mp looked
    rw [alone present same]
  · have done : m.deleteItem id = (.error (.noPantryItem id), m) := if_neg there
    rw [done]
    apply Inventory.Step.missing
    intro i row looked same
    exact there (List.any_eq_true.mpr ⟨row, (found.mp looked).1, by simp [same]⟩)

theorem step_deleteAllItems (unique : m.OnePerIngredient) :
    Inventory.Step m.inventory .deleteAllItems m.deleteAllItems.1 m.deleteAllItems.2.inventory := by
  have count : m.inventory.rows.entries.card = m.pantry.length := by
    rw [entries_inventory unique, Multiset.coe_card, entries, List.length_map]
  unfold deleteAllItems
  rw [← count]
  exact .cleared m.inventory

theorem Stocked.nodup_listed (stocked : Stocked writes m) : (m.listItems.map (·.id)).Nodup :=
  (m.listItems_perm.map _).nodup_iff.mpr stocked.ids

theorem step_listItems (stocked : Stocked writes m) :
    Inventory.Step m.inventory .listItems (.ok m.listItems) m.inventory := by
  apply Inventory.Step.listed
  · rw [entries_inventory stocked.unique, Multiset.map_coe, entries, List.map_map]
    apply Multiset.coe_eq_coe.mpr
    exact m.listItems_perm.trans (List.Perm.of_eq (List.map_id _).symm)
  · have apart := List.pairwise_map.mp stocked.nodup_listed
    apply (m.listItems_sorted.and apart).imp
    rintro a b ⟨before, ne⟩
    exact precedes_of_pantryOrder before ne

theorem step_perform (stocked : Stocked writes m) {call : StoreCall} (onPantry : call.OnPantry) :
    Inventory.Step m.inventory call (m.perform call).1 (m.perform call).2.inventory := by
  cases call with
  | upsertItem w => exact step_upsertItem stocked.unique w
  | deleteItem id => exact step_deleteItem stocked id
  | deleteAllItems => exact step_deleteAllItems stocked.unique
  | listItems => exact step_listItems stocked
  | insertJob | getJob | transition | insertStaged | listStaged | updateStaged => cases onPantry

theorem Stocked.perform (stocked : Stocked writes m) {call : StoreCall} (onPantry : call.OnPantry)
    (fresh : ((writes ++ call.writes).map (·.itemId)).Nodup) :
    Stocked (writes ++ call.writes) (m.perform call).2 := by
  cases call with
  | upsertItem w =>
      rw [List.map_append, List.nodup_append] at fresh
      apply stocked.write
      exact fun used => fresh.2.2 _ used _ (List.mem_singleton_self _) rfl
  | deleteItem id =>
      obtain ⟨rows, fewer, done⟩ := deleteItem_cases m id
      change Stocked (writes ++ []) (m.deleteItem id).2
      rw [done, List.append_nil]
      exact stocked.fewer fewer
  | deleteAllItems =>
      change Stocked (writes ++ []) { m with pantry := [] }
      rw [List.append_nil]
      exact stocked.fewer (List.nil_sublist _)
  | listItems => exact (List.append_nil writes).symm ▸ stocked
  | insertJob | getJob | transition | insertStaged | listStaged | updateStaged => cases onPantry

theorem stocked_performAll {limit : Option Nat} {calls : List StoreCall}
    (onPantry : ∀ call ∈ calls, call.OnPantry)
    (fresh : ((calls.flatMap StoreCall.writes).map (·.itemId)).Nodup) :
    Stocked (calls.flatMap StoreCall.writes) ((vacant limit).performAll calls) := by
  induction calls using List.reverseRecOn with
  | nil => exact ⟨List.nodup_nil, List.nodup_nil, fun row there => nomatch there⟩
  | append_singleton before call ih =>
      rw [List.forall_mem_append, List.forall_mem_singleton] at onPantry
      rw [List.flatMap_append, List.flatMap_singleton] at fresh ⊢
      have earlier := ih onPantry.1 (fresh.sublist ((List.sublist_append_left _ _).map _))
      rw [performAll_concat]
      exact earlier.perform onPantry.2 fresh

theorem Stocked.addedAt_eq (stocked : Stocked writes m) (distinct : (writes.map (·.itemId)).Nodup)
    {w : PantryWrite} (member : w ∈ writes) {row : PantryItem} (there : row ∈ m.pantry)
    (sameId : w.itemId = row.id) : w.now = row.addedAt := by
  obtain ⟨origin, originMember, originId, originTime⟩ := stocked.origins row there
  have same : w = origin := List.inj_on_of_nodup_map distinct member originMember (sameId.trans originId.symm)
  exact same ▸ originTime

/-- The order of a listing, read off the writes that brought the ids. -/
def BroughtBefore (writes : List PantryWrite) (a b : Uuid) : Prop :=
  ∀ v ∈ writes, ∀ w ∈ writes, v.itemId = a → w.itemId = b →
    v.now.compareInstant w.now = .lt ∨ v.now.compareInstant w.now = .eq ∧ a.value.toNat < b.value.toNat

theorem Stocked.broughtBefore (stocked : Stocked writes m) (distinct : (writes.map (·.itemId)).Nodup) :
    (m.listItems.map (·.id)).Pairwise (BroughtBefore writes) := by
  have present {row : PantryItem} : row ∈ m.listItems → row ∈ m.pantry := m.listItems_perm.mem_iff.mp
  apply List.pairwise_map.mpr
  apply (m.listItems_sorted.and (List.pairwise_map.mp stocked.nodup_listed)).imp_of_mem
  rintro a b thereA thereB ⟨before, ne⟩ v memberV w memberW idV idW
  rw [stocked.addedAt_eq distinct memberV (present thereA) idV,
    stocked.addedAt_eq distinct memberW (present thereB) idW]
  exact precedes_of_pantryOrder before ne

theorem BroughtBefore.asymm {a b : Uuid} {v w : PantryWrite} (memberV : v ∈ writes) (memberW : w ∈ writes)
    (idV : v.itemId = a) (idW : w.itemId = b) (before : BroughtBefore writes a b) :
    ¬ BroughtBefore writes b a := by
  intro after
  have forth := before v memberV w memberW idV idW
  have back := after w memberW v memberV idW idV
  have mirrored : w.now.compareInstant v.now = (v.now.compareInstant w.now).swap := by
    unfold Timestamp.compareInstant
    rw [Ordering.swap_then, Std.OrientedOrd.eq_swap, Std.OrientedOrd.eq_swap (a := w.now.nanos)]
  rw [mirrored] at back
  rcases forth with sooner | ⟨same, below⟩
  · simp [sooner] at back
  · simp only [same, Ordering.swap_eq, reduceCtorEq, true_and, false_or] at back
    omega

theorem sameOrder_of_stocked {n : Memory} (distinct : (writes.map (·.itemId)).Nodup)
    (stocked : Stocked writes m) (later : Stocked writes n) :
    (m.listItems.map (·.id)).filter (· ∈ n.listItems.map (·.id)) =
      (n.listItems.map (·.id)).filter (· ∈ m.listItems.map (·.id)) := by
  have origin {k : Memory} (stocked : Stocked writes k) {id : Uuid}
      (listed : id ∈ k.listItems.map (·.id)) : ∃ w ∈ writes, w.itemId = id := by
    obtain ⟨row, there, rfl⟩ := List.mem_map.mp listed
    obtain ⟨w, member, sameId, _⟩ := stocked.origins row (k.listItems_perm.mem_iff.mp there)
    exact ⟨w, member, sameId⟩
  apply List.Perm.eq_of_pairwise
  · intro a b listedA listedB before after
    obtain ⟨v, memberV, idV⟩ := origin stocked (List.mem_of_mem_filter listedA)
    obtain ⟨w, memberW, idW⟩ := origin later (List.mem_of_mem_filter listedB)
    exact absurd after (BroughtBefore.asymm memberV memberW idV idW before)
  · exact (stocked.broughtBefore distinct).filter _
  · exact (later.broughtBefore distinct).filter _
  · apply (List.perm_ext_iff_of_nodup (stocked.nodup_listed.filter _) (later.nodup_listed.filter _)).mpr
    intro id
    simp only [List.mem_filter, decide_eq_true_eq]
    exact and_comm

structure RefinesInventory (m : Memory) (limit : Option Nat) (calls : List StoreCall) : Prop where
  start : m.inventory = .empty limit
  step : ∀ before call, before ++ [call] <+: calls →
    Inventory.Step (m.performAll before).inventory call ((m.performAll before).perform call).1
      (m.performAll (before ++ [call])).inventory
  rows : ∀ before, before <+: calls →
    (m.performAll before).inventory.rows.entries = ↑(m.performAll before).entries
  order : ∀ earlier later, earlier <+: calls → later <+: calls →
    let before := (m.performAll earlier).listItems.map (·.id)
    let after := (m.performAll later).listItems.map (·.id)
    before.filter (· ∈ after) = after.filter (· ∈ before)

theorem performAll_refines (limit : Option Nat) {calls : List StoreCall}
    (onPantry : ∀ call ∈ calls, call.OnPantry)
    (fresh : ((calls.flatMap StoreCall.writes).map (·.itemId)).Nodup) :
    RefinesInventory (vacant limit) limit calls := by
  have stocked {before : List StoreCall} (earlier : before <+: calls) :
      Stocked (calls.flatMap StoreCall.writes) ((vacant limit).performAll before) := by
    have fewer := earlier.sublist.flatMap StoreCall.writes
    have own : Stocked (before.flatMap StoreCall.writes) ((vacant limit).performAll before) :=
      stocked_performAll (fun call member => onPantry call (earlier.subset member))
        (fresh.sublist (fewer.map _))
    exact own.mono fewer.subset
  constructor
  · rfl
  · intro before call earlier
    have onPantry : call.OnPantry := onPantry call (earlier.subset (by simp))
    rw [performAll_concat]
    exact step_perform (stocked ((List.prefix_append before [call]).trans earlier)) onPantry
  · exact fun before earlier => entries_inventory (stocked earlier).unique
  · exact fun earlier later first second => sameOrder_of_stocked fresh (stocked first) (stocked second)

namespace Fridge

def flour : Uuid := ⟨1⟩
def milk : Uuid := ⟨2⟩

def write (itemId ingredientId : Uuid) (quantity : Float) (unit : String) (second : Int) : PantryWrite :=
  ⟨itemId, ingredientId, quantity, unit, none, .ofSeconds second⟩

def calls : List StoreCall :=
  [.upsertItem (write ⟨11⟩ flour 1.0 "kg" 50), .upsertItem (write ⟨12⟩ milk 2.0 "l" 40), .listItems,
    .upsertItem (write ⟨13⟩ flour 500.0 "g" 60), .upsertItem (write ⟨14⟩ milk 1.0 "l" 70),
    .deleteItem ⟨12⟩, .deleteItem ⟨12⟩, .listItems, .deleteAllItems]

end Fridge

open Fridge in
theorem performAll_refines_fridge :
    (∀ call ∈ calls, call.OnPantry) ∧ ((calls.flatMap StoreCall.writes).map (·.itemId)).Nodup ∧
      RefinesInventory (vacant (some 3)) (some 3) calls := by
  have onPantry : ∀ call ∈ calls, call.OnPantry := by simp [calls, StoreCall.OnPantry]
  have fresh : ((calls.flatMap StoreCall.writes).map (·.itemId)).Nodup := by decide
  exact ⟨onPantry, fresh, performAll_refines (some 3) onPantry fresh⟩

end Memory

end Larder
