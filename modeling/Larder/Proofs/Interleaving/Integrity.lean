import Larder.Proofs.Interleaving.Invariant
import Larder.Proofs.Store.Constraints

/-!
# Integrity of a shared store

Whatever is asked of the service, in whatever order the store calls of its tasks come and whatever the
providers answer: as long as no id is made twice, the store stays consistent and keeps every constraint
of the tables (`reachable_consistent`). Uniqueness comes from the count of ids in a sound pool, and all
else from its store being fit.
-/

namespace Larder.Interleaving

variable {settings : IngestSettings}

theorem Pool.Sound.consistent {pool : Pool} {helds : List (Option Uuid)} (sound : pool.Sound helds)
    (distinct : pool.issued.Nodup) : pool.memory.Consistent := by
  have nodup : pool.memory.ids.Nodup := by
    apply Multiset.nodup_of_le _ (Multiset.coe_nodup.mpr distinct)
    exact (Multiset.le_add_right _ _).trans sound.ids
  unfold Memory.ids at nodup
  rw [Multiset.nodup_add, Multiset.nodup_add] at nodup
  obtain ⟨⟨itemIds, jobIds, -⟩, stagedIds, -⟩ := nodup
  constructor
  case ingredientIds => exact sound.fit.onePerIngredient
  case itemIds => exact itemIds
  case jobIds => exact jobIds
  case stagedIds => exact stagedIds
  case owners =>
    intro item member
    obtain ⟨job, found⟩ := Option.isSome_iff_exists.mp (sound.fit.owners item member)
    exact ⟨job, List.mem_of_find?_eq_some found, Memory.job?_id found⟩
  case pantryQuantities =>
    intro row member
    have amount := sound.fit.pantry row member
    exact ⟨amount.finite, amount.notNegative⟩
  case stagedQuantities =>
    intro item member
    have amount := (sound.fit.staged item member).amount
    exact ⟨amount.finite, amount.notNegative⟩
  case confidences => exact fun item member => (sound.fit.staged item member).confidence
  case pantryUnits =>
    intro row member
    have amount := sound.fit.pantry row member
    exact ⟨amount.trimmed, amount.notEmpty⟩
  case stagedUnits =>
    intro item member
    have amount := (sound.fit.staged item member).amount
    exact ⟨amount.trimmed, amount.notEmpty⟩
  case kinds =>
    intro job member
    obtain ⟨kind, isKind⟩ := (sound.fit.jobs job member).kind
    exact ⟨kind, isKind ▸ JobKind.parse_name kind⟩
  case statuses =>
    intro job member
    obtain ⟨status, -, isStatus⟩ := (sound.fit.jobs job member).status
    exact ⟨status, isStatus ▸ JobStatus.parse_name status⟩
  case unresolved => exact fun item member => (sound.fit.staged item member).unresolved

theorem reachable_consistent {failUpsertsAfter : Option Nat} {failStagedInserts : Bool} {pool : Pool}
    (reach : Relation.ReflTransGen (Step settings) (Pool.initial failUpsertsAfter failStagedInserts) pool)
    (distinct : pool.issued.Nodup) :
    pool.memory.Consistent ∧ ∀ table ∈ Store.tables, table.breach? pool.memory.database
      (pool.memory.database table.name) (pool.memory.database table.name) = none := by
  obtain ⟨helds, sound⟩ := sound_of_reachable reach
  have consistent := sound.consistent distinct
  exact ⟨consistent, Memory.breach?_eq_none consistent⟩

/-! Milk is submitted and staged, and then bread is added to the pantry. -/

namespace Milk

def candidate : Candidate := ⟨"2 l of milk", "milk", 2.0, "l", 0.9⟩

def resolution : Resolution := ⟨⟨⟨4⟩, "milk"⟩, 1.0, false⟩

def staged : Job := ⟨⟨1⟩, JobKind.textBlob.name, "milk", JobStatus.staged.name, none, noon, noon⟩

def item : StagedItem :=
  Service.stagedItem Milk.settings.reviewThreshold staged.id candidate (some ⟨4⟩) ⟨2⟩ noon

def bread : Addition :=
  ⟨none, some "00000000-0000-0000-0000-000000000005", 1.0, "piece", none⟩

def loaf : PantryItem := ⟨⟨3⟩, ⟨5⟩, 1.0, "piece", none, noon, noon⟩

theorem exists_stocked : ∃ pool,
    Relation.ReflTransGen (Step Milk.settings) (Pool.initial none false) pool ∧
      pool.issued = [⟨3⟩, ⟨2⟩, ⟨1⟩] ∧ pool.memory.jobs = [staged] ∧ pool.memory.staged = [item] ∧
      pool.memory.pantry = [loaf] := by
  refine ⟨_,
    .head (.start _ (.submit ⟨none, "milk"⟩)) <|
    .head (@Step.perform _ _ [] [] _ .now _ noon rfl (.operation _) trivial) <|
    .head (@Step.perform _ _ [] [] _ (.newId .job) _ ⟨1⟩ rfl (.operation _) trivial) <|
    .head (@Step.perform _ _ [] [] _ (.store _) _ _ rfl (.operation _) rfl) <|
    .head (@Step.perform _ _ [] [] _ (.process _ _) _ () rfl (.operation _) trivial) <|
    .head (@Step.perform _ _ [_] [] _ (.extract _ _) _ (.answered (.ok [candidate])) rfl
      (.processing _ _) trivial) <|
    .head (@Step.perform _ _ [_] [] _ (.resolve _ _) _ (.answered (.ok resolution)) rfl
      (.processing _ _) trivial) <|
    .head (@Step.perform _ _ [_] [] _ .now _ noon rfl (.processing _ _) trivial) <|
    .head (@Step.perform _ _ [_] [] _ (.newId .stagedItem) _ ⟨2⟩ rfl (.processing _ _) trivial) <|
    .head (@Step.perform _ _ [_] [] _ (.store _) _ _ rfl (.processing _ _) rfl) <|
    .head (@Step.perform _ _ [_] [] _ .now _ noon rfl (.processing _ _) trivial) <|
    .head (@Step.perform _ _ [_] [] _ (.store _) _ _ rfl (.processing _ _) rfl) <|
    .head (.start _ (.addItem bread)) <|
    .head (@Step.perform _ _ [_, _] [] _ .now _ noon rfl (.operation _) trivial) <|
    .head (@Step.perform _ _ [_, _] [] _ (.newId .pantryItem) _ ⟨3⟩ rfl (.operation _) trivial) <|
    .single (@Step.perform _ _ [_, _] [] _ (.store _) _ _ rfl (.operation _) rfl),
    rfl, rfl, rfl, rfl⟩

end Milk

open Milk in
theorem reachable_consistent_milk : ∃ pool,
    Relation.ReflTransGen (Step Milk.settings) (Pool.initial none false) pool ∧ pool.issued.Nodup ∧
      pool.memory.jobs = [staged] ∧ pool.memory.staged = [item] ∧ pool.memory.pantry = [loaf] ∧
      pool.memory.Consistent ∧
      ∀ table ∈ Store.tables, table.breach? pool.memory.database (pool.memory.database table.name)
        (pool.memory.database table.name) = none := by
  obtain ⟨pool, reach, issued, jobs, items, rows⟩ := exists_stocked
  have distinct : pool.issued.Nodup := by
    rw [issued]
    decide
  exact ⟨pool, reach, distinct, jobs, items, rows, reachable_consistent reach distinct⟩

end Larder.Interleaving
