import Larder.Proofs.Review.Commit
import Larder.Proofs.Service.Values
import Mathlib.Order.Nat

namespace Larder

/-! ## The values of an edit -/

structure Edit.Sound (edit : Edit) : Prop where
  quantity : ∀ quantity ∈ edit.quantity, quantity.isFinite = true ∧ 0.0 ≤ quantity
  unit : ∀ unit ∈ edit.unit, Text.trim unit ≠ ""

/-- What is wrong with the values that an edit gives, the quantity before the unit. -/
inductive Edit.Unsound (edit : Edit) : InvalidField → Prop
  | quantity {quantity : Float} (given : edit.quantity = some quantity)
      (rejected : ¬ (quantity.isFinite = true ∧ 0.0 ≤ quantity)) : Unsound edit .stagedQuantity
  | unit {unit : String} (amount : ∀ quantity ∈ edit.quantity, quantity.isFinite = true ∧ 0.0 ≤ quantity)
      (given : edit.unit = some unit) (blank : Text.trim unit = "") : Unsound edit .blankUnit

theorem Edit.validate_eq_ok_iff_sound {edit : Edit} : edit.validate = .ok () ↔ edit.Sound := by
  rw [validate_eq_ok_iff]
  simp only [validateStagedQuantity_eq_ok_iff, validateUnit_eq_ok_iff]
  exact ⟨fun ⟨quantity, unit⟩ => ⟨quantity, unit⟩, fun sound => ⟨sound.quantity, sound.unit⟩⟩

theorem Edit.Unsound.validate_eq {edit : Edit} {fault : InvalidField} (unsound : edit.Unsound fault) :
    edit.validate = .error fault := by
  unfold Edit.validate
  cases unsound with
  | quantity given rejected =>
      rw [given]
      dsimp only
      rw [validateStagedQuantity_eq, if_neg rejected]
      rfl
  | unit amount given blank =>
      rw [given]
      dsimp only
      rw [validateUnit_eq, if_pos blank]
      cases also : edit.quantity with
      | none => rfl
      | some quantity =>
          have accepted := validateStagedQuantity_eq_ok_iff.mpr (amount quantity also)
          dsimp only
          rw [accepted]
          rfl

theorem Edit.sound_or_unsound (edit : Edit) : edit.Sound ∨ ∃ fault, edit.Unsound fault := by
  by_cases amount : ∀ quantity ∈ edit.quantity, quantity.isFinite = true ∧ 0.0 ≤ quantity
  · by_cases unit : ∀ unit ∈ edit.unit, Text.trim unit ≠ ""
    · exact .inl ⟨amount, unit⟩
    · simp only [not_forall, not_not] at unit
      obtain ⟨_, given, blank⟩ := unit
      exact .inr ⟨_, .unit amount given blank⟩
  · rw [not_forall₂] at amount
    obtain ⟨_, given, rejected⟩ := amount
    exact .inr ⟨_, .quantity given rejected⟩

namespace Service

variable {jobId : Uuid} {items : List StagedItem} {overrides before : List Override} {given : Override}
  {fault : ServiceError}

/-! ## One override behind others -/

structure WellFormed (items : List StagedItem) (overrides : List Override) : Prop where
  sound : ∀ given ∈ overrides, given.edit.Sound
  known : ∀ given ∈ overrides, ∃ item ∈ items, item.id = given.stagedItemId
  distinct : overrides.Pairwise fun earlier later => earlier.stagedItemId ≠ later.stagedItemId

structure Fits (items : List StagedItem) (before : List Override) (given : Override) : Prop where
  sound : given.edit.Sound
  known : ∃ item ∈ items, item.id = given.stagedItemId
  fresh : ∀ earlier ∈ before, earlier.stagedItemId ≠ given.stagedItemId

/-- What is said about an override that does not fit behind others: the first thing that is wrong with it. In a
message, its number is that of the overrides before it. -/
inductive Objection (jobId : Uuid) (items : List StagedItem) (before : List Override) (given : Override) :
    ServiceError → Prop
  | value {fault : InvalidField} (unsound : given.edit.Unsound fault) : Objection jobId items before given
      (.invalidRequest ("overrides[" ++ toString before.length ++ "]." ++ fault.message))
  | unknown (sound : given.edit.Sound) (foreign : ∀ item ∈ items, item.id ≠ given.stagedItemId) :
      Objection jobId items before given (.invalidRequest ("Override references staged item " ++
        toString given.stagedItemId ++ ", which is not part of job " ++ toString jobId ++ "."))
  | repeated (sound : given.edit.Sound) (known : ∃ item ∈ items, item.id = given.stagedItemId)
      (taken : ∃ earlier ∈ before, earlier.stagedItemId = given.stagedItemId) :
      Objection jobId items before given (.invalidRequest ("Staged item " ++ toString given.stagedItemId ++
        " is overridden more than once."))

theorem wellFormed_append_singleton :
    WellFormed items (before ++ [given]) ↔ WellFormed items before ∧ Fits items before given := by
  constructor
  · rintro ⟨sound, known, distinct⟩
    rw [List.forall_mem_append, List.forall_mem_singleton] at sound known
    rw [List.pairwise_append] at distinct
    exact ⟨⟨sound.1, known.1, distinct.1⟩, sound.2, known.2, fun earlier member =>
      distinct.2.2 earlier member given List.mem_cons_self⟩
  · rintro ⟨wellFormed, fits⟩
    constructor
    case sound =>
      rw [List.forall_mem_append, List.forall_mem_singleton]
      exact ⟨wellFormed.sound, fits.sound⟩
    case known =>
      rw [List.forall_mem_append, List.forall_mem_singleton]
      exact ⟨wellFormed.known, fits.known⟩
    case distinct =>
      refine List.pairwise_append.mpr ⟨wellFormed.distinct, List.pairwise_singleton _ _, ?_⟩
      intro earlier member later last
      rw [List.mem_singleton.mp last]
      exact fits.fresh earlier member

theorem fits_or_objection (jobId : Uuid) (items : List StagedItem) (before : List Override)
    (given : Override) : Fits items before given ∨ ∃ fault, Objection jobId items before given fault := by
  rcases given.edit.sound_or_unsound with sound | ⟨fault, unsound⟩
  · by_cases known : ∃ item ∈ items, item.id = given.stagedItemId
    · by_cases taken : ∃ earlier ∈ before, earlier.stagedItemId = given.stagedItemId
      · exact .inr ⟨_, .repeated sound known taken⟩
      · exact .inl ⟨sound, known, fun earlier member same => taken ⟨earlier, member, same⟩⟩
    · exact .inr ⟨_, .unknown sound fun item member same => known ⟨item, member, same⟩⟩
  · exact .inr ⟨_, .value unsound⟩

/-! ## The check -/

def checkBehind (jobId : Uuid) (items : List StagedItem) (before overrides : List Override) :
    Except ServiceError Unit :=
  checkOverrides jobId (items.map (·.id)) (before.map (·.stagedItemId)).reverse before.length overrides

theorem checkBehind_of_fits (fits : Fits items before given) (rest : List Override) :
    checkBehind jobId items before (given :: rest) = checkBehind jobId items (before ++ [given]) rest := by
  have isKnown : given.stagedItemId ∈ items.map (·.id) := List.mem_map.mpr fits.known
  have isFresh : given.stagedItemId ∉ before.map (·.stagedItemId) := by
    rw [List.mem_map]
    rintro ⟨earlier, member, same⟩
    exact fits.fresh earlier member same
  unfold checkBehind
  rw [checkOverrides, Edit.validate_eq_ok_iff_sound.mpr fits.sound]
  simp [isKnown, isFresh]

theorem Objection.checkBehind_eq (objection : Objection jobId items before given fault)
    (rest : List Override) : checkBehind jobId items before (given :: rest) = .error fault := by
  unfold checkBehind
  rw [checkOverrides]
  cases objection with
  | value unsound => rw [unsound.validate_eq]
  | unknown sound foreign =>
      have unknown : given.stagedItemId ∉ items.map (·.id) := by
        rw [List.mem_map]
        rintro ⟨item, member, same⟩
        exact foreign item member same
      rw [Edit.validate_eq_ok_iff_sound.mpr sound]
      simp [unknown]
  | repeated sound known taken =>
      have isKnown : given.stagedItemId ∈ items.map (·.id) := List.mem_map.mpr known
      have isTaken : given.stagedItemId ∈ before.map (·.stagedItemId) := List.mem_map.mpr taken
      rw [Edit.validate_eq_ok_iff_sound.mpr sound]
      simp [isKnown, isTaken]

theorem checkBehind_append (wellFormed : WellFormed items before) (rest : List Override) :
    checkBehind jobId items [] (before ++ rest) = checkBehind jobId items before rest := by
  -- The check begins at the front, but what is well-formed grows at the end.
  induction before using List.reverseRecOn generalizing rest with
  | nil => rfl
  | append_singleton before given ih =>
      obtain ⟨wellFormed, fits⟩ := wellFormed_append_singleton.mp wellFormed
      rw [List.append_assoc, ih wellFormed, List.singleton_append, checkBehind_of_fits fits]

theorem checkOverrides_eq_ok_iff_wellFormed (jobId : Uuid) :
    checkOverrides jobId (items.map (·.id)) [] 0 overrides = .ok () ↔ WellFormed items overrides := by
  rw [checkOverrides_eq_ok_iff]
  simp only [Edit.validate_eq_ok_iff_sound, List.mem_map, List.not_mem_nil, not_false_eq_true, and_true,
    List.Nodup, List.pairwise_map]
  constructor
  · rintro ⟨each, distinct⟩
    exact ⟨fun given member => (each given member).1, fun given member => (each given member).2, distinct⟩
  · rintro ⟨sound, known, distinct⟩
    exact ⟨fun given member => ⟨sound given member, known given member⟩, distinct⟩

/-! ## The override at fault -/

def FirstObjection (jobId : Uuid) (items : List StagedItem) (overrides : List Override) (fault : ServiceError) :
    Prop :=
  ∃ index given, overrides[index]? = some given ∧
    IsLeast {n | ¬ WellFormed items (overrides.take (n + 1))} index ∧
    Objection jobId items (overrides.take index) given fault

theorem wellFormed_take_of_isLeast {index : Nat}
    (least : IsLeast {n | ¬ WellFormed items (overrides.take (n + 1))} index) :
    WellFormed items (overrides.take index) := by
  cases index with
  | zero => exact ⟨by simp, by simp, .nil⟩
  | succ earlier =>
      by_contra malformed
      exact absurd (least.2 malformed) (by omega)

theorem FirstObjection.checkOverrides_eq (objection : FirstObjection jobId items overrides fault) :
    checkOverrides jobId (items.map (·.id)) [] 0 overrides = .error fault := by
  obtain ⟨index, given, found, least, objection⟩ := objection
  have split : overrides = overrides.take index ++ given :: overrides.drop (index + 1) := by
    conv_lhs => rw [← List.take_append_drop index overrides, List.drop_eq_getElem?_toList_append, found]
    rfl
  have passes : checkBehind jobId items [] overrides =
      checkBehind jobId items (overrides.take index) (given :: overrides.drop (index + 1)) := by
    conv_lhs => rw [split]
    exact checkBehind_append (wellFormed_take_of_isLeast least) _
  exact passes.trans (objection.checkBehind_eq _)

theorem exists_firstObjection (jobId : Uuid) (malformed : ¬ WellFormed items overrides) :
    ∃ fault, FirstObjection jobId items overrides fault := by
  classical
  -- What is not well-formed as a whole stops being so with one of its overrides.
  have fails : ∃ n, ¬ WellFormed items (overrides.take (n + 1)) :=
    ⟨overrides.length, by rwa [List.take_of_length_le (Nat.le_succ _)]⟩
  have least := Nat.isLeast_find fails
  have longer : ¬ WellFormed items (overrides.take (Nat.find fails + 1)) := Nat.find_spec fails
  rw [List.take_add_one] at longer
  cases found : overrides[Nat.find fails]? with
  | none =>
      rw [found, Option.toList_none, List.append_nil] at longer
      exact absurd (wellFormed_take_of_isLeast least) longer
  | some given =>
      rw [found, Option.toList_some, wellFormed_append_singleton] at longer
      rcases fits_or_objection jobId items (overrides.take (Nat.find fails)) given with
        fits | ⟨fault, objection⟩
      · exact absurd ⟨wellFormed_take_of_isLeast least, fits⟩ longer
      · exact ⟨fault, Nat.find fails, given, found, least, objection⟩

theorem checkOverrides_eq_error_iff : checkOverrides jobId (items.map (·.id)) [] 0 overrides = .error fault ↔
    FirstObjection jobId items overrides fault := by
  refine ⟨fun rejected => ?_, FirstObjection.checkOverrides_eq⟩
  have malformed : ¬ WellFormed items overrides := by
    rw [← checkOverrides_eq_ok_iff_wellFormed jobId, rejected]
    simp
  obtain ⟨other, objection⟩ := exists_firstObjection jobId malformed
  rw [objection.checkOverrides_eq, Except.error.injEq] at rejected
  exact rejected ▸ objection

/-- Which overrides pass the check, what is looked up in those that do, and what is said about the others. -/
theorem checkOverrides_reports (jobId : Uuid) (items : List StagedItem) (overrides : List Override) :
    let checked := checkOverrides jobId (items.map (·.id)) [] 0 overrides
    (checked = .ok () ↔ WellFormed items overrides) ∧
      (checked = .ok () → ∀ id,
        (∀ edit, overrideOf overrides id = some edit ↔ OnlyOverride overrides id edit) ∧
          (overrideOf overrides id = none ↔ ∀ given ∈ overrides, given.stagedItemId ≠ id)) ∧
      ∀ fault, checked = .error fault ↔ FirstObjection jobId items overrides fault := by
  intro checked
  have accepts : checked = .ok () ↔ WellFormed items overrides := checkOverrides_eq_ok_iff_wellFormed jobId
  refine ⟨accepts, fun accepted id => ⟨fun edit => ?_, overrideOf_eq_none_iff⟩, fun fault => ?_⟩
  · exact overrideOf_eq_some_iff (distinct_of_accepted accepted)
  · exact checkOverrides_eq_error_iff

open Kitchen in
theorem checkOverrides_reports_kitchen :
    let given : List Override := [⟨⟨23⟩, ⟨some sugar, some 3.0, some " lb "⟩⟩, ⟨⟨21⟩, ⟨none, some 0.0, none⟩⟩]
    checkOverrides baking.id (memory.staged.map (·.id)) [] 0 given = .ok () ∧
      OnlyOverride given ⟨21⟩ ⟨none, some 0.0, none⟩ ∧ ∀ other ∈ given, other.stagedItemId ≠ ⟨24⟩ := by
  intro given
  have accepted : checkOverrides baking.id (memory.staged.map (·.id)) [] 0 given = .ok () := by rfl
  obtain ⟨-, lookUp, -⟩ := checkOverrides_reports baking.id memory.staged given
  exact ⟨accepted, ((lookUp accepted ⟨21⟩).1 _).mp rfl, (lookUp accepted ⟨24⟩).2.mp rfl⟩

-- The second override repeats an item, and its quantity and its unit are wrong: the quantity is reported.
open Kitchen in
example : checkOverrides baking.id (memory.staged.map (·.id)) [] 0
    [⟨⟨23⟩, ⟨none, some 3.0, none⟩⟩, ⟨⟨23⟩, ⟨none, some (-1.0), some " "⟩⟩, ⟨⟨9⟩, .none⟩] =
    .error (.invalidRequest "overrides[1].quantity must be a finite number zero or greater.") := by
  rfl

end Service

end Larder
