import Larder.Proofs.Review.Walk

namespace Larder

def Edit.followedBy (earlier later : Edit) : Edit :=
  ⟨later.ingredientId.or earlier.ingredientId, later.quantity.or earlier.quantity,
    later.unit.or earlier.unit⟩

theorem Edit.followedBy_assoc (first second third : Edit) :
    (first.followedBy second).followedBy third = first.followedBy (second.followedBy third) := by
  simp [followedBy, Option.or_assoc]

@[simp] theorem Edit.none_followedBy (edit : Edit) : Edit.none.followedBy edit = edit := by
  simp [followedBy, Edit.none]

@[simp] theorem Edit.followedBy_none (edit : Edit) : edit.followedBy .none = edit := by
  simp [followedBy, Edit.none]

theorem Edit.validate_followedBy {earlier later : Edit} (validEarlier : earlier.validate = .ok ())
    (validLater : later.validate = .ok ()) : (earlier.followedBy later).validate = .ok () := by
  rw [validate_eq_ok_iff] at *
  constructor
  · intro quantity given
    rcases Option.or_eq_some_iff.mp given with there | ⟨_, there⟩
    · exact validLater.1 quantity there
    · exact validEarlier.1 quantity there
  · intro unit given
    rcases Option.or_eq_some_iff.mp given with there | ⟨_, there⟩
    · exact validLater.2 unit there
    · exact validEarlier.2 unit there

namespace Service
open Memory

/-! ## Merging -/

def addEdit (overrides : List Override) (given : Override) : List Override :=
  if overrides.any (·.stagedItemId == given.stagedItemId) then
    replaceFirst (·.stagedItemId == given.stagedItemId)
      (fun earlier => { earlier with edit := earlier.edit.followedBy given.edit }) overrides
  else overrides ++ [given]

def merged (edits : List Override) : List Override :=
  edits.foldl addEdit []

def combined (id : Uuid) : List Override → Edit
  | [] => .none
  | given :: rest =>
      if given.stagedItemId = id then given.edit.followedBy (combined id rest) else combined id rest

theorem overrideOf_addEdit (overrides : List Override) (given : Override) (id : Uuid) :
    (overrideOf (addEdit overrides given) id).getD .none =
      if given.stagedItemId = id then ((overrideOf overrides id).getD .none).followedBy given.edit
      else (overrideOf overrides id).getD .none := by
  unfold addEdit overrideOf
  by_cases same : given.stagedItemId = id
  · subst same
    cases found : overrides.find? (·.stagedItemId == given.stagedItemId) with
    | none =>
        have absent : overrides.any (·.stagedItemId == given.stagedItemId) = false := by
          rw [List.any_eq_false]
          exact List.find?_eq_none.mp found
        simp [absent, List.find?_append, found]
    | some earlier =>
        have there : overrides.any (·.stagedItemId == given.stagedItemId) = true := by
          have picked : (earlier.stagedItemId == given.stagedItemId) = true := by
            simpa using List.find?_some found
          exact List.any_eq_true.mpr ⟨earlier, List.mem_of_find?_eq_some found, picked⟩
        rw [if_pos there, find?_replaceFirst (fun x picked => by simpa using picked), found]
        simp
  · rw [if_neg same]
    split
    · rw [find?_replaceFirst_of_ne]
      intro x picked
      have isTarget : x.stagedItemId = given.stagedItemId := by simpa using picked
      simp [isTarget, same]
    · have unseen : (given.stagedItemId == id) = false := by simpa using same
      simp [List.find?_append, unseen]

theorem overrideOf_foldl_addEdit (overrides edits : List Override) (id : Uuid) :
    (overrideOf (edits.foldl addEdit overrides) id).getD .none =
      ((overrideOf overrides id).getD .none).followedBy (combined id edits) := by
  induction edits generalizing overrides with
  | nil => simp [combined]
  | cons given rest ih =>
      rw [List.foldl_cons, ih, overrideOf_addEdit, combined]
      split
      · rw [Edit.followedBy_assoc]
      · rfl

theorem overrideOf_merged (edits : List Override) (id : Uuid) :
    (overrideOf (merged edits) id).getD .none = combined id edits := by
  unfold merged
  rw [overrideOf_foldl_addEdit]
  exact Edit.none_followedBy _

theorem combined_eq_overrideOf {overrides : List Override}
    (distinct : (overrides.map (·.stagedItemId)).Nodup) (id : Uuid) :
    combined id overrides = (overrideOf overrides id).getD .none := by
  induction overrides with
  | nil => rfl
  | cons given rest ih =>
      rw [List.map_cons, List.nodup_cons] at distinct
      unfold combined
      split
      · rename_i same
        subst same
        have absent : overrideOf rest given.stagedItemId = none := by
          unfold overrideOf
          rw [Option.map_eq_none_iff, List.find?_eq_none]
          intro other member equal
          exact distinct.1 (List.mem_map.mpr ⟨other, member, by simpa using equal⟩)
        rw [ih distinct.2, absent]
        simp [overrideOf]
      · rename_i other
        have unseen : (given.stagedItemId == id) = false := by simpa using other
        rw [ih distinct.2]
        simp [overrideOf, unseen]

/-! ## Acceptance -/

def Acceptable (known : List Uuid) (overrides : List Override) : Prop :=
  (∀ given ∈ overrides, given.edit.validate = .ok () ∧ given.stagedItemId ∈ known) ∧
    (overrides.map (·.stagedItemId)).Nodup

theorem checkOverrides_eq_ok_iff_acceptable {jobId : Uuid} {known : List Uuid}
    {overrides : List Override} :
    checkOverrides jobId known [] 0 overrides = .ok () ↔ Acceptable known overrides := by
  rw [checkOverrides_eq_ok_iff]
  simp [Acceptable]

theorem Acceptable.addEdit {known : List Uuid} {overrides : List Override} {given : Override}
    (acceptable : Acceptable known overrides) (valid : given.edit.validate = .ok ())
    (isKnown : given.stagedItemId ∈ known) : Acceptable known (addEdit overrides given) := by
  unfold Service.addEdit
  split
  · constructor
    · intro other member
      rcases mem_replaceFirst member with kept | ⟨old, there, _, rfl⟩
      · exact acceptable.1 other kept
      · obtain ⟨oldValid, oldKnown⟩ := acceptable.1 old there
        exact ⟨Edit.validate_followedBy oldValid valid, oldKnown⟩
    · have sameItems : (replaceFirst (·.stagedItemId == given.stagedItemId)
          (fun earlier => { earlier with edit := earlier.edit.followedBy given.edit }) overrides).map
            (·.stagedItemId) = overrides.map (·.stagedItemId) := by
        apply map_replaceFirst
        exact fun _ _ => rfl
      rw [sameItems]
      exact acceptable.2
  · rename_i absent
    constructor
    · intro other member
      rcases List.mem_append.mp member with kept | new
      · exact acceptable.1 other kept
      · rw [List.mem_singleton.mp new]
        exact ⟨valid, isKnown⟩
    · rw [List.map_append, List.nodup_append]
      refine ⟨acceptable.2, by simp, ?_⟩
      intro id member last there same
      rw [List.map_singleton, List.mem_singleton] at there
      obtain ⟨other, otherThere, equal⟩ := List.mem_map.mp member
      exact absent (List.any_eq_true.mpr ⟨other, otherThere, by simp [equal, same, there]⟩)

theorem acceptable_merged {known : List Uuid} {edits : List Override}
    (valid : ∀ given ∈ edits, given.edit.validate = .ok () ∧ given.stagedItemId ∈ known) :
    Acceptable known (merged edits) := by
  unfold merged
  have start : Acceptable known [] := by simp [Acceptable]
  -- What has been merged so far is acceptable, which is the invariant of the fold.
  generalize ([] : List Override) = overrides at start ⊢
  induction edits generalizing overrides with
  | nil => exact start
  | cons given rest ih =>
      obtain ⟨⟨first, isKnown⟩, later⟩ := List.forall_mem_cons.mp valid
      exact ih later _ (start.addEdit first isKnown)

/-! ## What an edited item is committed as -/

theorem committedWith_editedItem (item : StagedItem) (earlier later : Edit) (now : Timestamp) :
    committedWith later (editedItem item earlier now) =
      committedWith (earlier.followedBy later) item := by
  have unit : Text.trim (later.unit.getD ((earlier.unit.map Text.trim).getD item.unit)) =
      Text.trim ((later.unit.or earlier.unit).getD item.unit) := by
    cases later.unit with
    | some unit => rfl
    | none =>
        cases earlier.unit with
        | some unit => exact Text.trim_trim unit
        | none => rfl
  have quantity : later.quantity.getD (earlier.quantity.getD item.quantity) =
      (later.quantity.or earlier.quantity).getD item.quantity := by
    cases later.quantity <;> rfl
  simp only [committedWith, editedItem, Commitment.edited, Commitment.ofItem, Edit.followedBy, unit,
    quantity, Option.or_assoc]

def commitments (editOf : Uuid → Edit) (items : List StagedItem) : List (Uuid × Option Stock) :=
  items.map fun item => (item.id, committedWith (editOf item.id) item)

theorem walk_eq_filterMap {overrides : List Override} (distinct : (overrides.map (·.stagedItemId)).Nodup)
    (items : List StagedItem) :
    walk overrides items =
      (commitments (fun id => (overrideOf overrides id).getD .none) items).filterMap (·.2) := by
  unfold walk commitments
  rw [List.filterMap_map]
  exact List.filterMap_congr fun item _ => committed?_eq_committedWith distinct item

theorem leftOut_eq_map {overrides : List Override} (distinct : (overrides.map (·.stagedItemId)).Nodup)
    (items : List StagedItem) :
    leftOut overrides items =
      ((commitments (fun id => (overrideOf overrides id).getD .none) items).filter
        (·.2.isNone)).map (·.1) := by
  unfold leftOut commitments
  rw [List.filter_map, List.map_map]
  congr 1
  apply List.filter_congr
  intro item _
  rw [committed?_eq_committedWith distinct]
  rfl

end Service

end Larder
