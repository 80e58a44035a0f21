import Larder.Proofs.Interleaving.Overlap
import Larder.Proofs.Interleaving.Standing

/-!
# Two edits of one item

Two calls edit the same staged item, and each gives values that the other leaves. An edit stores all values of
the item that it has listed, those it leaves as well. If it lists the item after the other one was stored, it
keeps what that one has given. If it lists the item before and stores it afterwards (`Overwrites`), it puts
back what was there, and the other one was acknowledged in vain. Each call lists and stores once
(`Storing`), so which of the two it is can be read off the log.
-/

namespace Larder

open Service

structure Edit.Apart (first second : Edit) : Prop where
  ingredient : first.ingredientId = .none ∨ second.ingredientId = .none
  quantity : first.quantity = .none ∨ second.quantity = .none
  unit : first.unit = .none ∨ second.unit = .none

theorem Edit.Apart.symm {first second : Edit} (apart : first.Apart second) : second.Apart first :=
  ⟨apart.ingredient.symm, apart.quantity.symm, apart.unit.symm⟩

structure StagedItem.Has (item : StagedItem) (edit : Edit) : Prop where
  ingredient : ∀ id, edit.ingredientId = some id → item.ingredientId = some id
  quantity : ∀ quantity, edit.quantity = some quantity → item.quantity = quantity
  unit : ∀ unit, edit.unit = some unit → item.unit = Text.trim unit

namespace StagedItem

variable {item : StagedItem} {values : Commitment} {edit : Edit}

theorem has_of_edited (same : Commitment.ofItem item = values.edited edit) : item.Has edit := by
  constructor
  case ingredient =>
    intro id given
    refine (congrArg Commitment.ingredientId same).trans ?_
    simp [Commitment.edited, given]
  case quantity =>
    intro quantity given
    refine (congrArg Commitment.quantity same).trans ?_
    simp [Commitment.edited, given]
  case unit =>
    intro unit given
    refine (congrArg Commitment.unit same).trans ?_
    simp [Commitment.edited, given]

end StagedItem

theorem Commitment.edited_comm {first second : Edit} (apart : first.Apart second) (values : Commitment) :
    (values.edited first).edited second = (values.edited second).edited first := by
  obtain ⟨ingredient, quantity, unit⟩ := apart
  unfold Commitment.edited
  congr 1
  · rcases ingredient with absent | absent <;> simp [absent]
  · rcases quantity with absent | absent <;> simp [absent]
  · rcases unit with absent | absent <;> simp [absent]

namespace Interleaving

/-! ## What an edit leaves in the log -/

variable {old row : StagedItem} {log : List (Nat × Event)} {i j : Nat} {edit first second : Edit}

def eventsOf (log : List (Nat × Event)) (i : Nat) : List Event :=
  (log.filter (·.1 == i)).map (·.2)

theorem eventsOf_append (log later : List (Nat × Event)) (i : Nat) :
    eventsOf (log ++ later) i = eventsOf log i ++ eventsOf later i := by
  simp [eventsOf]

theorem mem_eventsOf {event : Event} : event ∈ eventsOf log i ↔ (i, event) ∈ log := by
  simp [eventsOf]

theorem exists_of_eventsOf {earlier later : List Event} {event : Event}
    (events : eventsOf log i = earlier ++ event :: later) :
    ∃ before after, log = before ++ (i, event) :: after ∧ eventsOf before i = earlier ∧
      eventsOf after i = later := by
  obtain ⟨own, rest, split, rfl, mapped⟩ := List.map_eq_append_iff.mp events
  obtain ⟨entry, others, rfl, rfl, rfl⟩ := List.map_eq_cons_iff.mp mapped
  obtain ⟨before, rest, rfl, rfl, filtered⟩ := List.filter_eq_append_iff.mp split
  obtain ⟨skipped, after, rfl, none, ofCall, rfl⟩ := List.filter_eq_cons_iff.mp filtered
  obtain rfl : entry.1 = i := eq_of_beq ofCall
  refine ⟨before ++ skipped, after, (List.append_assoc _ _ _).symm, ?_, rfl⟩
  rw [eventsOf_append]
  simp [eventsOf, List.filter_eq_nil_iff.mpr none]

theorem Records.not_inserts {jobId stagedItemId : Uuid} {events : List Event}
    (records : Records jobId stagedItemId edit events row) : ∀ event ∈ events, ¬ Inserts old event.1 := by
  obtain ⟨job, items, seen, now, _, rfl⟩ := records
  simp [Inserts]

def IsListing : Effect → Prop
  | .store (.listStaged _) => True
  | _ => False

theorem stored?_of_not_update {event : Event} (other : ¬ IsUpdate event.1) : stored? old event = none := by
  obtain ⟨effect, answer⟩ := event
  cases effect with
  | store call =>
      cases call with
      | updateStaged item => exact absurd trivial other
      | _ => rfl
  | _ => rfl

/-- Where in the log a call has listed the items once, and stored its edit once after that. -/
structure Storing (old : StagedItem) (edit : Edit) (i : Nat) (log : List (Nat × Event)) where
  listing : List (Nat × Event)
  items : List StagedItem
  between : List (Nat × Event)
  seen : StagedItem
  now : Timestamp
  row : StagedItem
  after : List (Nat × Event)
  found : items.find? (·.id == old.id) = some seen
  split : log = listing ++ (i, ⟨.store (.listStaged old.jobId), .ok items⟩) :: between ++
    (i, ⟨.store (.updateStaged (editedItem seen edit now)), .ok row⟩) :: after
  once : ∀ event ∈ eventsOf listing i ++ eventsOf between i, ¬ IsListing event.1 ∧ ¬ IsUpdate event.1
  last : eventsOf after i = []

theorem Records.storing (records : Records old.jobId old.id edit (eventsOf log i) row) :
    Nonempty (Storing old edit i log) := by
  obtain ⟨job, items, seen, now, found, events⟩ := records
  obtain ⟨before, after, split, past, last⟩ := @exists_of_eventsOf log i [_, _, _] [] _ events
  obtain ⟨listing, between, rfl, first, second⟩ := @exists_of_eventsOf before i [_] [_] _ past
  refine ⟨⟨listing, items, between, seen, now, row, after, found, split, ?_, last⟩⟩
  rw [first, second]
  simp [IsListing, IsUpdate]

/-! ## Two edits -/

section Splits

variable {α : Type} {x y : α} {before after before' after' : List α}

theorem split_cases (split : before ++ x :: after = before' ++ y :: after') :
    (before = before' ∧ x = y ∧ after = after') ∨
      (∃ between, before' = before ++ x :: between ∧ after = between ++ y :: after') ∨
        ∃ between, before = before' ++ y :: between ∧ after' = between ++ x :: after := by
  rcases List.append_eq_append_iff.mp split with ⟨others, rfl, rest⟩ | ⟨others, rfl, rest⟩
  · cases others with
    | nil => exact .inl ⟨(List.append_nil _).symm, List.cons.inj rest⟩
    | cons head between =>
        obtain ⟨rfl, rfl⟩ := List.cons.inj rest
        exact .inr (.inl ⟨between, rfl, rfl⟩)
  · cases others with
    | nil =>
        obtain ⟨same, same'⟩ := List.cons.inj rest
        exact .inl ⟨List.append_nil _, same.symm, same'.symm⟩
    | cons head between =>
        obtain ⟨rfl, rfl⟩ := List.cons.inj rest
        exact .inr (.inr ⟨between, rfl, rfl⟩)

theorem split_order (differs : x ≠ y) (split : before ++ x :: after = before' ++ y :: after') :
    (∃ between, before' = before ++ x :: between ∧ after = between ++ y :: after') ∨
      ∃ between, before = before' ++ y :: between ∧ after' = between ++ x :: after := by
  rcases split_cases split with ⟨_, same, _⟩ | others
  · exact absurd same differs
  · exact others

/-- An element that is the only one of its kind is at one place. -/
theorem split_unique (kind : α → Prop) (split : before ++ x :: after = before' ++ y :: after')
    (isKind : kind y) (none : ∀ z ∈ before ++ after, ¬ kind z) : before = before' ∧ after = after' := by
  rcases split_cases split with ⟨same, _, same'⟩ | ⟨between, rfl, rfl⟩ | ⟨between, rfl, rfl⟩
  · exact ⟨same, same'⟩
  · exact absurd isKind (none y (by simp))
  · exact absurd isKind (none y (by simp))

end Splits

/-- A call lists the items before another one changes an item, and changes one afterwards. -/
def Overwrites (jobId : Uuid) (log : List (Nat × Event)) (j i : Nat) : Prop :=
  ∃ items update update', IsUpdate update.1 ∧ IsUpdate update'.1 ∧
    [(j, ⟨.store (.listStaged jobId), .ok items⟩), (i, update), (j, update')].Sublist log

theorem Overwrites.split {jobId : Uuid} (overwrites : Overwrites jobId log j i) :
    ∃ listing items between update after update',
      log = listing ++ (j, ⟨.store (.listStaged jobId), .ok items⟩) :: between ++ (i, update) :: after ∧
        IsUpdate update.1 ∧ (j, update') ∈ after := by
  obtain ⟨items, update, update', isUpdate, _, within⟩ := overwrites
  obtain ⟨first, rest, rfl, listed, within⟩ := List.cons_sublist_iff.mp within
  obtain ⟨second, third, rfl, changed, last⟩ := List.cons_sublist_iff.mp within
  obtain ⟨listing, between, rfl⟩ := List.append_of_mem listed
  obtain ⟨between', after, rfl⟩ := List.append_of_mem changed
  refine ⟨listing, items, between ++ between', update, after ++ third, update', by simp, isUpdate, ?_⟩
  exact List.mem_append_right _ (List.singleton_sublist.mp last)

structure Merged (old : StagedItem) (log : List (Nat × Event)) (i j : Nat) (first second : Edit)
    (item : StagedItem) : Prop where
  review : item.needsReview = false ↔ item.ingredientId.isSome = true
  kept : ¬ Overwrites old.jobId log j i →
    Commitment.ofItem item = ((Commitment.ofItem old).edited first).edited second
  overwritten : Overwrites old.jobId log j i →
    Commitment.ofItem item = (Commitment.ofItem old).edited second

namespace Storing

variable (storing : Storing old edit i log)

abbrev update : Event :=
  ⟨.store (.updateStaged (editedItem storing.seen edit storing.now)), .ok storing.row⟩

abbrev listed : Event :=
  ⟨.store (.listStaged old.jobId), .ok storing.items⟩

abbrev before : List (Nat × Event) :=
  storing.listing ++ (i, storing.listed) :: storing.between

theorem mem_of_before {entry : Nat × Event} (member : entry ∈ storing.before) : entry ∈ log := by
  rw [storing.split]
  exact List.mem_append_left _ member

theorem mem_of_after {entry : Nat × Event} (member : entry ∈ storing.after) : entry ∈ log := by
  rw [storing.split]
  exact List.mem_append_right _ (List.mem_cons_of_mem _ member)

theorem mem_before_of_listing {entry : Nat × Event} (member : entry ∈ storing.listing) :
    entry ∈ storing.before :=
  List.mem_append_left _ member

theorem not_mem_after (event : Event) : (i, event) ∉ storing.after := by
  intro member
  have none := mem_eventsOf.mpr member
  rw [storing.last] at none
  cases none

theorem not_update_before {event : Event} (member : (i, event) ∈ storing.before) : ¬ IsUpdate event.1 := by
  rcases List.mem_append.mp member with first | later
  · exact (storing.once event (List.mem_append_left _ (mem_eventsOf.mpr first))).2
  · rcases List.mem_cons.mp later with same | later
    · cases same
      exact id
    · exact (storing.once event (List.mem_append_right _ (mem_eventsOf.mpr later))).2

theorem split_of_update {before after : List (Nat × Event)} {event : Event}
    (split : log = before ++ (i, event) :: after) (isUpdate : IsUpdate event.1) :
    storing.before = before ∧ storing.after = after := by
  apply split_unique (fun entry => entry.1 = i ∧ IsUpdate entry.2.1) (storing.split.symm.trans split)
    ⟨rfl, isUpdate⟩
  rintro ⟨call, event⟩ member ⟨ofCall, isUpdate⟩
  obtain rfl : call = i := ofCall
  rcases List.mem_append.mp member with earlier | later
  · exact storing.not_update_before earlier isUpdate
  · exact storing.not_mem_after event later

theorem split_of_listing {before after : List (Nat × Event)} {event : Event}
    (split : log = before ++ (i, event) :: after) (isListing : IsListing event.1) :
    storing.listing = before := by
  have place := storing.split
  rw [List.append_assoc, List.cons_append] at place
  refine (split_unique (fun entry => entry.1 = i ∧ IsListing entry.2.1) (place.symm.trans split)
    ⟨rfl, isListing⟩ ?_).1
  rintro ⟨call, event⟩ member ⟨ofCall, isListing⟩
  obtain rfl : call = i := ofCall
  rcases List.mem_append.mp member with first | later
  · exact (storing.once event (List.mem_append_left _ (mem_eventsOf.mpr first))).1 isListing
  · rcases List.mem_append.mp later with between | later
    · exact (storing.once event (List.mem_append_right _ (mem_eventsOf.mpr between))).1 isListing
    · rcases List.mem_cons.mp later with same | later
      · cases same
        exact isListing
      · exact storing.not_mem_after event later

theorem seen_eq (reported : Reported old log) : storing.seen = standing old storing.listing := by
  have split := storing.split
  rw [List.append_assoc] at split
  have reports := reported _ _ _ split rfl
  rw [storing.found] at reports
  exact Option.some.inj reports

theorem row_eq (reported : Reported old log) (same : Memory.sameStaged old storing.seen = true) :
    storing.row =
      Memory.editedRow (editedItem storing.seen edit storing.now) (standing old storing.before) :=
  reported _ _ _ storing.split same

theorem standing_eq (same : Memory.sameStaged old storing.seen = true) {later : List (Nat × Event)}
    (untouched : Untouched old later) :
    standing old (storing.before ++ (i, storing.update) :: later) = storing.row :=
  standing_append_cons (if_pos same) untouched

structure InOrder (one : Storing old first i log) (other : Storing old second j log)
    (between : List (Nat × Event)) : Prop where
  before : other.before = one.before ++ (i, one.update) :: between
  after : one.after = between ++ (j, other.update) :: other.after

variable {one : Storing old first i log} {other : Storing old second j log} {between : List (Nat × Event)}

theorem inOrder_or (differs : i ≠ j) (one : Storing old first i log) (other : Storing old second j log) :
    (∃ between, InOrder one other between) ∨ ∃ between, InOrder other one between := by
  have apart : (i, one.update) ≠ (j, other.update) := fun same => differs (congrArg Prod.fst same)
  rcases split_order apart (one.split.symm.trans other.split) with
    ⟨between, before, after⟩ | ⟨between, before, after⟩
  · exact .inl ⟨between, before, after⟩
  · exact .inr ⟨between, before, after⟩

theorem InOrder.untouched (order : InOrder one other between)
    (others : ∀ entry ∈ log, entry.1 ≠ i → entry.1 ≠ j → stored? old entry.2 = none) :
    Untouched old one.before ∧ Untouched old between ∧ Untouched old other.after := by
  have untouched {part : List (Nat × Event)} (within : ∀ entry ∈ part, entry ∈ log)
      (ofOne : ∀ event, (i, event) ∈ part → stored? old event = none)
      (ofOther : ∀ event, (j, event) ∈ part → stored? old event = none) : Untouched old part := by
    rintro ⟨k, event⟩ member
    by_cases isOne : k = i
    · subst isOne
      exact ofOne event member
    · by_cases isOther : k = j
      · subst isOther
        exact ofOther event member
      · exact others _ (within _ member) isOne isOther
  have inBefore {entry : Nat × Event} (member : entry ∈ one.before) : entry ∈ other.before := by
    rw [order.before]
    exact List.mem_append_left _ member
  have inBetween {entry : Nat × Event} (member : entry ∈ between) :
      entry ∈ one.after ∧ entry ∈ other.before := by
    rw [order.before, order.after]
    exact ⟨List.mem_append_left _ member, List.mem_append_right _ (List.mem_cons_of_mem _ member)⟩
  have inLast {entry : Nat × Event} (member : entry ∈ other.after) : entry ∈ one.after := by
    rw [order.after]
    exact List.mem_append_right _ (List.mem_cons_of_mem _ member)
  refine ⟨?_, ?_, ?_⟩
  · apply untouched fun entry => one.mem_of_before
    · exact fun event member => stored?_of_not_update (one.not_update_before member)
    · exact fun event member => stored?_of_not_update (other.not_update_before (inBefore member))
  · apply untouched fun entry member => one.mem_of_after (inBetween member).1
    · exact fun event member => absurd (inBetween member).1 (one.not_mem_after event)
    · exact fun event member => stored?_of_not_update (other.not_update_before (inBetween member).2)
  · apply untouched fun entry => other.mem_of_after
    · exact fun event member => absurd (inLast member) (one.not_mem_after event)
    · exact fun event member => absurd member (other.not_mem_after event)

theorem InOrder.not_overwrites (order : InOrder one other between) : ¬ Overwrites old.jobId log i j := by
  intro overwrites
  obtain ⟨listing, items, rest, update, after, update', split, isUpdate, member⟩ := overwrites.split
  obtain ⟨-, rfl⟩ := other.split_of_update split isUpdate
  apply one.not_mem_after update'
  rw [order.after]
  exact List.mem_append_right _ (List.mem_cons_of_mem _ member)

theorem seen_of_overwrites (one : Storing old first i log) (other : Storing old second j log)
    (reported : Reported old log) (before : Untouched old one.before)
    (overwrites : Overwrites old.jobId log j i) : other.seen = old := by
  obtain ⟨listing, items, rest, update, after, update', split, isUpdate, _⟩ := overwrites.split
  obtain ⟨sameBefore, -⟩ := one.split_of_update split isUpdate
  rw [List.append_assoc] at split
  have sameListing := other.split_of_listing split trivial
  rw [other.seen_eq reported]
  refine standing_untouched fun entry member => before entry ?_
  rw [sameBefore, ← sameListing]
  exact List.mem_append_left _ member

theorem InOrder.seen_of_not_overwrites (order : InOrder one other between) (differs : i ≠ j)
    (reported : Reported old log) (after : Untouched old between)
    (same : Memory.sameStaged old one.seen = true) (apart : ¬ Overwrites old.jobId log j i) :
    other.seen = one.row := by
  have others : (i, one.update) ≠ (j, other.listed) := fun both => differs (congrArg Prod.fst both)
  rcases split_order others order.before.symm with ⟨part, listing, split⟩ | ⟨part, split, _⟩
  · rw [other.seen_eq reported, listing]
    refine one.standing_eq same fun entry member => after entry ?_
    rw [split]
    exact List.mem_append_left _ member
  · have lists : [(j, other.listed)].Sublist one.before := by
      rw [split]
      exact List.singleton_sublist.mpr (List.mem_append_right _ List.mem_cons_self)
    have stores : [(j, other.listed), (i, one.update)].Sublist other.before := by
      rw [order.before]
      exact lists.append (List.singleton_sublist.mpr List.mem_cons_self)
    have last : (j, other.update) ∈ (j, other.update) :: other.after := List.mem_cons_self
    have overwrites := stores.append (List.singleton_sublist.mpr last)
    rw [← other.split] at overwrites
    exact absurd ⟨other.items, one.update, other.update, trivial, trivial, overwrites⟩ apart

theorem InOrder.merged (order : InOrder one other between) (differs : i ≠ j) (reported : Reported old log)
    (others : ∀ entry ∈ log, entry.1 ≠ i → entry.1 ≠ j → stored? old entry.2 = none) :
    Merged old log i j first second (standing old log) := by
  obtain ⟨before, after, last⟩ := order.untouched others
  -- Whenever the first edit has listed the item, it is made of what was there before both.
  have oneSeen : one.seen = old := by
    rw [one.seen_eq reported]
    exact standing_untouched fun entry member => before entry (one.mem_before_of_listing member)
  have oneSame : Memory.sameStaged old one.seen = true := by simp [oneSeen, Memory.sameStaged]
  have oneRow := one.row_eq reported oneSame
  rw [oneSeen, standing_untouched before] at oneRow
  have seenOld := seen_of_overwrites one other reported before
  have seenRow := order.seen_of_not_overwrites differs reported after oneSame
  have otherSame : Memory.sameStaged old other.seen = true := by
    by_cases overwrites : Overwrites old.jobId log j i
    · simp [seenOld overwrites, Memory.sameStaged]
    · simp [seenRow overwrites, oneRow, Memory.sameStaged, Memory.editedRow]
  have stands : standing old log = other.row := by
    have stands := other.standing_eq otherSame last
    rwa [← other.split] at stands
  rw [stands, other.row_eq reported otherSame]
  constructor
  case review => simp [Memory.editedRow, editedItem]
  case kept =>
    intro apart
    rw [seenRow apart, oneRow]
    rfl
  case overwritten =>
    intro overwrites
    rw [seenOld overwrites]
    rfl

end Storing

namespace Traffic

variable {settings : IngestSettings} {admits : Request → Prop} {memory : Memory} {traffic : Traffic}

def editing (settings : IngestSettings) (jobId stagedItemId : Uuid) (first second : Edit) (memory : Memory) :
    Traffic :=
  start memory [Request.call settings 0 (.edit jobId stagedItemId first),
    Request.call settings 0 (.edit jobId stagedItemId second)]

def EndsRecorded : (request : Request) → List Event → request.Value → Prop
  | .edit jobId stagedItemId edit, events, result =>
      Operation.Ends (Records jobId stagedItemId edit) (fun _ _ => True) events result
  | _, _, _ => True

theorem Leads.records {jobId stagedItemId : Uuid}
    (leads : Leads settings admits (editing settings jobId stagedItemId first second memory) traffic)
    (returned : traffic.Returns i (.edit jobId stagedItemId edit) (.ok row)) :
    Records jobId stagedItemId edit (traffic.pastOf i) row := by
  have recorded (jobId stagedItemId : Uuid) (edit : Edit) : (editItem jobId stagedItemId edit).Follows
      .recording (Records jobId stagedItemId edit) (fun _ _ => True) [] :=
    editItem_records jobId stagedItemId edit trivial fun _ _ _ _ => trivial
  have conducts : traffic.Conducts .recording [] (IsEditOf jobId) EndsRecorded := by
    apply Leads.conducts leads
    · rw [List.forall_mem_cons, List.forall_mem_singleton]
      exact ⟨fun _ => (recorded _ _ _).run, fun _ => (recorded _ _ _).run⟩
    · intro request effects _ isEdit
      cases request with
      | edit id stagedItemId edit => exact (recorded id stagedItemId edit).run
      | _ => cases isEdit
  have ended := conducts.ended returned rfl
  rwa [Protocol.recording_after] at ended

/-- Two edits that were acknowledged are both kept, unless one of them overwrites the other one. Then the
item has the values of the one that was stored last, and what that one leaves is as it was before both. -/
theorem edits_kept (distinct : (memory.staged.map (·.id)).Nodup) (there : old ∈ memory.staged)
    (apart : first.Apart second)
    (leads : Leads settings admits (editing settings old.jobId old.id first second memory) traffic)
    {row row' : StagedItem} (returned : traffic.Returns 0 (.edit old.jobId old.id first) (.ok row))
    (returned' : traffic.Returns 1 (.edit old.jobId old.id second) (.ok row'))
    (sole : ∀ entry ∈ traffic.log, 2 ≤ entry.1 → ¬ Touches old entry.2.1) :
    ∃ item, traffic.memory.staged.filter (Memory.sameStaged old) = [item] ∧
      (item.needsReview = false ↔ item.ingredientId.isSome = true) ∧
      (¬ Overwrites old.jobId traffic.log 1 0 → ¬ Overwrites old.jobId traffic.log 0 1 →
        Commitment.ofItem item = ((Commitment.ofItem old).edited first).edited second ∧
          item.Has first ∧ item.Has second) ∧
      (Overwrites old.jobId traffic.log 1 0 →
        Commitment.ofItem item = (Commitment.ofItem old).edited second) ∧
      (Overwrites old.jobId traffic.log 0 1 →
        Commitment.ofItem item = (Commitment.ofItem old).edited first) := by
  have records := Leads.records leads returned
  have records' := Leads.records leads returned'
  have alone : memory.staged.filter (Memory.sameStaged old) = [old] := by
    have unique : Memory.AtMostOne (Memory.sameStaged old) memory.staged :=
      Memory.atMostOne_of_nodup distinct fun item picked => (Memory.sameStaged_iff.mp picked).1
    rw [Memory.filter_eq_toList unique, unique.find?_eq_some there (by simp [Memory.sameStaged])]
    rfl
  have never : ∀ entry ∈ traffic.log, ¬ Inserts old entry.2.1 := by
    rintro ⟨k, event⟩ member
    by_cases late : 2 ≤ k
    · exact fun inserts => sole _ member late (touches_of_inserts inserts)
    · obtain rfl | rfl : k = 0 ∨ k = 1 := by omega
      · exact records.not_inserts event (mem_pastOf.mpr member)
      · exact records'.not_inserts event (mem_pastOf.mpr member)
  have others : ∀ entry ∈ traffic.log, entry.1 ≠ 0 → entry.1 ≠ 1 → stored? old entry.2 = none :=
    fun entry member notFirst notSecond => stored?_of_not_touches (sole entry member (by omega))
  obtain ⟨stands, reported⟩ := Leads.reported leads alone never
  obtain ⟨one⟩ := records.storing
  obtain ⟨other⟩ := records'.storing
  have both {item : StagedItem}
      (same : Commitment.ofItem item = ((Commitment.ofItem old).edited first).edited second) :
      item.Has first ∧ item.Has second := by
    refine ⟨?_, StagedItem.has_of_edited same⟩
    rw [Commitment.edited_comm apart] at same
    exact StagedItem.has_of_edited same
  refine ⟨_, stands, ?_⟩
  -- Either call can be the one that stores first, and then it is not the one that overwrites.
  rcases Storing.inOrder_or Nat.zero_ne_one one other with ⟨between, order⟩ | ⟨between, order⟩
  · obtain ⟨review, kept, overwritten⟩ := order.merged Nat.zero_ne_one reported others
    refine ⟨review, fun notSecond _ => ?_, overwritten, fun overwrites => ?_⟩
    · exact ⟨kept notSecond, both (kept notSecond)⟩
    · exact absurd overwrites order.not_overwrites
  · obtain ⟨review, kept, overwritten⟩ := order.merged Nat.one_ne_zero reported
      fun entry member notSecond notFirst => others entry member notFirst notSecond
    refine ⟨review, fun _ notFirst => ?_, fun overwrites => ?_, overwritten⟩
    · have merged := kept notFirst
      rw [Commitment.edited_comm apart.symm] at merged
      exact ⟨merged, both merged⟩
    · exact absurd overwrites order.not_overwrites

/-! ## Buttermilk

One edit makes 3 litres of the 2 litres of milk, and another one makes it buttermilk. -/

namespace Corrections

def buttermilk : Edit := ⟨some ⟨5⟩, none, none⟩

def renamed : StagedItem := editedItem item buttermilk Milk.noon

def both : StagedItem := editedItem changed buttermilk Milk.noon

theorem three_apart : three.Apart buttermilk := ⟨.inl rfl, .inr rfl, .inl rfl⟩

theorem submitted_distinct : (submitted.staged.map (·.id)).Nodup := List.nodup_singleton _

theorem exists_inTurn : ∃ traffic,
    Leads .default (fun _ => True) (editing .default job.id item.id three buttermilk submitted) traffic ∧
    traffic.Returns 0 (.edit job.id item.id three) (.ok changed) ∧
    traffic.Returns 1 (.edit job.id item.id buttermilk) (.ok both) ∧
    (∀ entry ∈ traffic.log, entry.1 < 2) ∧ traffic.log.Pairwise fun earlier later => earlier.1 ≤ later.1 := by
  refine ⟨_,
    .head (@Step.advance _ _ _ 0 _ lookUp _ _ rfl rfl) <|
    .head (@Step.advance _ _ _ 0 _ list _ _ rfl (listed item rfl rfl)) <|
    .head (@Step.advance _ _ _ 0 _ .now _ Milk.noon rfl trivial) <|
    .head (@Step.advance _ _ _ 0 _ (.store (.updateStaged changed)) _ _ rfl rfl) <|
    .head (@Step.advance _ _ _ 1 _ lookUp _ _ rfl rfl) <|
    .head (@Step.advance _ _ _ 1 _ list _ _ rfl (listed changed rfl rfl)) <|
    .head (@Step.advance _ _ _ 1 _ .now _ Milk.noon rfl trivial) <|
    .single (@Step.advance _ _ _ 1 _ (.store (.updateStaged both)) _ _ rfl rfl),
    rfl, rfl, ?_, ?_⟩ <;> simp [editing, start]

theorem exists_race : ∃ traffic,
    Leads .default (fun _ => True) (editing .default job.id item.id three buttermilk submitted) traffic ∧
    traffic.Returns 0 (.edit job.id item.id three) (.ok changed) ∧
    traffic.Returns 1 (.edit job.id item.id buttermilk) (.ok renamed) ∧
    (∀ entry ∈ traffic.log, entry.1 < 2) ∧ Overwrites job.id traffic.log 1 0 ∧
    traffic.memory.staged = [renamed] := by
  refine ⟨_,
    .head (@Step.advance _ _ _ 0 _ lookUp _ _ rfl rfl) <|
    .head (@Step.advance _ _ _ 0 _ list _ _ rfl (listed item rfl rfl)) <|
    .head (@Step.advance _ _ _ 1 _ lookUp _ _ rfl rfl) <|
    .head (@Step.advance _ _ _ 1 _ list _ _ rfl (listed item rfl rfl)) <|
    .head (@Step.advance _ _ _ 0 _ .now _ Milk.noon rfl trivial) <|
    .head (@Step.advance _ _ _ 0 _ (.store (.updateStaged changed)) _ _ rfl rfl) <|
    .head (@Step.advance _ _ _ 1 _ .now _ Milk.noon rfl trivial) <|
    .single (@Step.advance _ _ _ 1 _ (.store (.updateStaged renamed)) _ _ rfl rfl),
    rfl, rfl, ?_, ⟨[item], ⟨.store (.updateStaged changed), .ok changed⟩,
      ⟨.store (.updateStaged renamed), .ok renamed⟩, trivial, trivial, ?_⟩, rfl⟩
  · simp [editing, start]
  · exact .cons _ (.cons _ (.cons _ (.cons_cons _ (.cons _ (.cons_cons _ (.cons _ (.cons_cons _ .slnil)))))))

end Corrections

theorem not_overwrites_of_sorted {log : List (Nat × Event)}
    (sorted : log.Pairwise fun earlier later => earlier.1 ≤ later.1) {jobId : Uuid} (differs : i ≠ j) :
    ¬ Overwrites jobId log j i := by
  rintro ⟨items, update, update', _, _, within⟩
  have ordered : j ≤ i ∧ i ≤ j := by simpa using sorted.sublist within
  omega

open Corrections in
theorem edits_kept_inTurn : ∃ traffic,
    (submitted.staged.map (·.id)).Nodup ∧ item ∈ submitted.staged ∧ three.Apart buttermilk ∧
    Leads .default (fun _ => True) (editing .default item.jobId item.id three buttermilk submitted) traffic ∧
    traffic.Returns 0 (.edit item.jobId item.id three) (.ok changed) ∧
    traffic.Returns 1 (.edit item.jobId item.id buttermilk) (.ok both) ∧
    (∀ entry ∈ traffic.log, 2 ≤ entry.1 → ¬ Touches item entry.2.1) ∧
    ∃ row, traffic.memory.staged.filter (Memory.sameStaged item) = [row] ∧
      (row.needsReview = false ↔ row.ingredientId.isSome = true) ∧ row.Has three ∧ row.Has buttermilk := by
  obtain ⟨traffic, leads, returned, returned', two, sorted⟩ := exists_inTurn
  have there : item ∈ submitted.staged := List.mem_singleton_self _
  have sole : ∀ entry ∈ traffic.log, 2 ≤ entry.1 → ¬ Touches item entry.2.1 :=
    fun entry member late => absurd (two entry member) (Nat.not_lt.mpr late)
  obtain ⟨row, alone, review, kept, -, -⟩ :=
    edits_kept submitted_distinct there three_apart leads returned returned' sole
  obtain ⟨-, has⟩ := kept (not_overwrites_of_sorted sorted Nat.zero_ne_one)
    (not_overwrites_of_sorted sorted Nat.one_ne_zero)
  exact ⟨traffic, submitted_distinct, there, three_apart, leads, returned, returned', sole,
    row, alone, review, has⟩

open Corrections in
/-- Two edits that list the item before either of them is stored are both acknowledged, and one of them is
lost. -/
theorem edits_overlapped : ∃ traffic,
    (submitted.staged.map (·.id)).Nodup ∧ item ∈ submitted.staged ∧ three.Apart buttermilk ∧
    Leads .default (fun _ => True) (editing .default item.jobId item.id three buttermilk submitted) traffic ∧
    traffic.Returns 0 (.edit item.jobId item.id three) (.ok changed) ∧
    traffic.Returns 1 (.edit item.jobId item.id buttermilk) (.ok renamed) ∧
    (∀ entry ∈ traffic.log, 2 ≤ entry.1 → ¬ Touches item entry.2.1) ∧
    Overwrites item.jobId traffic.log 1 0 ∧
    ¬ ∃ row, traffic.memory.staged.filter (Memory.sameStaged item) = [row] ∧
      row.Has three ∧ row.Has buttermilk := by
  obtain ⟨traffic, leads, returned, returned', two, overwrites, staged⟩ := exists_race
  refine ⟨traffic, submitted_distinct, List.mem_singleton_self _, three_apart, leads, returned, returned',
    fun entry member late => absurd (two entry member) (Nat.not_lt.mpr late), overwrites, ?_⟩
  rintro ⟨row, alone, kept, -⟩
  rw [staged] at alone
  have same : renamed = row := (List.cons.inj alone).1
  have quantity : row.quantity = 3.0 := kept.quantity 3.0 rfl
  rw [← same] at quantity
  exact absurd quantity (by decide)

end Traffic

end Interleaving

end Larder
