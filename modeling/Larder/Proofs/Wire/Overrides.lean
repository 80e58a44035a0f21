import Larder.Proofs.Wire.Values

namespace Larder.Json

inductive IsPlain : Tree → Prop
  | null : IsPlain .null
  | bool (value : Bool) : IsPlain (.bool value)
  | text (value : String) : IsPlain (.text (some value))

theorem IsPlain.isWhole {tree : Tree} (plain : IsPlain tree) : tree.isWhole := by
  cases plain <;> rfl

theorem IsPlain.readable {tree : Tree} (plain : IsPlain tree) (context : Context) :
    ∃ value, Decoder.json context tree = .ok value := by
  cases plain <;> exact ⟨_, rfl⟩

def AreBeside (names : List String) (members : List (Option String × Tree)) : Prop :=
  ∀ member ∈ members, ∃ name, member.1 = some name ∧ name ∉ names ∧ IsPlain member.2

end Larder.Json

namespace Larder
open Json (Yields Legible ReadsBack Tree Context AreBeside)
open Json.Record (Fills Takes)

/-! ## Edits -/

namespace Edit

def fieldNames : List String := ["ingredient_id", "quantity", "unit"]

theorem mem_names_iff {name : String} : name ∈ record.names ↔ name ∈ fieldNames := by
  simp [record, fieldNames, Json.Record.optional, Json.Record.names, or_comm, or_left_comm]

theorem isFresh_record : record.IsFresh := by
  simp [record, Json.Record.optional, Json.Record.IsFresh, Json.Record.names]

theorem mem_members_iff {edit : Edit} {member : String × Json} :
    member ∈ edit.members ↔
      ((∃ id, edit.ingredientId = some id ∧ ("ingredient_id", Json.ofUuid id) = member) ∨
        ∃ x, edit.quantity = some x ∧ ("quantity", Json.ofDouble x) = member) ∨
      ∃ unit, edit.unit = some unit ∧ ("unit", Json.text unit) = member := by
  unfold members
  simp only [List.mem_append, Option.mem_toList, Option.map_eq_some_iff]

theorem legible_members {edit : Edit} (quantity : ∀ x ∈ edit.quantity, ReadsBack x) :
    ∀ member ∈ edit.members, Legible member.2 := by
  intro member listed
  rcases mem_members_iff.mp listed with (⟨id, _, rfl⟩ | ⟨x, given, rfl⟩) | ⟨unit, _, rfl⟩
  · exact .text _
  · have same := quantity x given
    exact same.ofDouble ▸ .real same
  · exact .text _

theorem legible_toJson {edit : Edit} (quantity : ∀ x ∈ edit.quantity, ReadsBack x) : Legible edit.toJson :=
  .object (legible_members quantity)

theorem fills_members {edit : Edit} (quantity : ∀ x ∈ edit.quantity, ReadsBack x) (context : Context) :
    Fills context (Tree.ofMembers edit.members) record edit := by
  have zero : 0 ≤ context.levels := Nat.zero_le _
  have ids : Json.valuesOf "ingredient_id" (Tree.ofMembers edit.members) =
      (edit.ingredientId.map fun id => Tree.text (some id.toText)).toList := by
    obtain ⟨_ | _, _ | _, _ | _⟩ := edit <;> rfl
  have quantities : Json.valuesOf "quantity" (Tree.ofMembers edit.members) =
      (edit.quantity.map fun x => Tree.ofJson (.ofDouble x)).toList := by
    obtain ⟨_ | _, _ | _, _ | _⟩ := edit <;> rfl
  have units : Json.valuesOf "unit" (Tree.ofMembers edit.members) =
      (edit.unit.map fun unit => Tree.text (some unit)).toList := by
    obtain ⟨_ | _, _ | _, _ | _⟩ := edit <;> rfl
  exact .optional (.optional (.optional (.done Edit.mk)
    ids (fun id _ => ⟨nofun, Json.yields_uuid id context zero⟩) rfl)
    quantities (fun x given => ⟨by rw [(quantity x given).ofDouble]; nofun,
      Json.yields_double (quantity x given) context zero⟩) rfl)
    units (fun unit _ => ⟨nofun, Json.yields_text unit context zero⟩) rfl

theorem name_mem {edit : Edit} {member : String × Json} (listed : member ∈ edit.members) :
    member.1 ∈ fieldNames := by
  rcases mem_members_iff.mp listed with (⟨id, _, rfl⟩ | ⟨x, _, rfl⟩) | ⟨unit, _, rfl⟩ <;> simp [fieldNames]

theorem admits_members (edit : Edit) : record.Admits (Tree.ofMembers edit.members) := by
  refine Json.Record.admits_of_names fun name listed => ?_
  rw [Json.ofMembers_eq, List.map_map] at listed
  obtain ⟨member, there, rfl⟩ := List.mem_map.mp listed
  exact List.mem_map_of_mem (mem_names_iff.mpr (name_mem there))

theorem yields_toJson {edit : Edit} (quantity : ∀ x ∈ edit.quantity, ReadsBack x) :
    Yields decode 1 (Tree.ofJson edit.toJson) edit :=
  Json.Record.yields isFresh_record (admits_members edit) fun context _ => fills_members quantity context

variable {context inner : Context} {before after extra : List (Option String × Tree)} {edit : Edit}

theorem isIdle_null (context : Context) (name : String) : record.IsIdle context name .null :=
  ⟨⟨⟨trivial, fun _ => ⟨_, rfl, rfl⟩⟩, fun _ => ⟨_, rfl, rfl⟩⟩, fun _ => ⟨_, rfl, rfl⟩⟩

theorem isForeign_of_areBeside (beside : AreBeside fieldNames extra) : record.IsForeign extra := by
  intro member listed
  obtain ⟨name, named, other, plain⟩ := beside member listed
  exact ⟨name, named, fun field => other (mem_names_iff.mp field), plain.isWhole⟩

theorem decode_leave_out (enters : context.enter = .ok inner) {name : String}
    (decoded : decode context (.object (before ++ (some name, .null) :: after) .closed) = .ok edit) :
    decode context (.object (before ++ after) .closed) = .ok edit := by
  obtain ⟨fills, admits⟩ := (Json.Record.decode_object_iff isFresh_record enters).mp decoded
  exact (Json.Record.decode_object_iff isFresh_record enters).mpr
    ⟨fills.leave_out (isIdle_null inner name), admits.leave_out⟩

theorem decode_put_in (enters : context.enter = .ok inner) (beside : AreBeside fieldNames extra)
    (decoded : decode context (.object (before ++ after) .closed) = .ok edit) :
    decode context (.object (before ++ extra ++ after) .closed) = .ok edit := by
  have foreign := isForeign_of_areBeside beside
  obtain ⟨fills, admits⟩ := (Json.Record.decode_object_iff isFresh_record enters).mp decoded
  exact (Json.Record.decode_object_iff isFresh_record enters).mpr
    ⟨fills.put_in foreign, admits.put_in foreign⟩

end Edit

/-! ## Overrides -/

namespace Override

theorem collect_iff {context : Context} {members : List (Option String × Tree)} {found filled : Option Uuid}
    {others : List (String × Tree)} :
    collect context found members = .ok (filled, others) ↔
      Takes context Json.Decoder.uuid found (Json.valuesOf itemField members) filled ∧
        Json.without itemField members = others.map (fun other => (some other.1, other.2)) ∧
        ∀ other ∈ others, ∃ value, Json.Decoder.json context other.2 = .ok value := by
  induction members generalizing found others with
  | nil =>
      have none : Json.valuesOf itemField [] = [] := rfl
      rw [none, Json.Record.takes_nil_iff]
      constructor
      · intro collected
        cases collected
        exact ⟨rfl, rfl, nofun⟩
      · rintro ⟨rfl, empty, _⟩
        obtain rfl := List.map_eq_nil_iff.mp empty.symm
        rfl
  | cons member members ih =>
      obtain ⟨content, tree⟩ := member
      cases content with
      | none =>
          rw [Json.Record.without_cons_of_ne (by simp)]
          constructor
          · nofun
          · rintro ⟨_, listed, _⟩
            cases others <;> cases listed
      | some name =>
          -- The staged item fills the slot, whatever else there is stays for the edit.
          by_cases own : name = itemField
          · subst own
            rw [Json.Record.without_cons_self, Json.valuesOf_cons_self, Json.Record.takes_cons_iff]
            cases found with
            | some id =>
                constructor
                · nofun
                · rintro ⟨⟨full, _⟩, _⟩
                  cases full
            | none =>
                have step : collect context none ((some itemField, tree) :: members) =
                    (Json.Decoder.uuid context tree >>= fun id => collect context (some id) members) := rfl
                rw [step, Json.bind_eq_ok_iff]
                simp only [ih, Json.Record.takes_some_iff, true_and]
                constructor
                · rintro ⟨id, decoded, ⟨alone, rfl⟩, rest⟩
                  exact ⟨⟨alone, id, decoded, rfl⟩, rest⟩
                · rintro ⟨⟨alone, id, decoded, rfl⟩, rest⟩
                  exact ⟨id, decoded, ⟨alone, rfl⟩, rest⟩
          · have otherName : (some name, tree).1 ≠ some itemField := by simpa using own
            rw [Json.Record.without_cons_of_ne otherName, Json.valuesOf_cons_of_ne otherName]
            have step : collect context found ((some name, tree) :: members) =
                (Json.Decoder.json context tree >>= fun _ => collect context found members >>= fun collected =>
                  .ok (collected.1, (name, tree) :: collected.2)) := by
              rw [collect.eq_def]
              exact if_neg (by simpa using own)
            rw [step, Json.bind_eq_ok_iff]
            constructor
            · rintro ⟨value, decoded, continued⟩
              obtain ⟨⟨last, rest⟩, collected, same⟩ := Json.bind_eq_ok_iff.mp continued
              obtain ⟨rfl, rfl⟩ := Prod.mk.inj (Except.ok.inj same)
              obtain ⟨takes, listed, each⟩ := ih.mp collected
              exact ⟨takes, congrArg _ listed, List.forall_mem_cons.mpr ⟨⟨value, decoded⟩, each⟩⟩
            · rintro ⟨takes, listed, each⟩
              cases others with
              | nil => cases listed
              | cons other others =>
                  obtain ⟨same, restListed⟩ := List.cons.inj listed
                  obtain ⟨rfl, rfl⟩ : name = other.1 ∧ tree = other.2 := by simpa using same
                  obtain ⟨⟨value, decoded⟩, rest⟩ := List.forall_mem_cons.mp each
                  exact ⟨value, decoded, Json.bind_eq_ok_iff.mpr
                    ⟨(filled, others), ih.mpr ⟨takes, restListed, rest⟩, rfl⟩⟩

/-- What an override admits beside the edit's fields: any values that can be read. -/
def IsAdmitted (context : Context) (member : Option String × Tree) : Prop :=
  member.1 = some itemField ∨
    ∃ name, member.1 = some name ∧ (∃ value, Json.Decoder.json context member.2 = .ok value) ∧
      (name ∈ Edit.record.names ∨ member.2.isWhole)

theorem itemField_not_mem : itemField ∉ Edit.record.names := by
  rw [Edit.mem_names_iff]
  decide

theorem fills_without {context : Context} {members : List (Option String × Tree)} {edit : Edit} :
    Fills context (Json.without itemField members) Edit.record edit ↔
      Fills context members Edit.record edit := by
  have same : ∀ name ∈ Edit.record.names,
      Json.valuesOf name (Json.without itemField members) = Json.valuesOf name members :=
    fun name field => Json.valuesOf_without (ne_of_mem_of_not_mem field itemField_not_mem) members
  exact ⟨.congr fun name field => (same name field).symm, .congr same⟩

theorem exists_named_iff (property : Tree → Prop) {members : List (Option String × Tree)} :
    (∃ others : List (String × Tree), members = others.map (fun other => (some other.1, other.2)) ∧
        ∀ other ∈ others, property other.2) ↔
      ∀ member ∈ members, ∃ name, member.1 = some name ∧ property member.2 := by
  constructor
  · rintro ⟨others, rfl, each⟩
    exact List.forall_mem_map.mpr fun other listed => ⟨other.1, rfl, each other listed⟩
  · intro each
    induction members with
    | nil => exact ⟨[], rfl, nofun⟩
    | cons member members ih =>
        obtain ⟨content, tree⟩ := member
        obtain ⟨⟨name, named, holds⟩, later⟩ := List.forall_mem_cons.mp each
        obtain rfl : content = some name := named
        obtain ⟨others, rfl, rest⟩ := ih later
        exact ⟨(name, tree) :: others, rfl, List.forall_mem_cons.mpr ⟨holds, rest⟩⟩

theorem isAdmitted_iff {context : Context} {members : List (Option String × Tree)} :
    (∀ member ∈ members, IsAdmitted context member) ↔
      (∃ others : List (String × Tree),
        Json.without itemField members = others.map (fun other => (some other.1, other.2)) ∧
        ∀ other ∈ others, ∃ value, Json.Decoder.json context other.2 = .ok value) ∧
      Edit.record.Admits (Json.without itemField members) := by
  rw [exists_named_iff fun tree => ∃ value, Json.Decoder.json context tree = .ok value]
  unfold Json.Record.Admits
  constructor
  · intro admitted
    have others : ∀ member ∈ Json.without itemField members, ∃ name, member.1 = some name ∧
        (∃ value, Json.Decoder.json context member.2 = .ok value) ∧
          (name ∈ Edit.record.names ∨ member.2.isWhole) := by
      intro member there
      obtain ⟨listed, other⟩ := List.mem_filter.mp there
      exact (admitted member listed).resolve_left (by simpa using other)
    exact ⟨fun member there => (others member there).imp fun _ => And.imp_right And.left,
      fun member there => (others member there).imp fun _ => And.imp_right And.right⟩
  · rintro ⟨readable, admits⟩ member listed
    by_cases own : member.1 = some itemField
    · exact .inl own
    · have there : member ∈ Json.without itemField members := List.mem_filter.mpr ⟨listed, by simpa using own⟩
      obtain ⟨name, named, reads⟩ := readable member there
      obtain ⟨same, sameNamed, passes⟩ := admits member there
      obtain rfl := Option.some.inj (named.symm.trans sameNamed)
      exact .inr ⟨name, named, reads, passes⟩

/-- An object is read as an override by the one member that names the staged item, and as an edit by its other
members. -/
theorem decode_iff {context inner : Context} (enters : context.enter = .ok inner)
    {members : List (Option String × Tree)} {given : Override} :
    decode context (.object members .closed) = .ok given ↔
      Takes inner Json.Decoder.uuid none (Json.valuesOf itemField members) (some given.stagedItemId) ∧
        Fills inner members Edit.record given.edit ∧ ∀ member ∈ members, IsAdmitted inner member := by
  have edits {others : List (String × Tree)} {edit : Edit}
      (listed : Json.without itemField members = others.map fun other => (some other.1, other.2)) :
      Edit.decode context (.object (others.map fun other => (some other.1, other.2)) .closed) = .ok edit ↔
        Fills inner members Edit.record edit ∧ Edit.record.Admits (Json.without itemField members) := by
    rw [← listed, ← fills_without]
    exact Json.Record.decode_object_iff Edit.isFresh_record enters
  unfold decode
  dsimp only
  rw [enters, Json.bind_eq_ok_iff, isAdmitted_iff]
  constructor
  · rintro ⟨entered, same, decoded⟩
    obtain rfl := Except.ok.inj same
    obtain ⟨⟨found, others⟩, collected, finished⟩ := Json.bind_eq_ok_iff.mp decoded
    obtain ⟨takes, listed, each⟩ := collect_iff.mp collected
    cases found with
    | none => cases finished
    | some id =>
        obtain ⟨edit, edited, same⟩ := Json.bind_eq_ok_iff.mp finished
        obtain rfl := Except.ok.inj same
        obtain ⟨fills, admits⟩ := (edits listed).mp edited
        exact ⟨takes, fills, ⟨others, listed, each⟩, admits⟩
  · rintro ⟨takes, fills, ⟨others, listed, each⟩, admits⟩
    exact ⟨inner, rfl, Json.bind_eq_ok_iff.mpr ⟨_, collect_iff.mpr ⟨takes, listed, each⟩,
      Json.bind_eq_ok_iff.mpr ⟨given.edit, (edits listed).mpr ⟨fills, admits⟩, rfl⟩⟩⟩

def fieldNames : List String := itemField :: Edit.fieldNames

theorem isAdmitted_members (context : Context) (edit : Edit) :
    ∀ member ∈ Tree.ofMembers edit.members, IsAdmitted context member := by
  rw [Json.ofMembers_eq, List.forall_mem_map]
  intro member listed
  have readable : ∃ value, Json.Decoder.json context (Tree.ofJson member.2) = .ok value := by
    rcases Edit.mem_members_iff.mp listed with (⟨id, _, rfl⟩ | ⟨x, _, rfl⟩) | ⟨unit, _, rfl⟩
    · exact ⟨_, rfl⟩
    · unfold Json.ofDouble
      split <;> exact ⟨_, rfl⟩
    · exact ⟨_, rfl⟩
  exact .inr ⟨member.1, rfl, readable, .inl (Edit.mem_names_iff.mpr (Edit.name_mem listed))⟩

theorem yields_toJson {given : Override} (quantity : ∀ x ∈ given.edit.quantity, ReadsBack x) :
    Yields decode 1 (Tree.ofJson given.toJson) given := by
  intro context deep
  obtain ⟨inner, enters, -⟩ := Json.exists_enter deep
  have others : ∀ member ∈ Tree.ofMembers given.edit.members, member.1 ≠ some itemField := by
    rw [Json.ofMembers_eq, List.forall_mem_map]
    intro member listed same
    exact itemField_not_mem (Edit.mem_names_iff.mpr (Option.some.inj same ▸ Edit.name_mem listed))
  have item :
      Json.valuesOf itemField (Tree.ofMembers ((itemField, .ofUuid given.stagedItemId) :: given.edit.members)) =
        [.text (some given.stagedItemId.toText)] := by
    rw [Tree.ofMembers, Json.valuesOf_cons_self, Json.valuesOf_eq_nil others]
    rfl
  refine (decode_iff enters).mpr
    ⟨?_, ?_, List.forall_mem_cons.mpr ⟨.inl rfl, isAdmitted_members inner given.edit⟩⟩
  · exact item ▸ .value (Json.yields_uuid given.stagedItemId inner (Nat.zero_le _))
  · refine (Edit.fills_members quantity inner).congr fun name field => ?_
    exact Json.valuesOf_cons_of_ne (by simpa using (ne_of_mem_of_not_mem field itemField_not_mem).symm) _

theorem legible_toJson {given : Override} (quantity : ∀ x ∈ given.edit.quantity, ReadsBack x) :
    Legible given.toJson :=
  .object (List.forall_mem_cons.mpr ⟨.text _, Edit.legible_members quantity⟩)

/-! ## Requests -/

theorem legible_requestJson {overrides : List Override}
    (quantities : ∀ given ∈ overrides, ∀ x ∈ given.edit.quantity, ReadsBack x) :
    Legible (requestJson overrides) := by
  have listed : Legible (.list (overrides.map toJson)) :=
    .list (List.forall_mem_map.mpr fun given there => legible_toJson (quantities given there))
  refine .object ?_
  simp only [List.forall_mem_cons, List.not_mem_nil, false_imp_iff, implies_true, and_true]
  exact listed

theorem yields_requestJson {overrides : List Override}
    (quantities : ∀ given ∈ overrides, ∀ x ∈ given.edit.quantity, ReadsBack x) :
    Yields decodeAll 3 (Tree.ofJson (requestJson overrides)) overrides := by
  have listed : Yields (Json.Decoder.list decode) 2 (Tree.ofJson (.list (overrides.map toJson))) overrides := by
    rw [Tree.ofJson, Json.ofItems_eq, List.map_map]
    exact Json.yields_list fun given there => yields_toJson (quantities given there)
  refine Json.Record.yields ?_ (Json.Record.admits_of_names ?_) fun context deep => ?_
  · simp [Json.Record.optional, Json.Record.IsFresh, Json.Record.names]
  · simp [Tree.ofMembers, Json.Record.names, Json.Record.optional]
  · exact .give (.done id) (listed context deep) rfl rfl

/-! ## Members that do not count -/

variable {context inner : Context} {before after extra : List (Option String × Tree)} {given : Override}

theorem decode_leave_out (enters : context.enter = .ok inner) {name : String} (other : name ≠ itemField)
    (decoded : decode context (.object (before ++ (some name, .null) :: after) .closed) = .ok given) :
    decode context (.object (before ++ after) .closed) = .ok given := by
  obtain ⟨takes, fills, admitted⟩ := (decode_iff enters).mp decoded
  have item : Json.valuesOf itemField (before ++ (some name, .null) :: after) =
      Json.valuesOf itemField (before ++ after) := by
    rw [Json.valuesOf_append, Json.valuesOf_append, Json.valuesOf_cons_of_ne (by simpa using other)]
  refine (decode_iff enters).mpr ⟨item ▸ takes, fills.leave_out (Edit.isIdle_null inner name), ?_⟩
  intro member listed
  refine admitted member ((List.Sublist.append_left ?_ before).subset listed)
  exact List.sublist_cons_self _ after

theorem decode_put_in (enters : context.enter = .ok inner) (beside : AreBeside fieldNames extra)
    (decoded : decode context (.object (before ++ after) .closed) = .ok given) :
    decode context (.object (before ++ extra ++ after) .closed) = .ok given := by
  obtain ⟨takes, fills, admitted⟩ := (decode_iff enters).mp decoded
  have none : Json.valuesOf itemField extra = [] := by
    refine Json.valuesOf_eq_nil fun member listed named => ?_
    obtain ⟨name, isNamed, other, -⟩ := beside member listed
    obtain rfl := Option.some.inj (isNamed.symm.trans named)
    exact other List.mem_cons_self
  have item :
      Json.valuesOf itemField (before ++ extra ++ after) = Json.valuesOf itemField (before ++ after) := by
    simp only [Json.valuesOf_append, none, List.append_nil]
  have besideEdit : AreBeside Edit.fieldNames extra := fun member listed =>
    (beside member listed).imp fun _ ⟨named, other, plain⟩ =>
      ⟨named, fun field => other (List.mem_cons_of_mem _ field), plain⟩
  refine (decode_iff enters).mpr
    ⟨item.symm ▸ takes, fills.put_in (Edit.isForeign_of_areBeside besideEdit), fun member listed => ?_⟩
  rw [List.mem_append, List.mem_append] at listed
  rcases listed with (there | there) | there
  · exact admitted member (List.mem_append_left _ there)
  · obtain ⟨name, named, _, plain⟩ := beside member there
    exact .inr ⟨name, named, plain.readable inner, .inr plain.isWhole⟩
  · exact admitted member (List.mem_append_right _ there)

end Override

end Larder
