import Larder.Proofs.Json.Reading

/-!
# Records read from objects

A record is read from an object by the names of its members, whatever their order: each of its fields has at
most one member, or else the value that the field has by itself, and a member that no field has the name of
must only be whole (`decode_object_iff`). So a member may be left out that gives its field the value which it
has anyway, and further members may be put in (`Fills.leave_out`, `Fills.put_in`).
-/

namespace Larder.Json

def valuesOf (name : String) (members : List (Option String × Tree)) : List Tree :=
  (members.filter (·.1 == some name)).map (·.2)

def without (name : String) (members : List (Option String × Tree)) : List (Option String × Tree) :=
  members.filter (·.1 != some name)

theorem valuesOf_append (name : String) (before after : List (Option String × Tree)) :
    valuesOf name (before ++ after) = valuesOf name before ++ valuesOf name after := by
  unfold valuesOf
  rw [List.filter_append, List.map_append]

theorem valuesOf_cons_self (name : String) (tree : Tree) (members : List (Option String × Tree)) :
    valuesOf name ((some name, tree) :: members) = tree :: valuesOf name members := by
  simp [valuesOf]

theorem valuesOf_cons_of_ne {name : String} {member : Option String × Tree} (other : member.1 ≠ some name)
    (members : List (Option String × Tree)) : valuesOf name (member :: members) = valuesOf name members := by
  simp [valuesOf, other]

theorem valuesOf_eq_nil {name : String} {members : List (Option String × Tree)}
    (others : ∀ member ∈ members, member.1 ≠ some name) : valuesOf name members = [] := by
  unfold valuesOf
  rw [List.map_eq_nil_iff, List.filter_eq_nil_iff]
  exact fun member listed named => others member listed (beq_iff_eq.mp named)

theorem valuesOf_without {name own : String} (other : name ≠ own) (members : List (Option String × Tree)) :
    valuesOf name (without own members) = valuesOf name members := by
  unfold valuesOf without
  rw [List.filter_filter]
  congr 1
  apply List.filter_congr
  intro member _
  by_cases named : member.1 = some name
  · simp [named, other]
  · simp [named]

namespace Record

def names : {α : Type} → Record α → List String
  | _, .done _ => []
  | _, .field earlier name _ _ _ => name :: earlier.names

def IsFresh : {α : Type} → Record α → Prop
  | _, .done _ => True
  | _, .field earlier name _ _ slot => earlier.IsFresh ∧ name ∉ earlier.names ∧ slot = none

/-- The members give each field one value, or none where the field has one by itself. -/
inductive Fills (context : Context) (members : List (Option String × Tree)) :
    {α : Type} → Record α → α → Prop
  | done {α : Type} (value : α) : Fills context members (.done value) value
  | absent {α β : Type} {earlier : Record (β → α)} {build : β → α} {name : String} {read : Decoder β}
      (value : β) (before : Fills context members earlier build) (none : valuesOf name members = []) :
      Fills context members (.field earlier name read (some value) .none) (build value)
  | given {α β : Type} {earlier : Record (β → α)} {build : β → α} {name : String} {read : Decoder β}
      {absent : Option β} {tree : Tree} {value : β} (before : Fills context members earlier build)
      (only : valuesOf name members = [tree]) (decoded : read context tree = .ok value) :
      Fills context members (.field earlier name read absent .none) (build value)

def Admits {α : Type} (record : Record α) (members : List (Option String × Tree)) : Prop :=
  ∀ member ∈ members, ∃ name, member.1 = some name ∧ (name ∈ record.names ∨ member.2.isWhole)

variable {α β : Type} {context : Context} {members : List (Option String × Tree)}

/-! ## Reading one field -/

inductive Takes (context : Context) (read : Decoder β) : Option β → List Tree → Option β → Prop
  | nothing (slot : Option β) : Takes context read slot [] slot
  | value {tree : Tree} {value : β} (decoded : read context tree = .ok value) :
      Takes context read none [tree] (some value)

theorem takes_nil_iff {read : Decoder β} {slot filled : Option β} :
    Takes context read slot [] filled ↔ filled = slot := by
  constructor
  · rintro ⟨⟩
    rfl
  · rintro rfl
    exact .nothing filled

theorem takes_cons_iff {read : Decoder β} {slot filled : Option β} {tree : Tree} {trees : List Tree} :
    Takes context read slot (tree :: trees) filled ↔
      slot = none ∧ trees = [] ∧ ∃ value, read context tree = .ok value ∧ filled = some value := by
  constructor
  · rintro ⟨⟩
    next value decoded => exact ⟨rfl, rfl, value, decoded, rfl⟩
  · rintro ⟨rfl, rfl, value, decoded, rfl⟩
    exact .value decoded

theorem takes_some_iff {read : Decoder β} {value : β} {filled : Option β} {trees : List Tree} :
    Takes context read (some value) trees filled ↔ trees = [] ∧ filled = some value := by
  constructor
  · rintro ⟨⟩
    exact ⟨rfl, rfl⟩
  · rintro ⟨rfl, rfl⟩
    exact .nothing _

theorem without_cons_self (name : String) (tree : Tree) :
    without name ((some name, tree) :: members) = without name members := by
  simp [without]

theorem without_cons_of_ne {name : String} {member : Option String × Tree} (other : member.1 ≠ some name) :
    without name (member :: members) = member :: without name members := by
  simp [without, other]

theorem visitAll_cons (name : String) (tree : Tree) (record : Record α) :
    visitAll context ((some name, tree) :: members) record =
      match visit context name tree record with
      | some (.ok filled) => visitAll context members filled
      | some (.error fault) => .error fault
      | none => if tree.isWhole then visitAll context members record else .error .malformed :=
  (visitAll.eq_def context _ record).trans rfl

theorem visit_self (earlier : Record (β → α)) (name : String) (read : Decoder β) (absent slot : Option β)
    (tree : Tree) :
    visit context name tree (.field earlier name read absent slot) =
      match slot with
      | some _ => some (.error (.duplicateField name))
      | none => some ((read context tree).map fun value => .field earlier name read absent (some value)) := by
  rw [visit.eq_def]
  exact if_pos (beq_self_eq_true name)

theorem visit_of_ne {given name : String} (other : given ≠ name) (earlier : Record (β → α)) (read : Decoder β)
    (absent slot : Option β) (tree : Tree) :
    visit context given tree (.field earlier name read absent slot) =
      (visit context given tree earlier).map fun outcome =>
        outcome.map fun earlier => .field earlier name read absent slot := by
  rw [visit.eq_def]
  exact if_neg (by simpa using other)

theorem visitAll_field {earlier : Record (β → α)} {name : String} {read : Decoder β} {absent slot : Option β}
    {filled : Record α} :
    visitAll context members (.field earlier name read absent slot) = .ok filled ↔
      ∃ earlierFilled slotFilled, filled = .field earlierFilled name read absent slotFilled ∧
        visitAll context (without name members) earlier = .ok earlierFilled ∧
        Takes context read slot (valuesOf name members) slotFilled := by
  -- A member with the field's name fills the slot, any other one a field before it: both change on the way.
  induction members generalizing earlier slot with
  | nil =>
      have nothing : visitAll context (without name []) earlier = .ok earlier := rfl
      rw [nothing]
      constructor
      · intro visited
        obtain rfl := Except.ok.inj visited
        exact ⟨earlier, slot, rfl, rfl, .nothing slot⟩
      · rintro ⟨_, _, rfl, same, takes⟩
        obtain rfl := Except.ok.inj same
        obtain rfl := takes_nil_iff.mp takes
        rfl
  | cons member members ih =>
      obtain ⟨content, tree⟩ := member
      cases content with
      | none =>
          rw [without_cons_of_ne (by simp)]
          constructor
          · nofun
          · rintro ⟨_, _, _, visited, _⟩
            cases visited
      | some given =>
          by_cases own : given = name
          · subst own
            rw [without_cons_self, valuesOf_cons_self]
            simp only [takes_cons_iff]
            rw [visitAll_cons, visit_self]
            cases slot with
            | some value =>
                constructor
                · nofun
                · rintro ⟨_, _, _, _, full, _⟩
                  cases full
            | none =>
                cases decoded : read context tree with
                | error fault =>
                    constructor
                    · nofun
                    · rintro ⟨_, _, _, _, _, _, _, there, _⟩
                      cases there
                | ok value =>
                    dsimp only [Except.map]
                    simp only [ih, takes_some_iff, Except.ok.injEq, true_and, exists_eq_left']
          · have otherName : (some given, tree).1 ≠ some name := by simpa using own
            rw [without_cons_of_ne otherName, valuesOf_cons_of_ne otherName]
            rw [visitAll_cons, visitAll_cons, visit_of_ne own]
            cases visited : visit context given tree earlier with
            | none =>
                dsimp only [Option.map]
                by_cases whole : tree.isWhole
                · rw [if_pos whole, if_pos whole]
                  exact ih
                · rw [if_neg whole, if_neg whole]
                  constructor
                  · nofun
                  · rintro ⟨_, _, _, visitedAll, _⟩
                    cases visitedAll
            | some outcome =>
                cases outcome with
                | ok earlierFilled => exact ih
                | error fault =>
                    constructor
                    · nofun
                    · rintro ⟨_, _, _, visitedAll, _⟩
                      cases visitedAll

/-! ## Reading all fields -/

theorem visitAll_done {value : α} {filled : Record α} :
    visitAll context members (.done value) = .ok filled ↔
      filled = .done value ∧ (done value).Admits members := by
  induction members with
  | nil =>
      constructor
      · intro visited
        exact ⟨(Except.ok.inj visited).symm, nofun⟩
      · rintro ⟨rfl, _⟩
        rfl
  | cons member members ih =>
      obtain ⟨content, tree⟩ := member
      cases content with
      | none =>
          constructor
          · nofun
          · rintro ⟨_, admits⟩
            obtain ⟨_, named, _⟩ := admits _ List.mem_cons_self
            cases named
      | some name =>
          rw [visitAll_cons]
          dsimp only [visit]
          by_cases whole : tree.isWhole
          · rw [if_pos whole, ih]
            exact and_congr_right fun _ =>
              ⟨fun admits => List.forall_mem_cons.mpr ⟨⟨name, rfl, .inr whole⟩, admits⟩,
                fun admits => (List.forall_mem_cons.mp admits).2⟩
          · rw [if_neg whole]
            constructor
            · nofun
            · rintro ⟨_, admits⟩
              obtain ⟨_, _, unnamed | there⟩ := admits _ List.mem_cons_self
              · cases unnamed
              · exact absurd there whole

theorem finish_field {earlier : Record (β → α)} {name : String} {read : Decoder β} {absent slot : Option β}
    {value : α} :
    finish (.field earlier name read absent slot) = .ok value ↔
      ∃ build own, finish earlier = .ok build ∧ slot.or absent = some own ∧ value = build own := by
  rw [finish.eq_def]
  dsimp only
  rw [bind_eq_ok_iff]
  constructor
  · rintro ⟨build, built, finished⟩
    split at finished
    next own filled =>
      obtain rfl := Except.ok.inj finished
      exact ⟨build, own, built, filled, rfl⟩
    next => cases finished
  · rintro ⟨build, own, built, filled, rfl⟩
    refine ⟨build, built, ?_⟩
    rw [filled]

theorem Fills.congr {record : Record α} {value : α} {others : List (Option String × Tree)}
    (same : ∀ name ∈ record.names, valuesOf name others = valuesOf name members)
    (fills : Fills context members record value) : Fills context others record value := by
  induction fills with
  | done value => exact .done value
  | absent value before none ih =>
      obtain ⟨own, earlier⟩ := List.forall_mem_cons.mp same
      exact .absent value (ih earlier) (own.trans none)
  | given before only decoded ih =>
      obtain ⟨own, earlier⟩ := List.forall_mem_cons.mp same
      exact .given (ih earlier) (own.trans only) decoded

theorem admits_field_iff {earlier : Record (β → α)} {name : String} {read : Decoder β}
    {absent slot : Option β} :
    (field earlier name read absent slot).Admits members ↔ earlier.Admits (without name members) := by
  constructor
  · intro admits member there
    obtain ⟨listed, other⟩ := List.mem_filter.mp there
    obtain ⟨given, named, known | whole⟩ := admits member listed
    · rcases List.mem_cons.mp known with rfl | known
      · simp [named] at other
      · exact ⟨given, named, .inl known⟩
    · exact ⟨given, named, .inr whole⟩
  · intro admits member listed
    by_cases own : member.1 = some name
    · exact ⟨name, own, .inl List.mem_cons_self⟩
    · obtain ⟨given, named, known⟩ := admits member (List.mem_filter.mpr ⟨listed, by simpa using own⟩)
      exact ⟨given, named, known.imp_left (List.mem_cons_of_mem _)⟩

theorem visitAll_finish_iff {record : Record α} (fresh : record.IsFresh) {value : α} :
    (∃ filled, visitAll context members record = .ok filled ∧ filled.finish = .ok value) ↔
      Fills context members record value ∧ record.Admits members := by
  induction record generalizing members with
  | done own =>
      constructor
      · rintro ⟨filled, visited, finished⟩
        obtain ⟨rfl, admits⟩ := visitAll_done.mp visited
        obtain rfl := Except.ok.inj finished
        exact ⟨.done own, admits⟩
      · rintro ⟨⟨⟩, admits⟩
        exact ⟨.done own, visitAll_done.mpr ⟨rfl, admits⟩, rfl⟩
  | field earlier name read absent slot ih =>
      obtain ⟨freshEarlier, newName, rfl⟩ := fresh
      -- The members of the last field are taken out; the fields before it do not look at them.
      have unaffected : ∀ other ∈ earlier.names,
          valuesOf other (without name members) = valuesOf other members :=
        fun other known => valuesOf_without (ne_of_mem_of_not_mem known newName) members
      rw [admits_field_iff]
      constructor
      · rintro ⟨filled, visited, finished⟩
        obtain ⟨earlierFilled, slotFilled, rfl, earlierVisited, takes⟩ := visitAll_field.mp visited
        obtain ⟨build, own, built, filledBy, rfl⟩ := finish_field.mp finished
        obtain ⟨fills, admits⟩ := (ih freshEarlier).mp ⟨earlierFilled, earlierVisited, built⟩
        have before := fills.congr fun other known => (unaffected other known).symm
        refine ⟨?_, admits⟩
        cases values : valuesOf name members with
        | nil =>
            rw [values] at takes
            obtain rfl := takes_nil_iff.mp takes
            obtain rfl : absent = some own := filledBy
            exact .absent own before values
        | cons tree trees =>
            rw [values] at takes
            obtain ⟨_, rfl, found, decoded, rfl⟩ := takes_cons_iff.mp takes
            obtain rfl := Option.some.inj filledBy
            exact .given before values decoded
      · rintro ⟨fills, admits⟩
        cases fills with
        | absent own before none =>
            obtain ⟨earlierFilled, earlierVisited, built⟩ :=
              (ih freshEarlier).mpr ⟨before.congr unaffected, admits⟩
            have takes : Takes context read .none (valuesOf name members) .none := none ▸ Takes.nothing .none
            exact ⟨_, visitAll_field.mpr ⟨_, _, rfl, earlierVisited, takes⟩,
              finish_field.mpr ⟨_, own, built, rfl, rfl⟩⟩
        | @given _ _ _ _ _ _ _ _ own before only decoded =>
            obtain ⟨earlierFilled, earlierVisited, built⟩ :=
              (ih freshEarlier).mpr ⟨before.congr unaffected, admits⟩
            have takes : Takes context read .none (valuesOf name members) (some own) :=
              only ▸ Takes.value decoded
            exact ⟨_, visitAll_field.mpr ⟨_, _, rfl, earlierVisited, takes⟩,
              finish_field.mpr ⟨_, own, built, rfl, rfl⟩⟩

/-- An object is read as a record exactly if its members fill the record and may all be there. -/
theorem decode_object_iff {record : Record α} (fresh : record.IsFresh) {value : α} {inner : Context}
    (enters : context.enter = .ok inner) :
    record.decode context (.object members .closed) = .ok value ↔
      Fills inner members record value ∧ record.Admits members := by
  rw [← visitAll_finish_iff fresh]
  unfold decode
  simp only [enters]
  cases visited : visitAll inner members record with
  | error fault => exact ⟨nofun, fun ⟨_, there, _⟩ => nomatch there⟩
  | ok filled =>
      exact ⟨fun finished => ⟨filled, rfl, finished⟩,
        fun ⟨_, same, finished⟩ => Except.ok.inj same ▸ finished⟩

/-! ## Members that do not count -/

def IsIdle (context : Context) (name : String) (tree : Tree) : {α : Type} → Record α → Prop
  | _, .done _ => True
  | _, .field earlier own read absent _ =>
      earlier.IsIdle context name tree ∧
        (own = name → ∃ value, read context tree = .ok value ∧ absent = some value)

variable {before after extra : List (Option String × Tree)} {name : String} {tree : Tree} {record : Record α}
  {value : α}

theorem Fills.leave_out (fills : Fills context (before ++ (some name, tree) :: after) record value)
    (idle : record.IsIdle context name tree) : Fills context (before ++ after) record value := by
  have others {own : String} (other : own ≠ name) : valuesOf own (before ++ after) =
      valuesOf own (before ++ (some name, tree) :: after) := by
    rw [valuesOf_append, valuesOf_append, valuesOf_cons_of_ne (by simpa using other.symm)]
  induction fills with
  | done value => exact .done value
  | @absent _ _ _ _ own _ value _ none ih =>
      by_cases named : own = name
      · subst named
        rw [valuesOf_append, valuesOf_cons_self] at none
        simp at none
      · exact .absent value (ih idle.1) ((others named).trans none)
  | @given _ _ _ _ own _ _ found value _ only decoded ih =>
      by_cases named : own = name
      · subst named
        rw [valuesOf_append, valuesOf_cons_self] at only
        obtain ⟨anyway, decodedAnyway, rfl⟩ := idle.2 rfl
        have alone : valuesOf own before = [] ∧ tree = found ∧ valuesOf own after = [] := by
          rcases List.append_eq_singleton_iff.mp only with ⟨none, rest⟩ | ⟨_, rest⟩
          · exact ⟨none, (List.cons.inj rest).1, (List.cons.inj rest).2⟩
          · cases rest
        obtain ⟨noneBefore, rfl, noneAfter⟩ := alone
        obtain rfl := Except.ok.inj (decodedAnyway.symm.trans decoded)
        exact .absent anyway (ih idle.1) (by rw [valuesOf_append, noneBefore, noneAfter]; rfl)
      · exact .given (ih idle.1) ((others named).trans only) decoded

theorem Admits.leave_out {member : Option String × Tree}
    (admits : record.Admits (before ++ member :: after)) : record.Admits (before ++ after) := by
  intro other listed
  refine admits other ?_
  rcases List.mem_append.mp listed with there | there
  · exact List.mem_append_left _ there
  · exact List.mem_append_right _ (List.mem_cons_of_mem _ there)

def IsForeign (record : Record α) (members : List (Option String × Tree)) : Prop :=
  ∀ member ∈ members, ∃ name, member.1 = some name ∧ name ∉ record.names ∧ member.2.isWhole

theorem Fills.put_in (fills : Fills context (before ++ after) record value)
    (foreign : record.IsForeign extra) :
    Fills context (before ++ extra ++ after) record value := by
  refine fills.congr fun name known => ?_
  have none : valuesOf name extra = [] := by
    refine valuesOf_eq_nil fun member listed named => ?_
    obtain ⟨given, isGiven, unknown, _⟩ := foreign member listed
    obtain rfl := Option.some.inj (isGiven.symm.trans named)
    exact unknown known
  rw [valuesOf_append, valuesOf_append, valuesOf_append, none, List.append_nil]

theorem Admits.put_in (admits : record.Admits (before ++ after)) (foreign : record.IsForeign extra) :
    record.Admits (before ++ extra ++ after) := by
  intro member listed
  rw [List.mem_append, List.mem_append] at listed
  rcases listed with (there | there) | there
  · exact admits member (List.mem_append_left _ there)
  · obtain ⟨name, named, _, whole⟩ := foreign member there
    exact ⟨name, named, .inr whole⟩
  · exact admits member (List.mem_append_right _ there)

end Record

end Larder.Json
