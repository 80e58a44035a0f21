import Larder.Json.Decoder

/-!
# Decoders and the fault of a surplus item

A text and a value that was read before are decoded in contexts that differ in one thing: which fault a list
with more items than a record has fields is. A decoder is steady if that never decides whether it succeeds
nor with what. The decoders of single values are, and lists and records of steady ones are again
(`steady_list`, `Record.IsSteady.decode`).
-/

namespace Larder.Json

/-- A decoder that gives the same values whichever fault a surplus item is. -/
def Steady {α : Type} (read : Decoder α) : Prop :=
  ∀ levels fault fault' tree,
    (read ⟨levels, some fault⟩ tree).toOption = (read ⟨levels, some fault'⟩ tree).toOption

universe u v w

theorem toOption_ok {ε : Type u} {α : Type v} (value : α) : (Except.ok value : Except ε α).toOption = some value :=
  rfl

theorem toOption_bind {ε : Type u} {α β : Type v} (first : Except ε α) (follow : α → Except ε β) :
    (first >>= follow).toOption = first.toOption.bind fun value => (follow value).toOption := by
  cases first <;> rfl

theorem toOption_map {ε : Type u} {α : Type v} {β : Type w} (f : α → β) (result : Except ε α) :
    (result.map f).toOption = result.toOption.map f := by
  cases result <;> rfl

/-! ## Single values -/

theorem steady_text : Steady Decoder.text := by
  intro levels fault fault' tree
  cases tree with
  | text content => cases content <;> rfl
  | _ => rfl

theorem steady_float : Steady Decoder.float := by
  intro levels fault fault' tree
  cases tree with
  | number content => rcases content with _ | ⟨_ | _⟩ <;> rfl
  | _ => rfl

/-! ## Lists -/

theorem toOption_items {α : Type} {read read' : Tree → Except DecodeError α}
    (same : ∀ tree, (read tree).toOption = (read' tree).toOption) (trees : List Tree) :
    (Decoder.items read trees).toOption = (Decoder.items read' trees).toOption := by
  induction trees with
  | nil => rfl
  | cons tree trees ih =>
      unfold Decoder.items
      simp only [toOption_bind, same, ih]

theorem steady_list {α : Type} {read : Decoder α} (steady : Steady read) : Steady (Decoder.list read) := by
  intro levels fault fault' tree
  cases tree with
  | list trees ending =>
      unfold Decoder.list
      cases levels with
      | zero => rfl
      | succ levels =>
          simp only [toOption_bind, Context.enter, toOption_ok, Option.bind_some,
            toOption_items (steady levels fault fault')]
  | _ => rfl

/-! ## Records -/

namespace Record

def IsSteady : {α : Type} → Record α → Prop
  | _, .done _ => True
  | _, .field earlier _ read _ _ => earlier.IsSteady ∧ Steady read

variable {α : Type} (levels : Nat) (fault fault' : DecodeError)

theorem toOption_visit (name : String) (tree : Tree) {record : Record α} (steady : record.IsSteady) :
    (visit ⟨levels, some fault⟩ name tree record).map Except.toOption =
      (visit ⟨levels, some fault'⟩ name tree record).map Except.toOption := by
  induction record with
  | done value => rfl
  | @field α β earlier own read absent slot ih =>
      unfold visit
      by_cases named : name == own
      · rw [if_pos named, if_pos named]
        cases slot with
        | some value => rfl
        | none => simp only [Option.map_some, toOption_map, steady.2 levels fault fault']
      · let refield (earlier : Record (β → α)) := Record.field earlier own read absent slot
        have through : Except.toOption ∘ Except.map (ε := DecodeError) refield =
            Option.map refield ∘ Except.toOption := funext fun outcome => toOption_map refield outcome
        have earlierSame := congrArg (Option.map (Option.map refield)) (ih steady.1)
        rw [Option.map_map, Option.map_map, ← through] at earlierSame
        rw [if_neg named, if_neg named, Option.map_map, Option.map_map]
        exact earlierSame

theorem IsSteady.visit {context : Context} {name : String} {tree : Tree} {record filled : Record α}
    (steady : record.IsSteady) (visited : visit context name tree record = some (.ok filled)) :
    filled.IsSteady := by
  induction record with
  | done value => cases visited
  | field earlier own read absent slot ih =>
      unfold Record.visit at visited
      split at visited
      · cases slot with
        | some value => cases visited
        | none =>
            cases found : read context tree with
            | error fault =>
                rw [found] at visited
                cases visited
            | ok value =>
                rw [found] at visited
                cases visited
                exact steady
      · obtain ⟨outcome, earlierVisited, filledBy⟩ := Option.map_eq_some_iff.mp visited
        cases outcome with
        | error fault => cases filledBy
        | ok earlierFilled =>
            cases filledBy
            exact ⟨ih steady.1 earlierVisited, steady.2⟩

theorem toOption_visitAll {record : Record α} (steady : record.IsSteady)
    (members : List (Option String × Tree)) :
    (visitAll ⟨levels, some fault⟩ members record).toOption =
      (visitAll ⟨levels, some fault'⟩ members record).toOption := by
  induction members generalizing record with
  | nil => rfl
  | cons member members ih =>
      obtain ⟨name, tree⟩ := member
      cases name with
      | none => rfl
      | some name =>
          have same := toOption_visit levels fault fault' name tree steady
          unfold visitAll
          cases first : Record.visit ⟨levels, some fault⟩ name tree record with
          | none =>
              cases second : Record.visit ⟨levels, some fault'⟩ name tree record with
              | some outcome => rw [first, second] at same; cases same
              | none =>
                  dsimp only
                  split
                  · exact ih steady
                  · rfl
          | some outcome =>
              cases second : Record.visit ⟨levels, some fault'⟩ name tree record with
              | none => rw [first, second] at same; cases same
              | some outcome' =>
                  rw [first, second] at same
                  have outcomes := Option.some.inj same
                  cases outcome with
                  | error fault =>
                      cases outcome' with
                      | error fault' => rfl
                      | ok filled' => cases outcomes
                  | ok filled =>
                      cases outcome' with
                      | error fault' => cases outcomes
                      | ok filled' =>
                          obtain rfl := Option.some.inj outcomes
                          exact ih (steady.visit first)

theorem toOption_takeItems {record : Record α} (steady : record.IsSteady) (whole : Bool)
    (trees : List Tree) :
    (takeItems ⟨levels, some fault⟩ whole record trees).toOption =
      (takeItems ⟨levels, some fault'⟩ whole record trees).toOption := by
  induction record generalizing trees with
  | done value => rfl
  | field earlier own read absent slot ih =>
      unfold takeItems
      rw [toOption_bind, toOption_bind, ih steady.1]
      congr
      funext taken
      obtain ⟨build, rest⟩ := taken
      cases rest with
      | nil => rfl
      | cons tree rest =>
          dsimp only
          rw [toOption_bind, toOption_bind, steady.2 levels fault fault']

theorem IsSteady.decode {record : Record α} (steady : record.IsSteady) : Steady record.decode := by
  intro levels fault fault' tree
  cases tree with
  | object members ending =>
      cases levels with
      | zero => rfl
      | succ levels =>
          have step (fault : DecodeError) :
              (record.decode ⟨levels + 1, some fault⟩ (.object members ending)).toOption =
                (visitAll ⟨levels, some fault⟩ members record).toOption.bind fun filled =>
                  (if ending.isClosed then filled.finish else .error .malformed).toOption := by
            unfold Record.decode
            simp only [Context.enter]
            cases visitAll ⟨levels, some fault⟩ members record <;> rfl
          rw [step, step, toOption_visitAll levels fault fault' steady]
  | list trees ending =>
      unfold Record.decode
      cases levels with
      | zero => rfl
      | succ levels =>
          simp only [Context.enter, toOption_bind, toOption_ok, Option.bind_some,
            toOption_takeItems levels fault fault' steady]
          congr
          funext taken
          obtain ⟨value, rest⟩ := taken
          dsimp only
          split
          · split <;> rfl
          · rfl
  | _ => rfl

end Record

end Larder.Json
