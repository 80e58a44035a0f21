import Larder.Proofs.Intake.Assessment
import Larder.Proofs.Service.Footprint

namespace Larder

/-! ## Writing a row -/

namespace Memory

/-- The store with a row in the place of the first one of its ingredient, or else behind all rows. -/
inductive Puts (m : Memory) (row : PantryItem) : Memory → Prop
  | again {before after : List PantryItem} {old : PantryItem} (split : m.pantry = before ++ old :: after)
      (first : ∀ other ∈ before, other.ingredientId ≠ row.ingredientId)
      (same : old.ingredientId = row.ingredientId) (sameId : row.id = old.id)
      (since : row.addedAt = old.addedAt) :
      Puts m row { m with upserts := m.upserts + 1, pantry := before ++ row :: after }
  | new (absent : ∀ other ∈ m.pantry, other.ingredientId ≠ row.ingredientId) :
      Puts m row { m with upserts := m.upserts + 1, pantry := m.pantry ++ [row] }

theorem upsertItem_puts {m : Memory} (accepts : m.upsertFails = false) (w : PantryWrite) :
    ∃ row, (m.upsertItem w).1 = .ok row ∧ row.stock = w.stock ∧ m.Puts row (m.write w) := by
  unfold write
  rcases upsertItem_cases m w with
    ⟨fails, _⟩ | ⟨_, before, old, after, split, first, same, done⟩ | ⟨_, absent, done⟩
  · rw [accepts] at fails
    cases fails
  · rw [done]
    have named : (old.replaced w).ingredientId = w.ingredientId := same
    exact ⟨_, rfl, PantryItem.stock_replaced same, .again split (named.symm ▸ first) rfl rfl rfl⟩
  · rw [done]
    exact ⟨_, rfl, rfl, .new absent⟩

end Memory

namespace Service

/-! ## Requests -/

def Given (text : Option String) (word : String) : Prop :=
  text.map Text.trim = some word ∧ word ≠ ""

def IsGiven (text : Option String) : Prop :=
  ∃ word, Given text word

structure Sound (addition : Addition) : Prop where
  finite : addition.quantity.isFinite = true
  positive : 0.0 < addition.quantity
  unit : Text.trim addition.unit ≠ ""
  expiry : ∀ text ∈ addition.expiresAt, (Timestamp.parse? (Text.trim text)).isSome

def stockOf (addition : Addition) (ingredientId : Uuid) : Stock where
  ingredientId
  quantity := addition.quantity
  unit := Text.trim addition.unit
  expiresAt := addition.expiresAt.bind fun text => Timestamp.parse? (Text.trim text)

inductive LooksUp (addition : Addition) : List String → Prop
  | once {name : String} (sound : Sound addition) (noId : ¬ IsGiven addition.ingredientId)
      (given : Given addition.name name) : LooksUp addition [name]
  | never (other : ¬ (Sound addition ∧ ¬ IsGiven addition.ingredientId ∧ IsGiven addition.name)) :
      LooksUp addition []

variable (settings : IngestSettings) (resolver : String → Awaited Resolution)

inductive Obtains (addition : Addition) : Uuid → Prop
  | id {text : String} {id : Uuid} (given : Given addition.ingredientId text)
      (read : Uuid.parse? text = some id) : Obtains addition id
  | name {name : String} {resolution : Resolution} (noId : ¬ IsGiven addition.ingredientId)
      (given : Given addition.name name) (resolved : resolver name = .answered (.ok resolution)) :
      Obtains addition resolution.ingredient.id

inductive Unobtained (addition : Addition) : ServiceError → Prop
  | malformed {text : String} (given : Given addition.ingredientId text) (unread : Uuid.parse? text = none) :
      Unobtained addition (.invalidRequest "ingredient_id must be a UUID.")
  | nameless (noId : ¬ IsGiven addition.ingredientId) (noName : ¬ IsGiven addition.name) :
      Unobtained addition (.invalidRequest "ingredient_id or name is required.")
  | unresolved {name : String} {fault : ServiceError} (noId : ¬ IsGiven addition.ingredientId)
      (given : Given addition.name name) (failed : resolutionOf settings (resolver name) = .error fault) :
      Unobtained addition fault

/-- Why an addition fails, in the order in which it is found out. -/
inductive Unadded (m : Memory) (addition : Addition) : ServiceError → Prop
  | quantity (rejected : ¬ (addition.quantity.isFinite = true ∧ 0.0 < addition.quantity)) :
      Unadded m addition (.ofField .stockQuantity)
  | unit (finite : addition.quantity.isFinite = true) (positive : 0.0 < addition.quantity)
      (blank : Text.trim addition.unit = "") : Unadded m addition (.ofField .blankUnit)
  | expiry {text : String} (finite : addition.quantity.isFinite = true) (positive : 0.0 < addition.quantity)
      (unit : Text.trim addition.unit ≠ "") (given : addition.expiresAt = some text)
      (unread : Timestamp.parse? (Text.trim text) = none) :
      Unadded m addition (.invalidRequest "expires_at must be an RFC 3339 timestamp.")
  | ingredient {fault : ServiceError} (sound : Sound addition)
      (unobtained : Unobtained settings resolver addition fault) : Unadded m addition fault
  | write {id : Uuid} (sound : Sound addition) (obtains : Obtains resolver addition id)
      (fails : m.upsertFails = true) : Unadded m addition writeFault

variable {settings resolver} {addition : Addition} {fault : ServiceError} {m : Memory}

/-! ## Parts of a request -/

theorem givenText_eq_some {text : Option String} {word : String} :
    givenText text = some word ↔ Given text word := by
  unfold givenText Given Text.isBlankText
  cases text with
  | none => simp
  | some given =>
      dsimp only
      split
      · rename_i blank
        have blank : Text.trim given = "" := by simpa using blank
        simp [blank, eq_comm]
      · rename_i visible
        have visible : Text.trim given ≠ "" := by simpa using visible
        simp only [Option.map_some, Option.some.injEq]
        exact ⟨fun same => ⟨same, same ▸ visible⟩, And.left⟩

theorem givenText_eq_none {text : Option String} : givenText text = none ↔ ¬ IsGiven text := by
  simp only [IsGiven, ← givenText_eq_some, ← Option.isSome_iff_exists, Option.not_isSome_iff_eq_none]

theorem Given.unique {text : Option String} {word other : String} (given : Given text word)
    (given' : Given text other) : word = other :=
  Option.some.inj (given.1.symm.trans given'.1)

theorem Unobtained.not_obtains (unobtained : Unobtained settings resolver addition fault) (id : Uuid) :
    ¬ Obtains resolver addition id := by
  intro obtains
  cases unobtained with
  | malformed given unread =>
      cases obtains with
      | id given' read =>
          rw [given.unique given', read] at unread
          cases unread
      | name noId => exact noId ⟨_, given⟩
  | nameless noId noName =>
      cases obtains with
      | id given => exact noId ⟨_, given⟩
      | name _ given => exact noName ⟨_, given⟩
  | unresolved noId given failed =>
      cases obtains with
      | id given' => exact noId ⟨_, given'⟩
      | name _ given' resolved =>
          rw [given.unique given', resolved] at failed
          cases failed

theorem Unadded.not_accepted (unadded : Unadded settings resolver m addition fault) :
    ¬ (Sound addition ∧ (∃ id, Obtains resolver addition id) ∧ m.upsertFails = false) := by
  rintro ⟨sound, ⟨id, obtains⟩, accepts⟩
  cases unadded with
  | quantity rejected => exact rejected ⟨sound.finite, sound.positive⟩
  | unit _ _ blank => exact sound.unit blank
  | expiry _ _ _ given unread =>
      have read := sound.expiry _ given
      rw [unread] at read
      cases read
  | ingredient _ unobtained => exact unobtained.not_obtains id obtains
  | write _ _ fails =>
      rw [accepts] at fails
      cases fails

/-! ## Running -/

variable (around : Surroundings)

def dictionaryAt (settings : IngestSettings) (s : Situation) (name : String) : Awaited Resolution :=
  s.answer around (.resolve name settings.resolveTimeout)

theorem outcome_namedIngredient (settings : IngestSettings) (sound : Sound addition) (s : Situation) :
    ∃ result names s', (namedIngredient settings addition).outcome around s = (result, s') ∧
      s'.memory = s.memory ∧ published s'.past = published s.past ∧
      LooksUp addition names ∧ lookUps s'.past = lookUps s.past ++ names ∧
      match result with
      | .ok id => Obtains (dictionaryAt around settings s) addition id
      | .error fault => Unobtained settings (dictionaryAt around settings s) addition fault := by
  unfold namedIngredient
  cases id : givenText addition.ingredientId with
  | some text =>
      have given : Given addition.ingredientId text := givenText_eq_some.mp id
      have silent : LooksUp addition [] := .never fun ⟨_, noId, _⟩ => noId ⟨text, given⟩
      cases read : Uuid.parse? text with
      | some id => exact ⟨.ok id, [], s, by simp [read], rfl, rfl, silent, by simp, .id given read⟩
      | none =>
          exact ⟨.error _, [], s, by simp only [read]; rfl, rfl, rfl, silent, by simp, .malformed given read⟩
  | none =>
      have noId := givenText_eq_none.mp id
      cases called : givenText addition.name with
      | some name =>
          have given : Given addition.name name := givenText_eq_some.mp called
          have asks : LooksUp addition [name] := .once sound noId given
          let told := s.next around (.resolve name settings.resolveTimeout)
          have resolves : (resolveName settings name).outcome around s =
              (resolutionOf settings (dictionaryAt around settings s name), told) :=
            outcome_resolveName around settings name s
          have quiet : published told.past = published s.past := by simp [told, Effect.batches]
          have asked : lookUps told.past = lookUps s.past ++ [name] := by simp [told, Effect.lookedUp]
          dsimp only
          rw [Operation.outcome_bind, resolves]
          cases answer : resolutionOf settings (dictionaryAt around settings s name) with
          | ok resolution =>
              have obtains := Obtains.name noId given (resolutionOf_eq_ok answer)
              exact ⟨.ok _, [name], told, rfl, rfl, quiet, asks, asked, obtains⟩
          | error fault =>
              have unobtained := Unobtained.unresolved noId given answer
              exact ⟨.error fault, [name], told, rfl, rfl, quiet, asks, asked, unobtained⟩
      | none =>
          have noName := givenText_eq_none.mp called
          have silent : LooksUp addition [] := .never fun ⟨_, _, isGiven⟩ => noName isGiven
          exact ⟨.error _, [], s, rfl, rfl, rfl, silent, by simp, .nameless noId noName⟩

theorem outcome_addItem_of_not_sound (settings : IngestSettings) (unsound : ¬ Sound addition) (s : Situation) :
    ∃ fault, Unadded settings (dictionaryAt around settings s) s.memory addition fault ∧
      (addItem settings addition).outcome around s = (.error fault, s) := by
  unfold addItem
  rw [validateStockQuantity_eq, validateUnit_eq]
  split
  · rename_i positive
    split
    · rename_i blank
      exact ⟨_, .unit positive.1 positive.2 blank, rfl⟩
    · rename_i unit
      unfold parseExpiry
      cases given : addition.expiresAt with
      | none => exact absurd ⟨positive.1, positive.2, unit, by simp [given]⟩ unsound
      | some text =>
          cases read : Timestamp.parse? (Text.trim text) with
          | some time => exact absurd ⟨positive.1, positive.2, unit, by simp [given, read]⟩ unsound
          | none => exact ⟨_, .expiry positive.1 positive.2 unit given read, by simp only [read]; rfl⟩
  · rename_i rejected
    exact ⟨_, .quantity rejected, rfl⟩

theorem outcome_addItem_of_sound (settings : IngestSettings) (sound : Sound addition) (s : Situation) :
    (addItem settings addition).outcome around s = (do
      let ingredientId ← namedIngredient settings addition
      let item ← writeItem ingredientId addition.quantity addition.unit
        (addition.expiresAt.bind fun text => Timestamp.parse? (Text.trim text))
      publish [item.id]
      return item : Operation PantryItem).outcome around s := by
  have expiry : parseExpiry addition.expiresAt =
      .ok (addition.expiresAt.bind fun text => Timestamp.parse? (Text.trim text)) := by
    unfold parseExpiry
    cases given : addition.expiresAt with
    | none => rfl
    | some text =>
        obtain ⟨time, read⟩ := Option.isSome_iff_exists.mp (sound.expiry text given)
        simp [read]
  unfold addItem
  rw [validateStockQuantity_eq, if_pos ⟨sound.finite, sound.positive⟩, validateUnit_eq,
    if_neg sound.unit, expiry]
  rfl

theorem lookUps_of_writes {α : Type} {operation : Operation α} (writes : operation.Uses Writes)
    (s : Situation) : lookUps (operation.outcome around s).2.past = lookUps s.past := by
  have asksNothing : operation.Uses fun effect => effect.lookedUp = [] :=
    writes.mono fun _ writes => by cases writes <;> rfl
  exact asksNothing.run.flatMap_past around s

structure Added (addition : Addition) (before after : Situation) (ingredientId : Uuid) (row : PantryItem) :
    Prop where
  stock : row.stock = stockOf addition ingredientId
  puts : before.memory.Puts row after.memory
  published : published after.past = published before.past ++ [[row.id]]

theorem outcome_writeRow (id : Uuid) (addition : Addition) (s : Situation) :
    ∃ result s', (do
        let item ← writeItem id addition.quantity addition.unit
          (addition.expiresAt.bind fun text => Timestamp.parse? (Text.trim text))
        publish [item.id]
        return item : Operation PantryItem).outcome around s = (result, s') ∧
      lookUps s'.past = lookUps s.past ∧
      ((s.memory.upsertFails = true ∧ result = .error writeFault) ∨
        ∃ row, s.memory.upsertFails = false ∧ result = .ok row ∧ Added addition s s' id row) := by
  obtain ⟨w, written, stock, writes, memoryAfter, quiet⟩ :=
    outcome_writeItem around s id addition.quantity addition.unit
      (addition.expiresAt.bind fun text => Timestamp.parse? (Text.trim text))
  have silent := lookUps_of_writes around (writeItem_uses id addition.quantity addition.unit
    (addition.expiresAt.bind fun text => Timestamp.parse? (Text.trim text))) s
  rw [writes] at silent
  rw [Operation.outcome_bind, writes]
  cases fails : s.memory.upsertFails with
  | true =>
      have refused : (s.memory.upsertItem w).1 = .error (.backend (.injected "pantry upsert")) := by
        simp [Memory.upsertItem, fails]
      exact ⟨.error writeFault, written, by rw [refused]; rfl, silent, .inl ⟨rfl, rfl⟩⟩
  | false =>
      obtain ⟨row, accepted, sameStock, puts⟩ := Memory.upsertItem_puts fails w
      let told := written.next around (.publish [row.id])
      have added : Added addition s told id row := by
        constructor
        case stock => exact sameStock.trans stock
        case puts => simpa [told, Situation.memoryAfter, memoryAfter] using puts
        case published => simp [told, Effect.batches, quiet]
      refine ⟨.ok row, told, ?_, ?_, .inr ⟨row, rfl, rfl, added⟩⟩
      · rw [accepted]
        dsimp only [Except.mapError]
        rw [Operation.outcome_bind, outcome_publish]
        rfl
      · simpa [told, Effect.lookedUp] using silent

theorem outcome_addItem (settings : IngestSettings) (addition : Addition) (s : Situation) :
    let resolver := dictionaryAt around settings s
    ∃ result names s', (addItem settings addition).outcome around s = (result, s') ∧
      LooksUp addition names ∧ lookUps s'.past = lookUps s.past ++ names ∧
      match result with
      | .ok row => Sound addition ∧ s.memory.upsertFails = false ∧
          ∃ id, Obtains resolver addition id ∧ Added addition s s' id row
      | .error fault => Unadded settings resolver s.memory addition fault := by
  intro resolver
  by_cases sound : Sound addition
  · obtain ⟨obtained, names, named, resolves, sameMemory, quiet, asks, asked, origin⟩ :=
      outcome_namedIngredient around settings sound s
    rw [outcome_addItem_of_sound around settings sound, Operation.outcome_bind, resolves]
    cases obtained with
    | error fault => exact ⟨.error fault, names, named, rfl, asks, asked, .ingredient sound origin⟩
    | ok id =>
        obtain ⟨result, s', ends, silent, ⟨fails, rfl⟩ | ⟨row, accepts, rfl, added⟩⟩ :=
          outcome_writeRow around id addition named
        · rw [sameMemory] at fails
          exact ⟨_, names, s', ends, asks, silent.trans asked, .write sound origin fails⟩
        · rw [sameMemory] at accepts
          have added : Added addition s s' id row :=
            ⟨added.stock, sameMemory ▸ added.puts, quiet ▸ added.published⟩
          exact ⟨_, names, s', ends, asks, silent.trans asked, sound, accepts, id, origin, added⟩
  · obtain ⟨fault, unadded, refused⟩ := outcome_addItem_of_not_sound around settings sound s
    have silent : LooksUp addition [] := .never fun all => sound all.1
    exact ⟨.error fault, [], s, refused, silent, (List.append_nil _).symm, unadded⟩

/-- An addition is accepted exactly when its values are sound, it obtains an ingredient and the store lets a
row in. Then the row of the ingredient is put in and published; otherwise nothing is touched. -/
theorem addItem_effect (settings : IngestSettings) (addition : Addition) (s : Situation) :
    let resolver := dictionaryAt around settings s
    let ended := (addItem settings addition).outcome around s
    (∃ names, LooksUp addition names ∧ lookUps ended.2.past = lookUps s.past ++ names) ∧
      ((∃ row, ended.1 = .ok row) ↔
        Sound addition ∧ (∃ id, Obtains resolver addition id) ∧ s.memory.upsertFails = false) ∧
      (∀ row, ended.1 = .ok row → ∃ id, Obtains resolver addition id ∧ Added addition s ended.2 id row) ∧
      ∀ fault, ended.1 = .error fault →
        Unadded settings resolver s.memory addition fault ∧ Untouched s ended.2 := by
  intro resolver ended
  obtain ⟨result, names, s', ends, asks, asked, origin⟩ := outcome_addItem around settings addition s
  have ends : ended = (result, s') := ends
  cases result with
  | ok row =>
      obtain ⟨sound, accepts, id, obtains, added⟩ := origin
      rw [ends]
      refine ⟨⟨names, asks, asked⟩, iff_of_true ⟨row, rfl⟩ ⟨sound, ⟨id, obtains⟩, accepts⟩, ?_, ?_⟩
      · rintro _ ⟨⟩
        exact ⟨id, obtains, added⟩
      · rintro fault ⟨⟩
  | error fault =>
      have untouched : Untouched s s' := (addItem_failsClean settings addition).untouched ends
      rw [ends]
      refine ⟨⟨names, asks, asked⟩, iff_of_false ?_ origin.not_accepted, ?_, ?_⟩
      · rintro ⟨row, ⟨⟩⟩
      · rintro row ⟨⟩
      · rintro _ ⟨⟩
        exact ⟨origin, untouched⟩

-- An id that is none is not made up for by a name.
open Kitchen in
example : ((addItem .default ⟨some "milk", some " 3", 1.0, "l", none⟩).outcome surroundings ⟨memory, []⟩).1 =
    .error (.invalidRequest "ingredient_id must be a UUID.") := by rfl

end Service

end Larder
