import Larder.Proofs.Config.Acceptance
import Larder.Proofs.Intake.Staging
import Larder.Proofs.Service.Values

/-!
# What a candidate is flagged for

An item that is staged for a candidate needs no review only if nothing speaks against it: its name was
resolved in time, its quantity may be stored, and its confidence reaches the threshold (`Assessed`). Items of
a list of candidates are flagged by the same rule, so that a higher threshold flags every one that a lower
one does (`stageCandidate_assessed`).

A confidence that is no finite number counts as 0. So it is below every threshold but one: with a threshold of
0, which a configuration may have, nothing is flagged for its confidence (`notFinite_review`).
-/

namespace Larder

/-! ## Values that are checked -/

theorem reviewThreshold_of_validate {config : Config} (valid : config.validate = .ok ()) :
    0.0 ≤ config.ingest.reviewThreshold ∧ config.ingest.reviewThreshold ≤ 1.0 := by
  have holds := Config.validate_eq_ok_iff.mp valid
    ⟨.reviewThreshold, .atMostOne, isWithin 1.0 config.ingest.reviewThreshold⟩
    (by simp [Config.checks, IngestSettings.checks])
  have within : (config.ingest.reviewThreshold.isFinite = true ∧ 0.0 ≤ config.ingest.reviewThreshold) ∧
      config.ingest.reviewThreshold ≤ 1.0 := by simpa [isWithin] using holds
  exact ⟨within.1.2, within.2⟩

inductive Clamped (given : Float) : Float → Prop
  | notFinite (unbounded : given.isFinite = false) : Clamped given 0.0
  | below (finite : given.isFinite = true) (negative : given < 0.0) : Clamped given 0.0
  | above (finite : given.isFinite = true) (tooLarge : 1.0 < given) : Clamped given 1.0
  | within (finite : given.isFinite = true) (atLeast : 0.0 ≤ given) (atMost : given ≤ 1.0) :
      Clamped given given

theorem clamped_iff {given kept : Float} : Clamped given kept ↔ kept = Candidate.clampConfidence given := by
  unfold Candidate.clampConfidence
  constructor
  · intro clamped
    cases clamped with
    | notFinite unbounded => simp [unbounded]
    | below finite negative => rw [if_pos finite, if_pos negative]
    | above finite tooLarge =>
        have positive : ¬ given < 0.0 := fun negative =>
          absurd (Decimal.lt_of_lt_of_le tooLarge (Decimal.le_of_lt negative)) (by decide)
        rw [if_pos finite, if_neg positive, if_pos tooLarge]
    | within finite atLeast atMost =>
        rw [if_pos finite, if_neg (Decimal.not_lt_of_le atLeast), if_neg (Decimal.not_lt_of_le atMost)]
  · rintro rfl
    split
    · rename_i finite
      split
      · rename_i negative
        exact .below finite negative
      · rename_i notNegative
        split
        · rename_i tooLarge
          exact .above finite tooLarge
        · rename_i notAbove
          exact .within finite (Decimal.le_of_not_lt Decimal.zero_isFinite finite notNegative)
            (Decimal.le_of_not_lt finite Decimal.one_isFinite notAbove)
    · rename_i unbounded
      exact .notFinite (by simpa using unbounded)

theorem clamped_notFinite {given kept : Float} (notFinite : given.isFinite = false)
    (clamped : Clamped given kept) : kept = 0.0 := by
  rw [clamped_iff.mp clamped]
  simp [Candidate.clampConfidence, notFinite]

/-! ## What happens beside the store -/

def Effect.lookedUp : Effect → List String
  | .resolve name _ => [name]
  | _ => []

def lookUps (events : List Event) : List String :=
  events.flatMap (·.1.lookedUp)

def Effect.offered : Effect → List StagedItem
  | .store (.insertStaged item) => [item]
  | _ => []

def offers (events : List Event) : List StagedItem :=
  events.flatMap (·.1.offered)

@[simp] theorem lookUps_next (around : Surroundings) (s : Situation) (effect : Effect) :
    lookUps (s.next around effect).past = lookUps s.past ++ effect.lookedUp := by
  simp [lookUps, Situation.next]

@[simp] theorem offers_next (around : Surroundings) (s : Situation) (effect : Effect) :
    offers (s.next around effect).past = offers s.past ++ effect.offered := by
  simp [offers, Situation.next]

namespace Service

structure Assessed (threshold : Float) (candidate : Candidate) (answer : Awaited Resolution)
    (item : StagedItem) : Prop where
  ingredient : ∀ id, item.ingredientId = some id ↔
    Text.trim candidate.name ≠ "" ∧ ∃ resolution, answer = .answered (.ok resolution) ∧
      resolution.ingredient.id = id
  quantity : (candidate.quantity.isFinite = true ∧ 0.0 ≤ candidate.quantity →
      item.quantity = candidate.quantity) ∧
    (¬(candidate.quantity.isFinite = true ∧ 0.0 ≤ candidate.quantity) → item.quantity = 0.0)
  unit : item.unit =
    if Text.trim candidate.unit = "" then Candidate.fallbackUnit else Text.trim candidate.unit
  confidence : Clamped candidate.confidence item.confidence
  review : item.needsReview = false ↔
    Text.trim candidate.name ≠ "" ∧ (∃ resolution, answer = .answered (.ok resolution)) ∧
      (candidate.quantity.isFinite = true ∧ 0.0 ≤ candidate.quantity) ∧ ¬ item.confidence < threshold

variable (around : Surroundings) {threshold higher : Float} {jobId : Uuid} {candidate : Candidate}
  {ingredient : Option Uuid} {settings : IngestSettings}

/-! ## One candidate -/

theorem stagedItem_needsReview (id : Uuid) (now : Timestamp) :
    (stagedItem threshold jobId candidate ingredient id now).needsReview = false ↔
      ingredient.isSome = true ∧ (candidate.quantity.isFinite = true ∧ 0.0 ≤ candidate.quantity) ∧
        ¬ Candidate.clampConfidence candidate.confidence < threshold := by
  have reaches : decide (Candidate.clampConfidence candidate.confidence < threshold) = false ↔
      ¬ Candidate.clampConfidence candidate.confidence < threshold := decide_eq_false_iff_not
  rw [← isStorable_iff, ← reaches]
  simp only [stagedItem, Candidate.repair, Candidate.needsReview, Bool.or_eq_false_iff, Bool.not_eq_false',
    Option.isNone_eq_false_iff]
  exact and_left_comm

theorem ingredientOf_eq_some {answer : Awaited Resolution} {id : Uuid} :
    ingredientOf answer = some id ↔
      ∃ resolution, answer = .answered (.ok resolution) ∧ resolution.ingredient.id = id := by
  unfold ingredientOf
  split
  · simp
  · rename_i other
    simp only [reduceCtorEq, false_iff, not_exists, not_and]
    exact fun resolution same => absurd same (other resolution)

theorem stagedItem_assessed {answer : Awaited Resolution}
    (known : ingredient = if Text.trim candidate.name = "" then none else ingredientOf answer)
    (id : Uuid) (now : Timestamp) :
    Assessed threshold candidate answer (stagedItem threshold jobId candidate ingredient id now) := by
  have resolved (id : Uuid) : ingredient = some id ↔ Text.trim candidate.name ≠ "" ∧
      ∃ resolution, answer = .answered (.ok resolution) ∧ resolution.ingredient.id = id := by
    rw [known, ← ingredientOf_eq_some]
    split <;> simp [*]
  constructor
  case ingredient => exact resolved
  case quantity =>
    rw [← isStorable_iff]
    exact ⟨fun storable => if_pos storable, fun refused => if_neg refused⟩
  case unit => simp [stagedItem, Candidate.repair]
  case confidence => exact clamped_iff.mpr rfl
  case review =>
    rw [stagedItem_needsReview, Option.isSome_iff_exists]
    simp only [resolved]
    constructor
    · rintro ⟨⟨_, named, resolution, answered, _⟩, rest⟩
      exact ⟨named, ⟨resolution, answered⟩, rest⟩
    · rintro ⟨named, ⟨resolution, answered⟩, rest⟩
      exact ⟨⟨_, named, resolution, answered, rfl⟩, rest⟩

def StagedWith (threshold : Float) (jobId : Uuid) (known : Candidate × Option Uuid) (item : StagedItem) :
    Prop :=
  ∃ id now, item = stagedItem threshold jobId known.1 known.2 id now

theorem run_stageCandidate_asks (settings : IngestSettings) (jobId : Uuid) (candidate : Candidate)
    (s : Situation) :
    let name := Text.trim candidate.name
    let answer := s.answer around (.resolve name settings.resolveTimeout)
    ∃ item s', (stageCandidate settings jobId candidate).run around s = (item, s') ∧
      StagedWith settings.reviewThreshold jobId
        (candidate, if name = "" then none else ingredientOf answer) item ∧
      lookUps s'.past = (lookUps s.past ++ if name = "" then [] else [name]) ∧
      offers s'.past = offers s.past := by
  intro name answer
  obtain ⟨id, now, told, runs, heard, _⟩ := run_stageCandidate_eq around settings jobId candidate s
  refine ⟨_, _, runs, ⟨id, now, rfl⟩, ?_, ?_⟩
  · by_cases nameless : name = ""
    · simp [heard, nameless, name, Effect.lookedUp]
    · simp [heard, nameless, name, Effect.lookedUp]
  · rw [heard]
    split <;> simp [Effect.offered]

theorem review_mono {id id' : Uuid} {now now' : Timestamp} (raised : threshold ≤ higher)
    (flagged : (stagedItem threshold jobId candidate ingredient id now).needsReview = true) :
    (stagedItem higher jobId candidate ingredient id' now').needsReview = true := by
  by_contra passes
  rw [Bool.not_eq_true, stagedItem_needsReview] at passes
  obtain ⟨known, storable, reaches⟩ := passes
  have unflagged : (stagedItem threshold jobId candidate ingredient id now).needsReview = false :=
    (stagedItem_needsReview id now).mpr
      ⟨known, storable, fun below => reaches (Decimal.lt_of_lt_of_le below raised)⟩
  rw [unflagged] at flagged
  cases flagged

/-! ## A list of candidates -/

/-- The dictionary answers a name from what it was asked for before. -/
def Consults (resolver : List String → String → Nat → Awaited Resolution) (around : Surroundings) : Prop :=
  ∀ past name budget, around past (.resolve name budget) = resolver (lookUps past) name budget

def knownAll (resolver : List String → String → Nat → Awaited Resolution) (budget : Nat) :
    List String → List Candidate → List (Candidate × Option Uuid)
  | _, [] => []
  | asked, candidate :: rest =>
      let name := Text.trim candidate.name
      (candidate, if name = "" then none else ingredientOf (resolver asked name budget)) ::
        knownAll resolver budget (asked ++ if name = "" then [] else [name]) rest

variable {around} {resolver : List String → String → Nat → Awaited Resolution}

theorem offers_stageAll (settings : IngestSettings) (jobId : Uuid) (consults : Consults resolver around)
    (candidates : List Candidate) (s : Situation) :
    ∃ known items, known <+: knownAll resolver settings.resolveTimeout (lookUps s.past) candidates ∧
      List.Forall₂ (StagedWith settings.reviewThreshold jobId) known items ∧
      offers ((stageAll settings jobId candidates).outcome around s).2.past = offers s.past ++ items := by
  induction candidates generalizing s with
  | nil => exact ⟨[], [], List.nil_prefix, .nil, (List.append_nil _).symm⟩
  | cons candidate rest ih =>
      obtain ⟨item, made, runs, staged, asked, offered⟩ :=
        run_stageCandidate_asks around settings jobId candidate s
      have answer : s.answer around (.resolve (Text.trim candidate.name) settings.resolveTimeout) =
          resolver (lookUps s.past) (Text.trim candidate.name) settings.resolveTimeout := consults s.past _ _
      rw [answer] at staged
      let stored := made.next around (.store (.insertStaged item))
      have storedOffers : offers stored.past = offers s.past ++ [item] := by
        simp [stored, offered, Effect.offered]
      have storedLookUps : lookUps stored.past = lookUps made.past := by simp [stored, Effect.lookedUp]
      unfold stageAll
      rw [Operation.outcome_bind, Operation.outcome_lift, runs]
      dsimp only
      rw [Operation.outcome_bind, Operation.outcome_store]
      cases (made.memory.perform (.insertStaged item)).1 with
      -- An item that the store refuses was offered all the same, and it is the last one.
      | error fault =>
          exact ⟨[_], [item], List.cons_prefix_cons.mpr ⟨rfl, List.nil_prefix⟩, .cons staged .nil,
            storedOffers⟩
      | ok value =>
          obtain ⟨known, items, first, later, offered⟩ := ih stored
          rw [storedLookUps, asked] at first
          rw [storedOffers, List.append_assoc] at offered
          exact ⟨_ :: known, item :: items, List.cons_prefix_cons.mpr ⟨rfl, first⟩, .cons staged later,
            offered⟩

theorem flags_mono {all known known' : List (Candidate × Option Uuid)} {items items' : List StagedItem}
    (raised : threshold ≤ higher) (first : known <+: all) (first' : known' <+: all)
    (staged : List.Forall₂ (StagedWith threshold jobId) known items)
    (staged' : List.Forall₂ (StagedWith higher jobId) known' items') :
    ∀ pair ∈ items.zip items', pair.1.needsReview = true → pair.2.needsReview = true := by
  induction staged generalizing all known' items' with
  | nil => exact fun pair member => nomatch member
  | @cons entry item known items own later ih =>
      cases staged' with
      | nil => exact fun pair member => nomatch member
      | @cons entry' item' known' items' own' later' =>
          obtain ⟨rest, rfl⟩ := first
          obtain ⟨rfl, others⟩ := List.cons_prefix_cons.mp first'
          rw [List.zip_cons_cons, List.forall_mem_cons]
          refine ⟨?_, ih (List.prefix_append known rest) others later'⟩
          obtain ⟨id, now, rfl⟩ := own
          obtain ⟨id', now', rfl⟩ := own'
          exact review_mono raised

/-- The item of a candidate is what the answer to its name makes it, and the dictionary is asked for that name
alone. Over a list of candidates, a higher threshold flags every item that a lower one flags. -/
theorem stageCandidate_assessed (settings : IngestSettings) (jobId : Uuid) :
    (∀ (around : Surroundings) (candidate : Candidate) (s : Situation),
      let name := Text.trim candidate.name
      let ran := (stageCandidate settings jobId candidate).run around s
      Assessed settings.reviewThreshold candidate (s.answer around (.resolve name settings.resolveTimeout))
          ran.1 ∧
        lookUps ran.2.past = lookUps s.past ++ if name = "" then [] else [name]) ∧
    ∀ (resolver : List String → String → Nat → Awaited Resolution) (around around' : Surroundings)
      (candidates : List Candidate) (m m' : Memory) (higher : Float),
      Consults resolver around → Consults resolver around' → settings.reviewThreshold ≤ higher →
      let ran := (stageAll settings jobId candidates).outcome around ⟨m, []⟩
      let ran' := (stageAll { settings with reviewThreshold := higher } jobId candidates).outcome
        around' ⟨m', []⟩
      ∀ pair ∈ (offers ran.2.past).zip (offers ran'.2.past),
        pair.1.needsReview = true → pair.2.needsReview = true := by
  constructor
  · intro around candidate s name ran
    obtain ⟨item, s', runs, ⟨id, now, rfl⟩, asked, _⟩ :=
      run_stageCandidate_asks around settings jobId candidate s
    have ends : ran = _ := runs
    rw [ends]
    exact ⟨stagedItem_assessed rfl id now, asked⟩
  · intro resolver around around' candidates m m' higher consults consults' raised ran ran'
    obtain ⟨known, items, first, staged, offered⟩ :=
      offers_stageAll settings jobId consults candidates ⟨m, []⟩
    obtain ⟨known', items', first', staged', offered'⟩ :=
      offers_stageAll { settings with reviewThreshold := higher } jobId consults' candidates ⟨m', []⟩
    have own : offers ran.2.past = items := offered
    have own' : offers ran'.2.past = items' := offered'
    rw [own, own']
    exact flags_mono raised first first' staged staged'

/-! ## A cupboard

The dictionary knows milk when it is first asked for it, and nothing else in time.
-/

namespace Cupboard

def milk : Candidate := ⟨"milk", " milk ", 2.0, "l", 0.75⟩

def nameless : Candidate := ⟨"salt", " ", 1.0, "", 2.0⟩

def owed : Candidate := ⟨"eggs", "eggs", -6.0, " piece ", 0.0 / 0.0⟩

def doubtful : Candidate := { milk with confidence := 0.0 / 0.0 }

def dictionary : List String → String → Nat → Awaited Resolution
  | [], "milk", _ => .answered (.ok ⟨⟨⟨3⟩, "milk"⟩, 1.0, false⟩)
  | _, _, _ => .timedOut

def surroundings : Surroundings := fun past effect =>
  match effect with
  | .resolve name budget => dictionary (lookUps past) name budget
  | effect => Kitchen.surroundings past effect

def memory : Memory :=
  { Memory.empty with
    jobs := [⟨⟨1⟩, JobKind.textBlob.name, "", JobStatus.pending.name, none, Kitchen.noon, Kitchen.noon⟩] }

def config (threshold : Float) : Config where
  listen := ⟨"127.0.0.1:8080", ListenConfig.defaultLogLevel⟩
  database := ⟨"postgres://larder", 4⟩
  extractor := ⟨"extractor", "https://extractor", "key", "/chat", "model", none, 1000, []⟩
  resolver := ⟨"https://resolver", ResolverConfig.defaultPath, 1000, []⟩
  ingest := { IngestSettings.default with reviewThreshold := threshold }

end Cupboard

open Cupboard in
theorem stageCandidate_assessed_cupboard :
    Consults dictionary surroundings ∧ IngestSettings.default.reviewThreshold ≤ 0.8 ∧
      let ran := (stageAll .default ⟨1⟩ [milk, nameless, milk, owed]).outcome surroundings ⟨memory, []⟩
      let ran' := (stageAll { IngestSettings.default with reviewThreshold := 0.8 } ⟨1⟩
        [milk, nameless, milk, owed]).outcome surroundings ⟨memory, []⟩
      ∀ pair ∈ (offers ran.2.past).zip (offers ran'.2.past),
        pair.1.needsReview = true → pair.2.needsReview = true := by
  have consults : Consults dictionary surroundings := fun _ _ _ => rfl
  have raised : IngestSettings.default.reviewThreshold ≤ 0.8 := by decide
  exact ⟨consults, raised, (stageCandidate_assessed .default ⟨1⟩).2 dictionary surroundings surroundings
    [milk, nameless, milk, owed] memory memory 0.8 consults consults raised⟩

open Cupboard in
example : (offers ((stageAll .default ⟨1⟩ [milk, nameless, milk, owed]).outcome surroundings
    ⟨memory, []⟩).2.past).map (·.needsReview) = [false, true, true, true] := by
  decide +kernel

/-! ## Confidences that are no numbers -/

/-- In a valid configuration, a candidate whose confidence is no finite number is flagged whatever the
dictionary answers, unless the threshold is 0: then its confidence does not count. -/
theorem notFinite_review {config : Config} (valid : config.validate = .ok ())
    (notFinite : candidate.confidence.isFinite = false) (jobId : Uuid) (around : Surroundings)
    (s : Situation) :
    let name := Text.trim candidate.name
    ((stageCandidate config.ingest jobId candidate).run around s).1.needsReview = false ↔
      (config.ingest.reviewThreshold == 0.0) = true ∧ name ≠ "" ∧
        (∃ resolution,
          s.answer around (.resolve name config.ingest.resolveTimeout) = .answered (.ok resolution)) ∧
        candidate.quantity.isFinite = true ∧ 0.0 ≤ candidate.quantity := by
  intro name
  obtain ⟨assessed, -⟩ := (stageCandidate_assessed config.ingest jobId).1 around candidate s
  generalize ((stageCandidate config.ingest jobId candidate).run around s).1 = item at assessed ⊢
  have zero : item.confidence = 0.0 := clamped_notFinite notFinite assessed.confidence
  have least := (reviewThreshold_of_validate valid).1
  have reaches : ¬ (0.0 : Float) < config.ingest.reviewThreshold ↔
      (config.ingest.reviewThreshold == 0.0) = true :=
    ⟨fun reaches => Decimal.beq_symm (Decimal.beq_of_le_of_not_lt least reaches), Decimal.not_lt_of_beq⟩
  rw [assessed.review, zero, reaches]
  constructor
  · rintro ⟨named, answered, storable, zero⟩
    exact ⟨zero, named, answered, storable⟩
  · rintro ⟨zero, named, answered, storable⟩
    exact ⟨named, answered, storable, zero⟩

open Cupboard in
theorem notFinite_review_cupboard : (config 0.7).validate = .ok () ∧ doubtful.confidence.isFinite = false ∧
    ((stageCandidate (config 0.7).ingest ⟨1⟩ doubtful).run surroundings
      ⟨memory, []⟩).1.needsReview = true := by
  have valid : (config 0.7).validate = .ok () := by decide +kernel
  have notFinite : doubtful.confidence.isFinite = false := by decide +kernel
  refine ⟨valid, notFinite, Bool.of_not_eq_false fun unflagged => ?_⟩
  obtain ⟨zero, -⟩ := (notFinite_review valid notFinite ⟨1⟩ surroundings ⟨memory, []⟩).mp unflagged
  exact absurd zero (by decide)

theorem notFinite_unflagged : ¬ ∀ (config : Config) (candidate : Candidate) (jobId : Uuid)
    (around : Surroundings) (s : Situation),
    config.validate = .ok () → candidate.confidence.isFinite = false →
      ((stageCandidate config.ingest jobId candidate).run around s).1.needsReview = true := by
  intro flagged
  have unflagged : ((stageCandidate (Cupboard.config 0.0).ingest ⟨1⟩ Cupboard.doubtful).run Cupboard.surroundings
      ⟨Cupboard.memory, []⟩).1.needsReview = false := by decide +kernel
  have claimed := flagged (Cupboard.config 0.0) Cupboard.doubtful ⟨1⟩ Cupboard.surroundings ⟨Cupboard.memory, []⟩
    (by decide +kernel) (by decide +kernel)
  rw [unflagged] at claimed
  cases claimed

end Service

end Larder
