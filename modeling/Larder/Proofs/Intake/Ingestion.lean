import Larder.Proofs.Intake.Staging

/-!
# A text from its submission to its confirmation

A text is submitted, processed to its end and confirmed as it was staged. What that leaves in the pantry
is told by the candidates alone, whatever ids and times are drawn (`outcome_ingest`): each ingredient that
is named gets the stock of a candidate with the last text among its candidates. Only where several
candidates of an ingredient have that same last text do their ids decide between them, since these break
ties in the listing. So two runs have written and left out the same numbers of items, and have left the
same stock of every ingredient for which such candidates agree (`ingest_sameStocks`).
-/

namespace Larder

def Memory.stocksOf (m : Memory) (ingredientId : Uuid) : List Stock :=
  (m.rowsOf ingredientId).map (·.stock)

namespace Service
open Memory

def counts (done : Confirmation) : Nat × Nat :=
  (done.itemIds.length, done.skipped.length)

def ingest (settings : IngestSettings) (submission : Submission) : Operation Confirmation := do
  let receipt ← submit submission
  ExceptT.lift do
    let result ← (processJob settings receipt.jobId submission.content).run
    settle receipt.jobId result
  confirmJob receipt.jobId []

def IsAcceptable (submission : Submission) : Prop :=
  (∃ kind, submittedKind submission.kind = .ok kind) ∧ Text.isBlankText submission.content = false

/-! ## Submission -/

theorem submit_refused {submission : Submission} (refused : ¬ IsAcceptable submission) :
    ∃ fault, ∀ around s, (submit submission).outcome around s = (.error fault, s) := by
  cases named : submittedKind submission.kind with
  | error fault =>
      refine ⟨fault, fun around s => ?_⟩
      unfold submit createJob
      rw [named]
      rfl
  | ok kind =>
      have blank : Text.isBlankText submission.content = true := by
        by_contra filled
        exact refused ⟨⟨kind, named⟩, by simpa using filled⟩
      refine ⟨.invalidRequest "content must not be empty.", fun around s => ?_⟩
      unfold submit createJob
      rw [named, blank]
      rfl

variable {around : Surroundings}

theorem outcome_submit {submission : Submission} (acceptable : IsAcceptable submission) {s : Situation}
    (fresh : ∀ past, s.memory.job? (around past (.newId .job)) = none) :
    ∃ job s', (submit submission).outcome around s = (.ok ⟨job.id, .pending⟩, s') ∧
      s.memory.job? job.id = none ∧ job.status = JobStatus.pending.name ∧
      s'.memory = { s.memory with jobs := s.memory.jobs ++ [job] } := by
  obtain ⟨⟨kind, named⟩, filled⟩ := acceptable
  let timed := s.next around .now
  let drawn := timed.next around (.newId .job)
  let job := newJob (timed.answer around (.newId .job)) kind submission.content (s.answer around .now)
  let inserted := drawn.next around (.store (.insertJob job))
  have new : s.memory.job? job.id = none := fresh _
  have inserts : s.memory.perform (.insertJob job) =
      (.ok (), { s.memory with jobs := s.memory.jobs ++ [job] }) := by
    rcases insertJob_cases s.memory job with ⟨there, _⟩ | ⟨_, done, _⟩
    · simp [new] at there
    · exact done
  have creates : (createJob submission).outcome around s = (.ok job, inserted) := by
    unfold createJob
    rw [named, filled, Operation.outcome_bind, Operation.outcome_liftM]
    dsimp only
    rw [if_neg Bool.false_ne_true, Operation.outcome_bind, Operation.outcome_ask]
    dsimp only
    rw [Operation.outcome_bind, Operation.outcome_ask]
    dsimp only
    have answer : (drawn.memory.perform (.insertJob job)).1 = .ok () := congrArg Prod.fst inserts
    rw [Operation.outcome_bind, Operation.outcome_store, answer]
    rfl
  refine ⟨job, inserted.next around (.process job.id job.rawInput), ?_, new, rfl, congrArg Prod.snd inserts⟩
  unfold submit
  rw [Operation.outcome_bind, creates]
  rfl

/-! ## What is committed -/

variable {candidates : List Candidate} {resolver : String → Awaited Resolution}
  {settings : IngestSettings} {jobId : Uuid}

/-- A candidate of an ingredient such that the text of no other one comes behind its own. -/
structure IsLast (resolver : String → Awaited Resolution) (candidates : List Candidate)
    (ingredientId : Uuid) (candidate : Candidate) : Prop where
  member : candidate ∈ candidates
  known : knownAs resolver candidate = some ingredientId
  last : ∀ other ∈ candidates, knownAs resolver other = some ingredientId →
    ¬ candidate.rawText < other.rawText

theorem jobId_of_staged {found : List Candidate} {items : List StagedItem}
    (staged : List.Forall₂ (StagedAs settings jobId resolver) found items) :
    ∀ item ∈ items, item.jobId = jobId := by
  induction staged with
  | nil => simp
  | cons first later ih => exact List.forall_mem_cons.mpr ⟨jobId_stagedAs first, ih⟩

theorem map_stagedAs {found : List Candidate} {items : List StagedItem}
    (staged : List.Forall₂ (StagedAs settings jobId resolver) found items) :
    items.map (fun item => (item.rawText, committed? [] item)) =
      found.map fun candidate => (candidate.rawText, stockAs resolver candidate) := by
  induction staged with
  | nil => rfl
  | cons first later ih =>
      rw [List.map_cons, List.map_cons, rawText_stagedAs first, committed?_stagedAs first, ih]

theorem knownAs_eq_some_iff {candidate : Candidate} {ingredientId : Uuid} :
    knownAs resolver candidate = some ingredientId ↔
      ∃ stock, stockAs resolver candidate = some stock ∧ stock.ingredientId = ingredientId := by
  unfold stockAs
  cases knownAs resolver candidate with
  | none => simp
  | some other => simp

def counted (stocks : List (Option Stock)) : Nat × Nat :=
  ((stocks.filterMap id).length, (stocks.filter Option.isNone).length)

theorem counted_map_committed? (overrides : List Override) (items : List StagedItem) :
    counted (items.map (committed? overrides)) =
      ((walk overrides items).length, (leftOut overrides items).length) := by
  simp [counted, walk, leftOut, List.filterMap_map, List.filter_map, Function.comp_def]

theorem lastOf_walk {overrides : List Override} {items : List StagedItem} {i : Uuid} {stock : Stock}
    (last : lastOf (walk overrides items) i = some stock) :
    ∃ before item after, items = before ++ item :: after ∧ committed? overrides item = some stock ∧
      stock.ingredientId = i ∧
      ∀ x ∈ after, ∀ other, committed? overrides x = some other → other.ingredientId ≠ i := by
  unfold lastOf walk at last
  rw [List.findRev?_eq_find?_reverse, ← List.filterMap_reverse, List.find?_filterMap] at last
  obtain ⟨item, found, committed⟩ := Option.bind_eq_some_iff.mp last
  obtain ⟨picked, after, before, split, notAfter⟩ := List.find?_eq_some_iff_append.mp found
  refine ⟨before.reverse, item, after.reverse, ?_, committed, ?_, ?_⟩
  · rw [← List.reverse_reverse items, split]
    simp
  · simpa [committed] using picked
  · intro x member other there
    simpa [there] using notAfter x (List.mem_reverse.mp member)

def ListedBefore (other item : StagedItem) : Prop :=
  other.rawText < item.rawText ∨ other.rawText = item.rawText ∧ other.id.value.toNat ≤ item.id.value.toNat

theorem Commits.exists_last {before after : Memory} {job : Job} {overrides : List Override}
    {items : List StagedItem} {done : Confirmation} (commits : Commits before after job overrides items done)
    {i : Uuid} (named : i ∈ (walk overrides items).map (·.ingredientId)) :
    ∃ item ∈ items, ∃ stock, committed? overrides item = some stock ∧ stock.ingredientId = i ∧
      after.stocksOf i = [stock] ∧ ∀ other ∈ items, ∀ value, committed? overrides other = some value →
        value.ingredientId = i → ListedBefore other item := by
  obtain ⟨stock, row, last, only, sameStock, _⟩ := commits.replaced i named
  obtain ⟨earlier, item, later, split, committed, ofIngredient, notLater⟩ := lastOf_walk last
  have stocks : after.stocksOf i = [stock] := by rw [Memory.stocksOf, only, List.map_singleton, sameStock]
  have inOrder := commits.inOrder
  rw [split] at inOrder ⊢
  refine ⟨item, by simp, stock, committed, ofIngredient, stocks, ?_⟩
  intro other listed value otherCommitted otherOf
  rw [List.mem_append, List.mem_cons] at listed
  rcases listed with before | rfl | after
  · exact (List.pairwise_append.mp inOrder).2.2 other before item List.mem_cons_self
  · exact .inr ⟨rfl, Nat.le_refl _⟩
  · exact absurd otherOf (notLater other after value otherCommitted)

/-- An item of a job that is listed behind all others of its ingredient, which is left with its stock. -/
structure Decides (after : Memory) (jobId ingredientId : Uuid) (item : StagedItem) : Prop where
  member : item ∈ after.staged
  ofJob : item.jobId = jobId
  ofIngredient : item.ingredientId = some ingredientId
  last : ∀ other ∈ after.staged, other.jobId = jobId → other.ingredientId = some ingredientId →
    ListedBefore other item
  stocks : after.stocksOf ingredientId = [⟨ingredientId, item.quantity, Text.trim item.unit, none⟩]

theorem committed?_nil_eq_some {item : StagedItem} {ingredientId : Uuid}
    (known : item.ingredientId = some ingredientId) :
    committed? [] item = some ⟨ingredientId, item.quantity, Text.trim item.unit, none⟩ := by
  rw [committed?_nil, known]
  rfl

theorem Commits.decides {before after : Memory} {job : Job} {items : List StagedItem} {done : Confirmation}
    (commits : Commits before after job [] items done) {i : Uuid}
    (named : i ∈ (walk [] items).map (·.ingredientId)) : ∃ item, Decides after done.jobId i item := by
  obtain ⟨item, listed, stock, committed, rfl, stocks, last⟩ := commits.exists_last named
  obtain ⟨ingredientId, known, rfl⟩ := Option.map_eq_some_iff.mp committed
  have ownItems (x : StagedItem) : x ∈ items ↔ x ∈ after.staged ∧ x.jobId = done.jobId := by
    rw [commits.listed.mem_iff, commits.staged, commits.confirmed.1, List.mem_filter, beq_iff_eq]
  obtain ⟨member, ofJob⟩ := (ownItems item).mp listed
  refine ⟨item, member, ofJob, known, ?_, stocks⟩
  intro other there ofSameJob ofSame
  exact last other ((ownItems other).mpr ⟨there, ofSameJob⟩) _ (committed?_nil_eq_some ofSame) rfl

structure Harvested (resolver : String → Awaited Resolution) (candidates : List Candidate)
    (before after : Memory) (done : Confirmation) : Prop where
  counts : counts done = counted (candidates.map (stockAs resolver))
  untouched : ∀ i, (∀ candidate ∈ candidates, knownAs resolver candidate ≠ some i) →
    after.stocksOf i = before.stocksOf i
  decided : ∀ i, (∃ candidate ∈ candidates, knownAs resolver candidate = some i) →
    ∃ candidate, IsLast resolver candidates i candidate ∧
      after.stocksOf i = (stockAs resolver candidate).toList
  decides : ∀ i, (∃ candidate ∈ candidates, knownAs resolver candidate = some i) →
    ∃ item, Decides after done.jobId i item

theorem Commits.harvested {before after initial : Memory} {job : Job} {items : List StagedItem}
    {done : Confirmation} (commits : Commits before after job [] items done)
    (staged : (items.map fun item => (item.rawText, committed? [] item)).Perm
      (candidates.map fun candidate => (candidate.rawText, stockAs resolver candidate)))
    (pantry : before.pantry = initial.pantry) : Harvested resolver candidates initial after done := by
  have sameStocks : (items.map (committed? [])).Perm (candidates.map (stockAs resolver)) := by
    have same := staged.map Prod.snd
    rwa [List.map_map, List.map_map] at same
  have named (i : Uuid) : i ∈ (walk [] items).map (·.ingredientId) ↔
      ∃ candidate ∈ candidates, knownAs resolver candidate = some i := by
    have walked : (walk [] items).Perm (candidates.filterMap (stockAs resolver)) := by
      have same := sameStocks.filterMap id
      rwa [List.filterMap_map, List.filterMap_map] at same
    rw [(walked.map _).mem_iff]
    simp only [List.mem_map, List.mem_filterMap, knownAs_eq_some_iff]
    constructor
    · rintro ⟨stock, ⟨candidate, member, made⟩, same⟩
      exact ⟨candidate, member, stock, made, same⟩
    · rintro ⟨candidate, member, stock, made, same⟩
      exact ⟨stock, ⟨candidate, member, made⟩, same⟩
  constructor
  case counts =>
    have written := commits.itemIds.length_eq
    unfold counts
    rw [commits.skipped, written, ← counted_map_committed?]
    exact Prod.ext (sameStocks.filterMap id).length_eq (sameStocks.filter _).length_eq
  case untouched =>
    intro i unnamed
    have kept := commits.untouched i fun there => by
      obtain ⟨candidate, member, known⟩ := (named i).mp there
      exact unnamed candidate member known
    unfold Memory.stocksOf
    rw [kept]
    unfold Memory.rowsOf
    rw [pantry]
  case decided =>
    intro i there
    obtain ⟨item, listed, stock, committed, ofIngredient, stocks, last⟩ :=
      commits.exists_last ((named i).mpr there)
    obtain ⟨candidate, member, same⟩ := List.mem_map.mp
      (staged.mem_iff.mp (List.mem_map_of_mem listed))
    obtain ⟨sameText, sameValue⟩ := Prod.mk.inj same
    have made : stockAs resolver candidate = some stock := sameValue.trans committed
    refine ⟨candidate, ⟨member, knownAs_eq_some_iff.mpr ⟨stock, made, ofIngredient⟩, ?_⟩, ?_⟩
    · -- The item of another candidate of the ingredient is listed before this one.
      intro other otherMember otherKnown behind
      obtain ⟨value, otherMade, otherOf⟩ := knownAs_eq_some_iff.mp otherKnown
      obtain ⟨x, xListed, xSame⟩ := List.mem_map.mp
        (staged.mem_iff.mpr (List.mem_map_of_mem otherMember))
      obtain ⟨xText, xValue⟩ := Prod.mk.inj xSame
      rw [← xText, sameText] at behind
      rcases last x xListed value (xValue.trans otherMade) otherOf with lower | ⟨equal, _⟩
      · exact String.lt_asymm lower behind
      · exact String.lt_irrefl _ (equal ▸ behind)
    · rw [made, stocks]
      rfl
  case decides => exact fun i there => commits.decides ((named i).mpr there)

theorem outcome_ingest (settings : IngestSettings) (provides : Provides around candidates resolver)
    {submission : Submission} (acceptable : IsAcceptable submission) {s : Situation}
    (unique : s.memory.OnePerIngredient)
    (unlimited : s.memory.failUpsertsAfter = none) (accepting : s.memory.failStagedInserts = false)
    (owned : ∀ item ∈ s.memory.staged, (s.memory.job? item.jobId).isSome)
    (fresh : ∀ past, s.memory.job? (around past (.newId .job)) = none) :
    ∃ done s', (ingest settings submission).outcome around s = (.ok done, s') ∧
      Harvested resolver candidates s.memory s'.memory done := by
  obtain ⟨job, submitted, submits, new, pending, submittedMemory⟩ := outcome_submit acceptable fresh
  have present : submitted.memory.job? job.id = some job := by
    rw [submittedMemory]
    unfold Memory.job? at new ⊢
    simp [List.find?_append, new]
  obtain ⟨found, time, processed, processes, staged, processedMemory⟩ :=
    outcome_processJob settings provides submission.content (s := submitted)
      (by rw [submittedMemory]; exact accepting) present pending
  let held : Memory := { submitted.memory with staged := submitted.memory.staged ++ found }
  have isStaged : processed.memory.job? job.id = some (job.apply
      ⟨job.id, JobStatus.pending.name, JobStatus.staged.name, none, time⟩) := by
    have heldPresent : held.job? job.id = some job := present
    rw [processedMemory]
    exact (job?_transition heldPresent pending job.id).trans (if_pos rfl)
  have pantry : processed.memory.pantry = s.memory.pantry := by
    rw [processedMemory, transition_pantry, submittedMemory]
  have items : processed.memory.staged.filter (·.jobId == job.id) = found := by
    have others : s.memory.staged.filter (·.jobId == job.id) = [] := by
      rw [List.filter_eq_nil_iff]
      intro item member ofJob
      have there := owned item member
      rw [beq_iff_eq.mp ofJob, new] at there
      cases there
    have own : found.filter (·.jobId == job.id) = found := by
      rw [List.filter_eq_self]
      exact fun item member => beq_iff_eq.mpr (jobId_of_staged staged item member)
    rw [processedMemory, transition_staged, submittedMemory, List.filter_append, others, own]
    rfl
  have stillUnique : processed.memory.OnePerIngredient := by
    unfold OnePerIngredient
    rw [pantry]
    exact unique
  have stillUnlimited : processed.memory.failUpsertsAfter = none := by
    rw [processedMemory, transition_failUpsertsAfter, submittedMemory]
    exact unlimited
  have nothing : checkOverrides job.id ((processed.memory.listStaged job.id).map (·.id)) [] 0 [] = .ok () := rfl
  obtain ⟨done, s', confirms, commits, _⟩ :=
    outcome_confirmJob_commits around stillUnique isStaged rfl nothing stillUnlimited
  refine ⟨done, s', ?_, commits.harvested ?_ pantry⟩
  · unfold ingest
    rw [Operation.outcome_bind, submits]
    dsimp only
    unfold Operation.outcome at processes
    rw [Operation.outcome_bind, Operation.outcome_lift, Program.run_bind, processes]
    exact confirms
  · rw [← map_stagedAs staged, ← items]
    exact commits.listed.map _

/-! ## Two runs -/

/-- The candidates of an ingredient that have the last text among them go into the pantry as the same. -/
def Agreed (resolver : String → Awaited Resolution) (candidates : List Candidate) (ingredientId : Uuid) :
    Prop :=
  ∀ first second, IsLast resolver candidates ingredientId first →
    IsLast resolver candidates ingredientId second → stockAs resolver first = stockAs resolver second

theorem Harvested.stocksOf_eq {before after after' : Memory} {done done' : Confirmation}
    (harvested : Harvested resolver candidates before after done)
    (harvested' : Harvested resolver candidates before after' done') {i : Uuid}
    (agreed : Agreed resolver candidates i) : after.stocksOf i = after'.stocksOf i := by
  by_cases named : ∃ candidate ∈ candidates, knownAs resolver candidate = some i
  · obtain ⟨candidate, isLast, stock⟩ := harvested.decided i named
    obtain ⟨candidate', isLast', stock'⟩ := harvested'.decided i named
    rw [stock, stock', agreed candidate candidate' isLast isLast']
  · have unnamed : ∀ candidate ∈ candidates, knownAs resolver candidate ≠ some i :=
      fun candidate member known => named ⟨candidate, member, known⟩
    rw [harvested.untouched i unnamed, harvested'.untouched i unnamed]

/-- Two runs over the same store, whatever ids and times they draw. -/
theorem ingest_sameStocks {around around' : Surroundings} {m : Memory}
    (provides : Provides around candidates resolver) (provides' : Provides around' candidates resolver)
    (unique : m.OnePerIngredient) (unlimited : m.failUpsertsAfter = none)
    (accepting : m.failStagedInserts = false)
    (owned : ∀ item ∈ m.staged, (m.job? item.jobId).isSome)
    (fresh : ∀ past, m.job? (around past (.newId .job)) = none)
    (fresh' : ∀ past, m.job? (around' past (.newId .job)) = none) (settings : IngestSettings)
    (submission : Submission) (past past' : List Event) :
    let first := (ingest settings submission).outcome around ⟨m, past⟩
    let second := (ingest settings submission).outcome around' ⟨m, past'⟩
    first.1.map counts = second.1.map counts ∧
      (IsAcceptable submission → ∃ done done', first.1 = .ok done ∧ second.1 = .ok done' ∧
        ∀ i, (∃ candidate ∈ candidates, knownAs resolver candidate = some i) →
          (∃ item, Decides first.2.memory done.jobId i item) ∧
            ∃ item, Decides second.2.memory done'.jobId i item) ∧
      ∀ i, Agreed resolver candidates i → first.2.memory.stocksOf i = second.2.memory.stocksOf i := by
  intro first second
  by_cases acceptable : IsAcceptable submission
  · obtain ⟨done, s, goes, harvested⟩ := outcome_ingest settings provides acceptable
      (s := ⟨m, past⟩) unique unlimited accepting owned fresh
    obtain ⟨done', s', goes', harvested'⟩ := outcome_ingest settings provides' acceptable
      (s := ⟨m, past'⟩) unique unlimited accepting owned fresh'
    dsimp only [first, second]
    rw [goes, goes']
    refine ⟨?_, fun _ => ⟨done, done', rfl, rfl, fun i named => ?_⟩,
      fun i agreed => harvested.stocksOf_eq harvested' agreed⟩
    · exact congrArg Except.ok (harvested.counts.trans harvested'.counts.symm)
    · exact ⟨harvested.decides i named, harvested'.decides i named⟩
  · obtain ⟨fault, refused⟩ := submit_refused acceptable
    have stops (around : Surroundings) (s : Situation) :
        (ingest settings submission).outcome around s = (.error fault, s) := by
      unfold ingest
      rw [Operation.outcome_bind, refused]
    dsimp only [first, second]
    rw [stops, stops]
    exact ⟨rfl, fun there => absurd there acceptable, fun _ _ => rfl⟩

/-! ## Milk, twice

The extractor finds milk in two quantities. Where both have one text, the ids of their items decide. -/

namespace Kitchen

def milks (first second : String) : List Candidate :=
  [⟨first, "milk", 1.0, "l", 0.9⟩, ⟨second, "milk", 2.0, "l", 0.9⟩]

def dictionary : String → Awaited Resolution :=
  fun name => .answered (.ok ⟨⟨milk, name⟩, 1.0, false⟩)

def drawing (candidates : List Candidate) (ids : Nat → Uuid) : Surroundings := fun past effect =>
  match effect with
  | .extract _ _ => .answered (.ok candidates)
  | .resolve name _ => dictionary name
  | .newId _ => ids past.length
  | effect => surroundings past effect

def upwards (count : Nat) : Uuid := ⟨BitVec.ofNat 128 (100 + count)⟩

def downwards (count : Nat) : Uuid := ⟨BitVec.ofNat 128 (900 - count)⟩

theorem drawing_provides (candidates : List Candidate) (ids : Nat → Uuid) :
    Provides (drawing candidates ids) candidates dictionary :=
  ⟨fun _ _ _ => rfl, fun _ _ _ => rfl⟩

def shoppingList : Submission := ⟨none, "milk and milk"⟩

def accepted (ids : Nat → Uuid) : Situation :=
  ((submit shoppingList).outcome (drawing (milks "milk" "milk") ids) ⟨.empty, []⟩).2

def processed (ids : Nat → Uuid) : Situation :=
  (Program.run (drawing (milks "milk" "milk") ids) (do
    let result ← (processJob .default (ids 1) shoppingList.content).run
    settle (ids 1) result) (accepted ids)).2

theorem ingest_milks (ids : Nat → Uuid) :
    (ingest .default shoppingList).outcome (drawing (milks "milk" "milk") ids) ⟨.empty, []⟩ =
      (confirmJob (ids 1) []).outcome (drawing (milks "milk" "milk") ids) (processed ids) := by
  have submits : (submit shoppingList).outcome (drawing (milks "milk" "milk") ids) ⟨.empty, []⟩ =
      (.ok ⟨ids 1, .pending⟩, accepted ids) := rfl
  unfold ingest
  rw [Operation.outcome_bind, submits]
  dsimp only
  rw [Operation.outcome_bind, Operation.outcome_lift]
  rfl

def milkItem (ids : Nat → Uuid) (drawn : Nat) (quantity : Float) : StagedItem :=
  ⟨ids drawn, ids 1, some milk, "milk", quantity, "l", 0.9, false, noon, noon⟩

theorem exists_ingest_milks (ids : Nat → Uuid) (drawn : Nat) (quantity : Float)
    (present : (processed ids).memory.job? (ids 1) = some ⟨ids 1, JobKind.textBlob.name,
      shoppingList.content, JobStatus.staged.name, none, noon, noon⟩)
    (unique : (processed ids).memory.OnePerIngredient)
    (unlimited : (processed ids).memory.failUpsertsAfter = none)
    (own : milkItem ids drawn quantity ∈ (processed ids).memory.staged)
    (greatest : ∀ item ∈ (processed ids).memory.staged, item = milkItem ids drawn quantity ∨
      item.rawText = "milk" ∧ item.id.value.toNat < (ids drawn).value.toNat) :
    ∃ done s, (ingest .default shoppingList).outcome (drawing (milks "milk" "milk") ids) ⟨.empty, []⟩ =
        (.ok done, s) ∧ s.memory.stocksOf milk = [⟨milk, quantity, "l", none⟩] := by
  have nothing : checkOverrides (ids 1) (((processed ids).memory.listStaged (ids 1)).map (·.id)) [] 0 [] =
      .ok () := rfl
  obtain ⟨done, s, confirms, commits, _⟩ := outcome_confirmJob_commits
    (drawing (milks "milk" "milk") ids) unique present rfl nothing unlimited
  have listed : milkItem ids drawn quantity ∈ (processed ids).memory.listStaged (ids 1) :=
    Memory.mem_listStaged.mpr ⟨own, rfl⟩
  have named : milk ∈ (walk [] ((processed ids).memory.listStaged (ids 1))).map (·.ingredientId) :=
    List.mem_map.mpr ⟨_, List.mem_filterMap.mpr ⟨_, listed, committed?_nil_eq_some rfl⟩, rfl⟩
  obtain ⟨item, decides⟩ := commits.decides named
  have same : item = milkItem ids drawn quantity := by
    have member := decides.member
    rw [commits.staged] at member
    rcases greatest item member with same | ⟨text, lower⟩
    · exact same
    · have stillOwn : milkItem ids drawn quantity ∈ s.memory.staged := by rwa [commits.staged]
      rcases decides.last _ stillOwn commits.confirmed.1.symm rfl with higher | ⟨_, higher⟩
      · exact absurd higher (text ▸ String.lt_irrefl _)
      · exact absurd lower (Nat.not_lt.mpr higher)
  have trimmed : Text.trim "l" = "l" := by decide
  refine ⟨done, s, (ingest_milks ids).trans confirms, ?_⟩
  rw [decides.stocks, same]
  exact congrArg (fun unit => [(⟨milk, quantity, unit, none⟩ : Stock)]) trimmed

end Kitchen

open Kitchen in
/-- Two runs that draw other ids and are alike in everything else can end with other stocks. -/
theorem ingest_depends_on_ids :
    ∃ done done' s s',
      Provides (drawing (milks "milk" "milk") upwards) (milks "milk" "milk") dictionary ∧
      Provides (drawing (milks "milk" "milk") downwards) (milks "milk" "milk") dictionary ∧
      (∀ past effect, (∀ kind, effect ≠ .newId kind) →
        drawing (milks "milk" "milk") upwards past effect =
          drawing (milks "milk" "milk") downwards past effect) ∧
      (ingest .default shoppingList).outcome (drawing (milks "milk" "milk") upwards) ⟨.empty, []⟩ =
        (.ok done, s) ∧
      (ingest .default shoppingList).outcome (drawing (milks "milk" "milk") downwards) ⟨.empty, []⟩ =
        (.ok done', s') ∧
      s.memory.stocksOf milk ≠ s'.memory.stocksOf milk := by
  have upwardsStaged : (processed upwards).memory.staged =
      [milkItem upwards 7 1.0, milkItem upwards 11 2.0] := rfl
  have downwardsStaged : (processed downwards).memory.staged =
      [milkItem downwards 7 1.0, milkItem downwards 11 2.0] := rfl
  obtain ⟨done, s, up, two⟩ := exists_ingest_milks upwards 11 2.0
    rfl (by unfold OnePerIngredient; decide) rfl (by simp [upwardsStaged]) (by
      rw [upwardsStaged, List.forall_mem_cons, List.forall_mem_singleton]
      exact ⟨.inr (by decide), .inl rfl⟩)
  obtain ⟨done', s', down, one⟩ := exists_ingest_milks downwards 7 1.0
    rfl (by unfold OnePerIngredient; decide) rfl (by simp [downwardsStaged]) (by
      rw [downwardsStaged, List.forall_mem_cons, List.forall_mem_singleton]
      exact ⟨.inl rfl, .inr (by decide)⟩)
  refine ⟨done, done', s, s', drawing_provides _ _, drawing_provides _ _, ?_, up, down, ?_⟩
  · intro past effect other
    cases effect with
    | newId kind => exact absurd rfl (other kind)
    | _ => rfl
  · rw [two, one]
    intro same
    have quantities : (2.0 : Float) = 1.0 := congrArg Stock.quantity (List.cons.inj same).1
    exact absurd quantities (by decide)

namespace Kitchen

theorem milks_agreed : Agreed dictionary (milks "a carton of milk" "more milk") milk := by
  have last {candidate : Candidate}
      (isLast : IsLast dictionary (milks "a carton of milk" "more milk") milk candidate) :
      candidate = ⟨"more milk", "milk", 2.0, "l", 0.9⟩ := by
    have member := isLast.member
    unfold milks at member
    rw [List.mem_cons, List.mem_singleton] at member
    rcases member with rfl | same
    · exact absurd (by decide) (isLast.last _ (.tail _ (.head _)) (by decide))
    · exact same
  intro first second isFirst isSecond
  rw [last isFirst, last isSecond]

end Kitchen

open Kitchen in
theorem ingest_sameStocks_kitchen :
    let up := drawing (milks "a carton of milk" "more milk") upwards
    let down := drawing (milks "a carton of milk" "more milk") downwards
    Provides up (milks "a carton of milk" "more milk") dictionary ∧
      Provides down (milks "a carton of milk" "more milk") dictionary ∧
      Memory.empty.OnePerIngredient ∧ Memory.empty.failUpsertsAfter = none ∧
      Memory.empty.failStagedInserts = false ∧
      (∀ item ∈ Memory.empty.staged, (Memory.empty.job? item.jobId).isSome) ∧
      (∀ past, Memory.empty.job? (up past (.newId .job)) = none) ∧
      (∀ past, Memory.empty.job? (down past (.newId .job)) = none) ∧
      (∃ done item, ((ingest .default shoppingList).outcome up ⟨.empty, []⟩).1 = .ok done ∧
        Decides ((ingest .default shoppingList).outcome up ⟨.empty, []⟩).2.memory done.jobId milk item) ∧
      ((ingest .default shoppingList).outcome up ⟨.empty, []⟩).2.memory.stocksOf milk =
        ((ingest .default shoppingList).outcome down ⟨.empty, []⟩).2.memory.stocksOf milk := by
  intro up down
  have provides : Provides up (milks "a carton of milk" "more milk") dictionary :=
    drawing_provides _ _
  have provides' : Provides down (milks "a carton of milk" "more milk") dictionary :=
    drawing_provides _ _
  have unique : Memory.empty.OnePerIngredient := by
    unfold OnePerIngredient
    decide
  have acceptable : IsAcceptable shoppingList := ⟨⟨.textBlob, rfl⟩, by decide⟩
  obtain ⟨_, returns, same⟩ := ingest_sameStocks provides provides' unique rfl rfl
    (fun _ member => absurd member List.not_mem_nil) (fun _ => rfl) (fun _ => rfl) .default
    shoppingList [] []
  obtain ⟨done, _, goes, _, decided⟩ := returns acceptable
  obtain ⟨⟨item, decides⟩, _⟩ := decided milk ⟨_, List.mem_cons_self, rfl⟩
  exact ⟨provides, provides', unique, rfl, rfl, fun _ member => absurd member List.not_mem_nil,
    fun _ => rfl, fun _ => rfl, ⟨done, item, goes, decides⟩, same milk milks_agreed⟩

end Service

end Larder
