import Larder.Proofs.Review.Commit

namespace Larder.Service
open Memory

/-- Surroundings with an extractor that finds these candidates and a dictionary that looks at the name
alone. -/
structure Provides (around : Surroundings) (candidates : List Candidate)
    (resolver : String → Awaited Resolution) : Prop where
  extracts : ∀ past text budget, around past (.extract text budget) = .answered (.ok candidates)
  resolves : ∀ past name budget, around past (.resolve name budget) = resolver name

def ingredientOf : Awaited Resolution → Option Uuid
  | .answered (.ok resolution) => some resolution.ingredient.id
  | _ => none

def knownAs (resolver : String → Awaited Resolution) (candidate : Candidate) : Option Uuid :=
  if Text.trim candidate.name = "" then none else ingredientOf (resolver (Text.trim candidate.name))

def stockAs (resolver : String → Awaited Resolution) (candidate : Candidate) : Option Stock :=
  let repaired := Candidate.repair candidate.quantity candidate.unit candidate.confidence
  (knownAs resolver candidate).map fun ingredientId =>
    ⟨ingredientId, repaired.quantity, Text.trim repaired.unit, none⟩

def StagedAs (settings : IngestSettings) (jobId : Uuid) (resolver : String → Awaited Resolution)
    (candidate : Candidate) (item : StagedItem) : Prop :=
  ∃ id now, item =
    stagedItem settings.reviewThreshold jobId candidate (knownAs resolver candidate) id now

variable {around : Surroundings} {candidates : List Candidate} {resolver : String → Awaited Resolution}
  {settings : IngestSettings} {jobId : Uuid}

theorem committed?_stagedAs {candidate : Candidate} {item : StagedItem}
    (staged : StagedAs settings jobId resolver candidate item) :
    committed? [] item = stockAs resolver candidate := by
  obtain ⟨id, now, rfl⟩ := staged
  rfl

theorem rawText_stagedAs {candidate : Candidate} {item : StagedItem}
    (staged : StagedAs settings jobId resolver candidate item) :
    item.rawText = candidate.rawText := by
  obtain ⟨id, now, rfl⟩ := staged
  rfl

theorem jobId_stagedAs {candidate : Candidate} {item : StagedItem}
    (staged : StagedAs settings jobId resolver candidate item) : item.jobId = jobId := by
  obtain ⟨id, now, rfl⟩ := staged
  rfl

/-! ## Running -/

def resolutionOf (settings : IngestSettings) : Awaited Resolution → Except ServiceError Resolution
  | .answered (.ok resolution) => .ok resolution
  | .answered (.error fault) => .error (.ofProvider fault)
  | .timedOut =>
      .error (.provider ("Resolver timed out after " ++ toString settings.resolveTimeout ++ " ms."))

theorem resolutionOf_eq_ok {answer : Awaited Resolution} {resolution : Resolution}
    (resolved : resolutionOf settings answer = .ok resolution) : answer = .answered (.ok resolution) := by
  rcases answer with (failure | found) | _
  · cases resolved
  · rw [Except.ok.inj resolved]
  · cases resolved

theorem outcome_resolveName (around : Surroundings) (settings : IngestSettings) (name : String) (s : Situation) :
    let asked : Effect := .resolve name settings.resolveTimeout
    (resolveName settings name).outcome around s =
      (resolutionOf settings (s.answer around asked), s.next around asked) := by
  intro asked
  unfold resolveName
  rw [Operation.outcome_bind, Operation.outcome_ask]
  dsimp only
  rcases s.answer around asked with (fault | resolution) | _ <;> rfl

theorem run_candidateIngredient (settings : IngestSettings) (candidate : Candidate) (s : Situation) :
    let asked : Effect := .resolve (Text.trim candidate.name) settings.resolveTimeout
    (candidateIngredient settings candidate).run around s =
      if Text.trim candidate.name = "" then (none, s)
      else (ingredientOf (s.answer around asked), s.next around asked) := by
  intro asked
  unfold candidateIngredient
  dsimp only
  by_cases nameless : Text.trim candidate.name = ""
  · simp [nameless]
  · have resolves := outcome_resolveName around settings (Text.trim candidate.name) s
    unfold Operation.outcome at resolves
    rw [if_neg (by simpa using nameless), if_neg nameless, Program.run_bind, resolves]
    rcases s.answer around asked with (fault | resolution) | _ <;> rfl

theorem run_stageCandidate_eq (around : Surroundings) (settings : IngestSettings) (jobId : Uuid)
    (candidate : Candidate) (s : Situation) :
    let name := Text.trim candidate.name
    let asked : Effect := .resolve name settings.resolveTimeout
    ∃ id now told, (stageCandidate settings jobId candidate).run around s =
        (stagedItem settings.reviewThreshold jobId candidate
          (if name = "" then none else ingredientOf (s.answer around asked)) id now,
          (told.next around .now).next around (.newId .stagedItem)) ∧
      told = (if name = "" then s else s.next around asked) ∧ told.memory = s.memory := by
  intro name asked
  unfold stageCandidate
  rw [Program.run_bind, run_candidateIngredient]
  by_cases nameless : name = ""
  · rw [if_pos nameless, if_pos nameless, if_pos nameless]
    exact ⟨_, _, s, rfl, rfl, rfl⟩
  · rw [if_neg nameless, if_neg nameless, if_neg nameless]
    exact ⟨_, _, s.next around asked, rfl, rfl, rfl⟩

theorem run_stageCandidate (settings : IngestSettings) (jobId : Uuid)
    (provides : Provides around candidates resolver) (candidate : Candidate) (s : Situation) :
    ∃ item s', (stageCandidate settings jobId candidate).run around s = (item, s') ∧
      StagedAs settings jobId resolver candidate item ∧ s'.memory = s.memory := by
  obtain ⟨id, now, told, runs, _, sameMemory⟩ := run_stageCandidate_eq around settings jobId candidate s
  have answer : s.answer around (.resolve (Text.trim candidate.name) settings.resolveTimeout) =
      resolver (Text.trim candidate.name) := provides.resolves s.past _ _
  rw [answer] at runs
  exact ⟨_, _, runs, ⟨id, now, rfl⟩, sameMemory⟩

theorem insertStaged_ok {m : Memory} {item : StagedItem} (accepting : m.failStagedInserts = false)
    (owned : (m.job? item.jobId).isSome) : m.insertStaged item = (.ok (), m.putStaged item) := by
  unfold Memory.insertStaged
  rw [accepting, if_neg (by simp), if_neg (by simpa [Option.isSome_iff_ne_none] using owned)]

theorem outcome_stageAll_of (settings : IngestSettings) {made : Candidate → StagedItem → Prop}
    (runs : ∀ candidate s, ∃ item s', (stageCandidate settings jobId candidate).run around s = (item, s') ∧
      made candidate item ∧ s'.memory = s.memory)
    (own : ∀ candidate item, made candidate item → item.jobId = jobId)
    (found : List Candidate) {s : Situation} (accepting : s.memory.failStagedInserts = false)
    (present : (s.memory.job? jobId).isSome) :
    ∃ items s', (stageAll settings jobId found).outcome around s = (.ok (), s') ∧
      List.Forall₂ made found items ∧
      s'.memory = { s.memory with staged := s.memory.staged ++ items } := by
  induction found generalizing s with
  | nil => exact ⟨[], s, rfl, .nil, by simp⟩
  | cons candidate rest ih =>
      obtain ⟨item, ready, runs, staged, sameMemory⟩ := runs candidate s
      have owned : (s.memory.job? item.jobId).isSome := by
        rw [own candidate item staged]
        exact present
      have inserts := insertStaged_ok accepting owned
      let stored := ready.next around (.store (.insertStaged item))
      have stores : ready.memory.perform (.insertStaged item) = (.ok (), s.memory.putStaged item) := by
        rw [sameMemory]
        exact inserts
      have answer := congrArg Prod.fst stores
      have storedMemory : stored.memory = s.memory.putStaged item := congrArg Prod.snd stores
      obtain ⟨items, s', goes, later, memoryAfter⟩ := ih (s := stored)
        (by rw [storedMemory]; exact accepting) (by rw [storedMemory]; exact present)
      refine ⟨item :: items, s', ?_, .cons staged later, ?_⟩
      · unfold stageAll
        rw [Operation.outcome_bind, Operation.outcome_lift, runs]
        dsimp only
        rw [Operation.outcome_bind, Operation.outcome_store, answer]
        exact goes
      · rw [memoryAfter, storedMemory]
        simp [Memory.putStaged]

theorem outcome_stageAll (settings : IngestSettings) (provides : Provides around candidates resolver)
    (found : List Candidate) {s : Situation} (accepting : s.memory.failStagedInserts = false)
    (present : (s.memory.job? jobId).isSome) :
    ∃ items s', (stageAll settings jobId found).outcome around s = (.ok (), s') ∧
      List.Forall₂ (StagedAs settings jobId resolver) found items ∧
      s'.memory = { s.memory with staged := s.memory.staged ++ items } :=
  outcome_stageAll_of settings (run_stageCandidate settings jobId provides) (fun _ _ => jobId_stagedAs)
    found accepting present

def extractionOf (settings : IngestSettings) : Awaited (List Candidate) → Except ServiceError (List Candidate)
  | .answered (.ok candidates) => .ok candidates
  | .answered (.error fault) => .error (.ofProvider fault)
  | .timedOut =>
      .error (.provider ("Extraction timed out after " ++ toString settings.extractTimeout ++ " ms."))

theorem extractionOf_eq_ok {answer : Awaited (List Candidate)} {candidates : List Candidate}
    (extracted : extractionOf settings answer = .ok candidates) : answer = .answered (.ok candidates) := by
  rcases answer with (failure | found) | _
  · cases extracted
  · rw [Except.ok.inj extracted]
  · cases extracted

theorem outcome_extractCandidates (around : Surroundings) (settings : IngestSettings) (text : String)
    (s : Situation) :
    let asked : Effect := .extract text settings.extractTimeout
    (extractCandidates settings text).outcome around s =
      (extractionOf settings (s.answer around asked), s.next around asked) := by
  intro asked
  unfold extractCandidates
  rw [Operation.outcome_bind, Operation.outcome_ask]
  dsimp only
  rcases s.answer around asked with (fault | candidates) | _ <;> rfl

theorem outcome_processJob (settings : IngestSettings) (provides : Provides around candidates resolver)
    {s : Situation} {job : Job} (text : String) (accepting : s.memory.failStagedInserts = false)
    (present : s.memory.job? job.id = some job) (pending : job.status = JobStatus.pending.name) :
    ∃ items time s',
      (processJob settings job.id text).outcome around s = (.ok candidates.length, s') ∧
      List.Forall₂ (StagedAs settings job.id resolver) candidates items ∧
      s'.memory = (Memory.transition { s.memory with staged := s.memory.staged ++ items }
        ⟨job.id, JobStatus.pending.name, JobStatus.staged.name, none, time⟩).2 := by
  let asked : Effect := .extract text settings.extractTimeout
  have answer : s.answer around asked = .answered (.ok candidates) := provides.extracts s.past _ _
  have extracts : (extractCandidates settings text).outcome around s =
      (.ok candidates, s.next around asked) := by
    rw [outcome_extractCandidates, answer]
    rfl
  have owned : ((s.next around asked).memory.job? job.id).isSome := by
    rw [Situation.next_memory]
    exact present ▸ rfl
  obtain ⟨items, stored, stages, staged, storedMemory⟩ :=
    outcome_stageAll settings provides candidates (s := s.next around asked) accepting owned
  have storedMemory : stored.memory = { s.memory with staged := s.memory.staged ++ items } := storedMemory
  obtain ⟨time, s', moves, memoryAfter, _⟩ := outcome_transition around (s := stored) none
    (rfl : JobStatus.pending.canBecome .staged = true) (by rw [storedMemory]; exact present) pending
  refine ⟨items, time, s', ?_, staged, by rw [memoryAfter, storedMemory]⟩
  unfold processJob
  rw [Operation.outcome_bind, extracts]
  dsimp only
  rw [Operation.outcome_bind, stages]
  dsimp only
  rw [Operation.outcome_bind, moves]
  rfl

end Larder.Service
