import Larder.Proofs.Intake.Processing
import Larder.Proofs.Intake.Staging
import Larder.Proofs.Review.Editing
import Larder.Proofs.Service.Footprint

/-!
# Processing that comes to nothing

That a job is not pending is found out by the last step of its processing, behind the extraction and the items
that were stored on the way (`Vain`). The jobs and the pantry stay as they were, but these items stay with
the job (`processJob_refused`). A later confirmation ends as it would have ended without that run only if
there are none.
-/

namespace Larder.Service
open Memory

def insertFault : ServiceError :=
  .ofStore (.backend (.injected "staged item insert"))

inductive Vain (settings : IngestSettings) (answer : Awaited (List Candidate)) (job : Job) (m : Memory) :
    ServiceError → List StagedItem → Prop
  | unextracted {fault : ServiceError} (failed : extractionOf settings answer = .error fault) :
      Vain settings answer job m fault []
  | unstored (found : answer.found ≠ []) (refuses : m.failStagedInserts = true) :
      Vain settings answer job m insertFault []
  | late {candidates : List Candidate} {items : List StagedItem} (found : answer = .answered (.ok candidates))
      (takes : m.failStagedInserts = false ∨ candidates = [])
      (made : List.Forall₂ (StagedFor settings job.id) candidates items) :
      Vain settings answer job m (.conflict ("Job " ++ toString job.id ++ " is no longer pending.")) items

variable (around : Surroundings) {settings : IngestSettings} {answer : Awaited (List Candidate)}
  {s : Situation} {job : Job} {m : Memory}

theorem run_stageCandidate_for (settings : IngestSettings) (jobId : Uuid) (candidate : Candidate)
    (s : Situation) : ∃ item s', (stageCandidate settings jobId candidate).run around s = (item, s') ∧
      StagedFor settings jobId candidate item ∧ s'.memory = s.memory := by
  obtain ⟨id, now, told, runs, _, sameMemory⟩ := run_stageCandidate_eq around settings jobId candidate s
  exact ⟨_, _, runs, ⟨rfl, rfl, _, id, now, rfl⟩, sameMemory⟩

theorem outcome_stageAll_refused (settings : IngestSettings) (jobId : Uuid) {found : List Candidate}
    (some : found ≠ []) (refuses : s.memory.failStagedInserts = true) :
    ∃ s', (stageAll settings jobId found).outcome around s = (.error insertFault, s') ∧
      s'.memory = s.memory := by
  obtain ⟨candidate, rest, rfl⟩ := List.exists_cons_of_ne_nil some
  obtain ⟨item, ready, runs, _, sameMemory⟩ := run_stageCandidate_for around settings jobId candidate s
  have refused : ready.memory.perform (.insertStaged item) =
      (.error (.backend (.injected "staged item insert")), s.memory) := by
    simp [Memory.perform, Memory.insertStaged, sameMemory, refuses]
  refine ⟨ready.next around (.store (.insertStaged item)), ?_, congrArg Prod.snd refused⟩
  unfold stageAll
  rw [Operation.outcome_bind, Operation.outcome_lift, runs]
  dsimp only
  rw [Operation.outcome_bind, Operation.outcome_store, congrArg Prod.fst refused]
  rfl

theorem outcome_transition_refused {source target : JobStatus} (error : Option String)
    (allowed : source.canBecome target = true) (present : s.memory.job? job.id = some job)
    (other : job.status ≠ source.name) :
    ∃ s', (transition job.id source target error).outcome around s = (.ok none, s') ∧ s'.memory = s.memory := by
  let t : Transition := ⟨job.id, source.name, target.name, error, s.answer around .now⟩
  have stays : s.memory.transition t = (.ok none, s.memory) := by
    rcases transition_cases s.memory t with ⟨_, _, there, expected, _⟩ | ⟨done, _⟩
    · rw [← Option.some.inj (there.symm.trans present)] at other
      exact absurd expected other
    · exact done
  refine ⟨(s.next around .now).next around (.store (.transition t)), ?_, congrArg Prod.snd stays⟩
  unfold transition
  rw [allowed]
  simp only [Bool.not_true, Bool.false_eq_true, if_false]
  rw [Operation.outcome_bind, Operation.outcome_ask]
  dsimp only
  rw [Operation.outcome_store]
  change (Except.mapError _ (s.memory.transition t).1, _) = _
  rw [stays]
  rfl

theorem outcome_processJob_vain (present : s.memory.job? job.id = some job)
    (notPending : job.status ≠ JobStatus.pending.name) (settings : IngestSettings) (text : String) :
    ∃ fault items s', (processJob settings job.id text).outcome around s = (.error fault, s') ∧
      Vain settings (extracted settings text around s) job s.memory fault items ∧
      s'.memory = { s.memory with staged := s.memory.staged ++ items } := by
  let asked := s.next around (.extract text settings.extractTimeout)
  have unchanged : asked.memory = { s.memory with staged := s.memory.staged ++ [] } := by
    rw [List.append_nil]
    rfl
  have extracts : (extractCandidates settings text).outcome around s =
      (extractionOf settings (extracted settings text around s), asked) :=
    outcome_extractCandidates around settings text s
  unfold processJob
  rw [Operation.outcome_bind, extracts]
  cases answer : extractionOf settings (extracted settings text around s) with
  | error fault => exact ⟨fault, [], asked, rfl, .unextracted answer, unchanged⟩
  | ok candidates =>
      have found := extractionOf_eq_ok answer
      by_cases takes : s.memory.failStagedInserts = false ∨ candidates = []
      · obtain ⟨items, stored, stages, made, storedMemory⟩ : ∃ items stored,
            (stageAll settings job.id candidates).outcome around asked = (.ok (), stored) ∧
              List.Forall₂ (StagedFor settings job.id) candidates items ∧
              stored.memory = { s.memory with staged := s.memory.staged ++ items } := by
          rcases takes with takes | rfl
          · exact outcome_stageAll_of settings (run_stageCandidate_for around settings job.id)
              (fun _ _ staged => staged.ofJob) candidates (s := asked) takes (present ▸ rfl)
          · exact ⟨[], asked, rfl, .nil, unchanged⟩
        have there : stored.memory.job? job.id = some job := by
          rw [storedMemory]
          exact present
        obtain ⟨s', moves, sameMemory⟩ := outcome_transition_refused around none
          (rfl : JobStatus.pending.canBecome .staged = true) there notPending
        refine ⟨_, items, s', ?_, .late found takes made, sameMemory.trans storedMemory⟩
        dsimp only
        rw [Operation.outcome_bind, stages]
        dsimp only
        rw [Operation.outcome_bind, moves]
        rfl
      · obtain ⟨notTaking, some⟩ := not_or.mp takes
        have refuses : s.memory.failStagedInserts = true := by simpa using notTaking
        obtain ⟨s', stops, sameMemory⟩ :=
          outcome_stageAll_refused around settings job.id (s := asked) some refuses
        refine ⟨insertFault, [], s', ?_, .unstored (by rwa [found]) refuses, sameMemory.trans unchanged⟩
        dsimp only
        rw [Operation.outcome_bind, stops]

/-! ## What it leaves -/

theorem Vain.ofJob {fault : ServiceError} {items : List StagedItem}
    (vain : Vain settings answer job m fault items) : ∀ item ∈ items, item.jobId = job.id := by
  cases vain with
  | unextracted | unstored => exact fun item member => nomatch member
  | late _ _ made =>
      have own := made.flip.imp fun item candidate staged => And.intro staged.ofJob staged
      exact ((List.forall₂_and_left items _).mp own).1

structure Leaves (job : Job) (items : List StagedItem) (before after : Situation) : Prop where
  memory : after.memory = { before.memory with staged := before.memory.staged ++ items }
  published : published after.past = published before.past
  listed : (after.memory.listStaged job.id).Perm (before.memory.listStaged job.id ++ items)
  others : ∀ id, id ≠ job.id → after.memory.listStaged id = before.memory.listStaged id
  confirmed : items = [] → ∀ around around' overrides,
    SameOutcome ((confirmJob job.id overrides).outcome around after)
      ((confirmJob job.id overrides).outcome around' before)

/-- The processing of a job that is not pending fails, and leaves the items that it has stored. -/
theorem processJob_refused (present : s.memory.job? job.id = some job)
    (notPending : job.status ≠ JobStatus.pending.name) (settings : IngestSettings) (text : String) :
    ∃ fault items after, (processJob settings job.id text).outcome around s = (.error fault, after) ∧
      Vain settings (extracted settings text around s) job s.memory fault items ∧ Leaves job items s after := by
  obtain ⟨fault, items, after, ends, vain, memory⟩ :=
    outcome_processJob_vain around present notPending settings text
  refine ⟨fault, items, after, ends, vain, ?_⟩
  have silent : (processJob settings job.id text).run.Uses fun effect => effect.batches = [] :=
    (processJob_uses settings job.id text).mono fun _ uses => by cases uses <;> rfl
  have ended : (Program.run around (processJob settings job.id text).run s).2 = after := congrArg Prod.snd ends
  constructor
  case memory => exact memory
  case published =>
    rw [← ended]
    exact silent.flatMap_past around s
  case listed =>
    have own : items.filter (·.jobId == job.id) = items := by
      rw [List.filter_eq_self]
      exact fun item member => beq_iff_eq.mpr (vain.ofJob item member)
    refine (after.memory.listStaged_perm job.id).trans ?_
    rw [memory, List.filter_append, own]
    exact (s.memory.listStaged_perm job.id).symm.append_right items
  case others =>
    intro id other
    have foreign : items.filter (·.jobId == id) = [] := by
      rw [List.filter_eq_nil_iff]
      intro item member same
      exact other ((eq_of_beq same).symm.trans (vain.ofJob item member))
    unfold Memory.listStaged
    rw [memory, List.filter_append, foreign, List.append_nil]
  case confirmed =>
    rintro rfl around around' overrides
    rw [List.append_nil] at memory
    exact confirmJob_sameOutcome_of_memory_eq memory job.id overrides

open Kitchen in
theorem processJob_refused_kitchen :
    memory.job? baking.id = some baking ∧ baking.status ≠ JobStatus.pending.name ∧
      ∃ fault items after, (processJob .default baking.id "milk and salt").outcome extractor ⟨memory, []⟩ =
          (.error fault, after) ∧ items ≠ [] ∧ Leaves baking items ⟨memory, []⟩ after := by
  have notPending : baking.status ≠ JobStatus.pending.name := by decide
  obtain ⟨fault, items, after, ends, vain, leaves⟩ :=
    processJob_refused extractor (s := ⟨memory, []⟩) rfl notPending .default "milk and salt"
  refine ⟨rfl, notPending, fault, items, after, ends, ?_, leaves⟩
  cases vain with
  | unextracted failed => cases failed
  | unstored _ refuses => cases refuses
  | late found _ made =>
      cases found
      cases made
      exact List.cons_ne_nil _ _

theorem processJob_adds : ¬ ∀ (settings : IngestSettings) (around : Surroundings) (s : Situation) (job : Job)
    (text : String), s.memory.job? job.id = some job → job.status ≠ JobStatus.pending.name →
      let ended := (processJob settings job.id text).outcome around s
      (∃ fault, ended.1 = .error fault) ∧ ended.2.memory.job? job.id = some job ∧
        ended.2.memory.listStaged job.id = s.memory.listStaged job.id := by
  intro keeps
  obtain ⟨_, _, same⟩ := keeps .default Kitchen.extractor ⟨Kitchen.memory, []⟩ Kitchen.baking
    "milk and salt" rfl (by decide)
  have longer := congrArg List.length same
  rw [(Memory.listStaged_perm _ _).length_eq, (Memory.listStaged_perm _ _).length_eq] at longer
  cases longer

end Larder.Service
