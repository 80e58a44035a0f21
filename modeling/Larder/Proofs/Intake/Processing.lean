import Larder.Proofs.Review.Commit
import Larder.Proofs.Service.Protocol
import Mathlib.Logic.Basic

/-!
# How processing ends

The processing of a pending job extracts candidates, stores one item for each, in order, and moves the job
to `staged` when it has stored them all (`processJob_follows`). Wherever it is cut off or fails, the store
holds the items of the candidates so far and nothing else has changed (`kept_next`), so that settling leaves
the job either staged with all its items or failed with some of them (`process_ends`).
-/

namespace Larder

def Awaited.found : Awaited (List Candidate) → List Candidate
  | .answered (.ok candidates) => candidates
  | _ => []

theorem ServiceError.message_ne_empty (fault : ServiceError) : fault.message ≠ "" := by
  unfold ServiceError.message
  cases fault <;> simp only [ne_eq, String.append_eq_empty_iff, not_and] <;>
    exact fun empty => absurd empty (by decide)

namespace Service
open Memory

variable (settings : IngestSettings) (jobId : Uuid) (text : String)

structure StagedFor (candidate : Candidate) (item : StagedItem) : Prop where
  ofJob : item.jobId = jobId
  rawText : item.rawText = candidate.rawText
  made : ∃ ingredient id now,
    item = stagedItem settings.reviewThreshold jobId candidate ingredient id now

/-! ## The protocol -/

inductive Progress
  | begun
  | staging (stored : List (Candidate × StagedItem)) (rest : List Candidate)
  | staged (stored : List (Candidate × StagedItem))
  | stopped (stored : List (Candidate × StagedItem))

namespace Progress

inductive Allows : Progress → Effect → Prop
  | extract : Allows .begun (.extract text settings.extractTimeout)
  | resolve {stored rest} (name : String) (budget : Nat) :
      Allows (.staging stored rest) (.resolve name budget)
  | now {stored rest} : Allows (.staging stored rest) .now
  | newId {stored rest} (kind : IdKind) : Allows (.staging stored rest) (.newId kind)
  | insert {stored candidate rest} {item : StagedItem} (made : StagedFor settings jobId candidate item) :
      Allows (.staging stored (candidate :: rest)) (.store (.insertStaged item))
  | move {stored} (time : Timestamp) : Allows (.staging stored []) (.store (.transition
      ⟨jobId, JobStatus.pending.name, JobStatus.staged.name, none, time⟩))

def found : Awaited (List Candidate) → Progress
  | .answered (.ok candidates) => .staging [] candidates
  | _ => .stopped []

def stored (entries : List (Candidate × StagedItem)) (rest : List Candidate) :
    (call : StoreCall) → call.Answer → Progress
  | .insertStaged item, .ok _ => .staging (entries ++ (rest.take 1).map (·, item)) (rest.drop 1)
  | .transition _, .ok (some _) => .staged entries
  | _, _ => .stopped entries

def next : Progress → (effect : Effect) → effect.Answer → Progress
  | .begun, .extract _ _, answer => found answer
  | .staging entries rest, .store call, answer => stored entries rest call answer
  | progress, _, _ => progress

def IsStaged (progress : Progress) : Prop :=
  ∃ stored, progress = .staged stored

def IsStopped (progress : Progress) : Prop :=
  ∃ stored, progress = .stopped stored

end Progress

def processing : Protocol Progress where
  allows := Progress.Allows settings jobId text
  next := Progress.next

variable {settings jobId text} {stored : List (Candidate × StagedItem)} {rest : List Candidate}

theorem extractCandidates_follows :
    (extractCandidates settings text).Follows (processing settings jobId text)
      (fun progress candidates => progress = .staging [] candidates)
      (fun progress _ => progress.IsStopped) .begun := by
  have asks : (Operation.ask (.extract text settings.extractTimeout)).Follows
      (processing settings jobId text)
      (fun progress answer =>
        progress = Progress.next .begun (.extract text settings.extractTimeout) answer)
      (fun progress _ => progress.IsStopped) .begun := Operation.follows_ask .extract (fun _ => rfl)
  unfold extractCandidates
  apply asks.bind
  rintro _ answer rfl
  split
  · exact Operation.follows_pure rfl
  · exact Operation.follows_throw ⟨[], rfl⟩
  · exact Operation.follows_throw ⟨[], rfl⟩

theorem resolveName_follows (name : String) :
    (resolveName settings name).Follows (processing settings jobId text)
      (fun progress _ => progress = .staging stored rest) (fun progress _ => progress = .staging stored rest)
      (.staging stored rest) := by
  have asks : (Operation.ask (.resolve name settings.resolveTimeout)).Follows
      (processing settings jobId text) (fun progress _ => progress = .staging stored rest)
      (fun progress _ => progress = .staging stored rest) (.staging stored rest) :=
    Operation.follows_ask (.resolve _ _) (fun _ => rfl)
  unfold resolveName
  apply asks.bind
  rintro _ answer rfl
  split
  · exact Operation.follows_pure rfl
  · exact Operation.follows_throw rfl
  · exact Operation.follows_throw rfl

theorem candidateIngredient_follows (candidate : Candidate) :
    (candidateIngredient settings candidate).Follows (processing settings jobId text)
      (fun progress _ => progress = .staging stored rest) (.staging stored rest) := by
  unfold candidateIngredient
  dsimp only
  split
  · exact Program.follows_pure rfl
  · -- A name that cannot be resolved leaves the item without an ingredient.
    apply (resolveName_follows _).run.bind
    intro progress result ends
    cases result with
    | ok resolution => exact Program.follows_pure ends
    | error fault => exact Program.follows_pure ends

theorem stageCandidate_follows (candidate : Candidate) :
    (stageCandidate settings jobId candidate).Follows (processing settings jobId text)
      (fun progress item => progress = .staging stored rest ∧ StagedFor settings jobId candidate item)
      (.staging stored rest) := by
  have reads : (Program.ask .now).Follows (processing settings jobId text)
      (fun progress _ => progress = .staging stored rest) (.staging stored rest) :=
    Program.follows_ask .now (fun _ => rfl)
  have names : (Program.ask (.newId .stagedItem)).Follows (processing settings jobId text)
      (fun progress _ => progress = .staging stored rest) (.staging stored rest) :=
    Program.follows_ask (.newId _) (fun _ => rfl)
  unfold stageCandidate
  apply (candidateIngredient_follows candidate).bind
  rintro _ ingredient rfl
  apply reads.bind
  rintro _ now rfl
  apply names.bind
  rintro _ id rfl
  exact Program.follows_pure ⟨rfl, rfl, rfl, ingredient, id, now, rfl⟩

theorem stageAll_follows (candidates : List Candidate) :
    (stageAll settings jobId candidates).Follows (processing settings jobId text)
      (fun progress _ => ∃ stored, progress = .staging stored [])
      (fun progress _ => progress.IsStopped) (.staging stored candidates) := by
  induction candidates generalizing stored with
  | nil => exact Operation.follows_pure ⟨stored, rfl⟩
  | cons candidate rest ih =>
      unfold stageAll
      apply (Operation.follows_lift (stageCandidate_follows candidate)).bind
      rintro _ item ⟨rfl, made⟩
      have inserts : (Operation.store (.insertStaged item)).Follows (processing settings jobId text)
          (fun progress _ => progress = .staging (stored ++ [(candidate, item)]) rest)
          (fun progress _ => progress.IsStopped) (.staging stored (candidate :: rest)) :=
        Operation.follows_store (.insertStaged item) (.insert made) (fun _ => rfl) (fun _ => ⟨stored, rfl⟩)
      apply inserts.bind
      rintro _ _ rfl
      exact ih

theorem transition_follows :
    (transition jobId .pending .staged none).Follows (processing settings jobId text)
      (fun progress moved => if moved.isSome then progress.IsStaged else progress.IsStopped)
      (fun progress _ => progress.IsStopped) (.staging stored []) := by
  have reads : (Operation.ask .now).Follows (processing settings jobId text)
      (fun progress _ => progress = .staging stored []) (fun progress _ => progress.IsStopped)
      (.staging stored []) := Operation.follows_ask .now (fun _ => rfl)
  unfold transition
  rw [if_neg (by decide)]
  apply reads.bind
  rintro _ now rfl
  refine Operation.follows_store (.transition _) (.move now) ?_ (fun _ => ⟨stored, rfl⟩)
  intro moved
  cases moved with
  | some job => exact ⟨stored, rfl⟩
  | none => exact ⟨stored, rfl⟩

theorem processJob_follows :
    (processJob settings jobId text).Follows (processing settings jobId text)
      (fun progress _ => progress.IsStaged) (fun progress _ => progress.IsStopped) .begun := by
  unfold processJob
  apply extractCandidates_follows.bind
  rintro _ candidates rfl
  apply (stageAll_follows candidates).bind
  rintro _ _ ⟨stored, rfl⟩
  apply transition_follows.bind
  intro progress moved ends
  cases moved with
  | some job => exact Operation.follows_pure ends
  | none => exact Operation.follows_throw ends

/-! ## What processing keeps -/

section Kept

variable (settings) (around : Surroundings) (before : Situation) (job : Job) (text)

def extracted : Awaited (List Candidate) :=
  before.answer around (.extract text settings.extractTimeout)

structure Holds (stored : List (Candidate × StagedItem)) (m : Memory) : Prop where
  memory : m = { before.memory with staged := before.memory.staged ++ stored.map (·.2) }
  made : ∀ entry ∈ stored, StagedFor settings job.id entry.1 entry.2
  accepting : before.memory.failStagedInserts = true → stored = []

inductive Kept : Progress → Situation → Prop
  | begun : Kept .begun before
  | staging {s stored rest} (quiet : published s.past = published before.past)
      (holds : Holds settings before job stored s.memory)
      (found : extracted settings text around before = .answered (.ok (stored.map (·.1) ++ rest))) :
      Kept (.staging stored rest) s
  | staged {s stored held} (quiet : published s.past = published before.past)
      (holds : Holds settings before job stored held)
      (found : extracted settings text around before = .answered (.ok (stored.map (·.1))))
      (time : Timestamp) (moved : s.memory = (held.transition
        ⟨job.id, JobStatus.pending.name, JobStatus.staged.name, none, time⟩).2) : Kept (.staged stored) s
  | stopped {s stored} (quiet : published s.past = published before.past)
      (holds : Holds settings before job stored s.memory)
      (some : stored.map (·.1) <+: (extracted settings text around before).found) : Kept (.stopped stored) s

variable {settings around before job text}

theorem Holds.nil : Holds settings before job [] before.memory where
  memory := by simp
  made := by simp
  accepting := fun _ => rfl

variable {m : Memory} (holds : Holds settings before job stored m)
include holds

theorem Holds.job? (id : Uuid) : m.job? id = before.memory.job? id := by
  rw [holds.memory]
  rfl

theorem Holds.insert (present : before.memory.job? job.id = some job) {candidate : Candidate}
    {item : StagedItem} (made : StagedFor settings job.id candidate item) :
    (∃ after, m.insertStaged item = (.ok (), after) ∧
      Holds settings before job (stored ++ [(candidate, item)]) after) ∨
    ∃ fault, m.insertStaged item = (.error fault, m) := by
  have known : (m.job? item.jobId).isNone = false := by
    rw [made.ofJob, holds.job?, present]
    rfl
  have asBefore : m.failStagedInserts = before.memory.failStagedInserts := by rw [holds.memory]
  unfold insertStaged
  rw [known]
  cases fails : m.failStagedInserts with
  | true => exact .inr ⟨_, rfl⟩
  | false =>
      refine .inl ⟨_, rfl, ?_⟩
      constructor
      case memory => simp [putStaged, holds.memory]
      case made =>
        intro entry member
        rcases List.mem_append.mp member with old | new
        · exact holds.made entry old
        · rw [List.mem_singleton.mp new]
          exact made
      case accepting =>
        intro refuses
        rw [← asBefore, fails] at refuses
        cases refuses

omit holds

theorem kept_next (present : before.memory.job? job.id = some job)
    (pending : job.status = JobStatus.pending.name) {progress : Progress} {s : Situation} {effect : Effect}
    (allowed : progress.Allows settings job.id text effect)
    (kept : Kept settings text around before job progress s) :
    Kept settings text around before job (progress.next effect (s.answer around effect))
      (s.next around effect) := by
  have noBatch : effect.batches = [] := by cases allowed <;> rfl
  have stillQuiet (quiet : published s.past = published before.past) :
      published (s.next around effect).past = published before.past := by
    rw [Situation.published_next, quiet, noBatch, List.append_nil]
  cases kept with
  | begun =>
      cases allowed
      have same : before.answer around (.extract text settings.extractTimeout) =
        extracted settings text around before := rfl
      rw [same]
      cases found : extracted settings text around before with
      | timedOut => exact .stopped (stillQuiet rfl) .nil List.nil_prefix
      | answered result =>
          cases result with
          | ok candidates => exact .staging (stillQuiet rfl) .nil found
          | error fault => exact .stopped (stillQuiet rfl) .nil List.nil_prefix
  | @staging _ stored rest quiet holds found =>
      cases allowed with
      | resolve name budget => exact .staging (stillQuiet quiet) holds found
      | now => exact .staging (stillQuiet quiet) holds found
      | newId kind => exact .staging (stillQuiet quiet) holds found
      | @insert _ candidate rest item made =>
          rcases holds.insert present made with ⟨after, inserted, holds'⟩ | ⟨fault, refused⟩
          · have answer : s.answer around (.store (.insertStaged item)) = .ok () :=
              congrArg Prod.fst inserted
            have memoryAfter : (s.next around (.store (.insertStaged item))).memory = after :=
              congrArg Prod.snd inserted
            rw [answer]
            refine .staging (stillQuiet quiet) (memoryAfter ▸ holds') ?_
            simpa using found
          · have answer : s.answer around (.store (.insertStaged item)) = .error fault :=
              congrArg Prod.fst refused
            have memoryAfter : (s.next around (.store (.insertStaged item))).memory = s.memory :=
              congrArg Prod.snd refused
            rw [answer]
            refine .stopped (stillQuiet quiet) (memoryAfter ▸ holds) ?_
            rw [found]
            exact List.prefix_append _ _
      | move time =>
          have there : s.memory.job? job.id = some job := by rw [holds.job?, present]
          rcases transition_cases s.memory
              ⟨job.id, JobStatus.pending.name, JobStatus.staged.name, none, time⟩ with
            ⟨_, after, _, _, done, _⟩ | ⟨_, refused⟩
          · have answer := congrArg Prod.fst done
            change s.answer around (.store (.transition _)) = _ at answer
            rw [answer]
            exact .staged (stillQuiet quiet) holds (by simpa using found) time rfl
          · exact absurd pending (refused job there)
  | staged => cases allowed
  | stopped => cases allowed

end Kept

/-! ## The end -/

/-- Background processing as it is spawned for a job: cut off after so many effects, unless it has ended by
then, and settled. -/
def process (settings : IngestSettings) (around : Surroundings) (jobId : Uuid) (text : String)
    (effects : Nat) (s : Situation) : Situation :=
  let (result, s') := (processJob settings jobId text).run.runWithin around effects s
  ((settle jobId (result.getD (.error (processTimedOut settings)))).run around s').2

structure EndsStaged (settings : IngestSettings) (answer : Awaited (List Candidate)) (job : Job)
    (items : List StagedItem) (after : Memory) : Prop where
  complete : ∃ candidates, answer = .answered (.ok candidates) ∧
    List.Forall₂ (StagedFor settings job.id) candidates items
  staged : ∃ time, after.job? job.id =
    some { job with status := JobStatus.staged.name, error := none, updatedAt := time }

structure EndsFailed (settings : IngestSettings) (answer : Awaited (List Candidate)) (before : Memory)
    (job : Job) (items : List StagedItem) (after : Memory) : Prop where
  partly : ∃ candidates, candidates <+: answer.found ∧
    List.Forall₂ (StagedFor settings job.id) candidates items
  accepting : before.failStagedInserts = true → items = []
  failed : ∃ message time, message ≠ "" ∧ after.job? job.id =
    some { job with status := JobStatus.failed.name, error := some message, updatedAt := time }

structure Processed (settings : IngestSettings) (answer : Awaited (List Candidate)) (job : Job)
    (before after : Situation) : Prop where
  ends : ∃ items, after.memory.staged = before.memory.staged ++ items ∧
    Xor (EndsStaged settings answer job items after.memory)
      (EndsFailed settings answer before.memory job items after.memory)
  settled : ∃ ended, after.memory.job? job.id = some ended ∧ ended.status ≠ JobStatus.pending.name
  others : ∀ id, id ≠ job.id → after.memory.job? id = before.memory.job? id
  othersStaged : after.memory.staged.filter (·.jobId != job.id) =
    before.memory.staged.filter (·.jobId != job.id)
  pantry : after.memory.pantry = before.memory.pantry
  quiet : published after.past = published before.past

section Ends

variable {around : Surroundings} {before after : Situation} {job : Job} {m : Memory}
  (present : before.memory.job? job.id = some job) (pending : job.status = JobStatus.pending.name)

theorem Holds.forall₂ (holds : Holds settings before job stored m) :
    List.Forall₂ (StagedFor settings job.id) (stored.map (·.1)) (stored.map (·.2)) := by
  rw [List.forall₂_map_left_iff, List.forall₂_map_right_iff, List.forall₂_same]
  exact holds.made

include present pending

theorem Holds.processed {target : JobStatus} {error : Option String} {time : Timestamp}
    {answer : Awaited (List Candidate)} (holds : Holds settings before job stored m)
    (moved : after.memory = (m.transition ⟨job.id, JobStatus.pending.name, target.name, error, time⟩).2)
    (quiet : published after.past = published before.past)
    (ends : target = .staged ∧ error = none ∧ answer = .answered (.ok (stored.map (·.1))) ∨
      target = .failed ∧ (∃ message, message ≠ "" ∧ error = some message) ∧
        stored.map (·.1) <+: answer.found) :
    Processed settings answer job before after := by
  have jobs (id : Uuid) : after.memory.job? id = if id = job.id then
      some (job.apply ⟨job.id, JobStatus.pending.name, target.name, error, time⟩)
      else before.memory.job? id := by
    rw [moved, job?_transition (by rw [holds.job?, present]) pending, holds.job?]
  have ended := jobs job.id
  rw [if_pos rfl] at ended
  have items : after.memory.staged = before.memory.staged ++ stored.map (·.2) := by
    rw [moved, transition_staged, holds.memory]
  constructor
  case ends =>
    refine ⟨stored.map (·.2), items, ?_⟩
    rcases ends with ⟨rfl, rfl, found⟩ | ⟨rfl, ⟨message, filled, rfl⟩, found⟩
    · refine .inl ⟨⟨⟨_, found, holds.forall₂⟩, time, ended⟩, ?_⟩
      rintro ⟨_, _, _, _, _, failed⟩
      rw [ended] at failed
      have same : JobStatus.staged.name = JobStatus.failed.name :=
        congrArg Job.status (Option.some.inj failed)
      exact absurd same (by decide)
    · refine .inr ⟨⟨⟨_, found, holds.forall₂⟩, ?_, message, time, filled, ended⟩, ?_⟩
      · intro refuses
        rw [holds.accepting refuses, List.map_nil]
      · rintro ⟨_, _, staged⟩
        rw [ended] at staged
        have same : JobStatus.failed.name = JobStatus.staged.name :=
          congrArg Job.status (Option.some.inj staged)
        exact absurd same (by decide)
  case settled =>
    refine ⟨_, ended, ?_⟩
    change target.name ≠ JobStatus.pending.name
    rcases ends with ⟨rfl, _⟩ | ⟨rfl, _⟩
    · decide
    · decide
  case others =>
    intro id other
    rw [jobs, if_neg other]
  case othersStaged =>
    have own : (stored.map (·.2)).filter (·.jobId != job.id) = [] := by
      rw [List.filter_eq_nil_iff]
      intro item member
      obtain ⟨entry, there, rfl⟩ := List.mem_map.mp member
      simp [(holds.made entry there).ofJob]
    rw [items, List.filter_append, own, List.append_nil]
  case pantry => rw [moved, transition_pantry, holds.memory]
  case quiet => exact quiet

theorem Holds.settled {s : Situation} {answer : Awaited (List Candidate)} (fault : ServiceError)
    (holds : Holds settings before job stored s.memory)
    (quiet : published s.past = published before.past) (found : stored.map (·.1) <+: answer.found) :
    Processed settings answer job before ((settle job.id (.error fault)).run around s).2 := by
  have there : s.memory.job? job.id = some job := by rw [holds.job?, present]
  obtain ⟨time, s', moves, memoryAfter, quietly⟩ := outcome_transition around (some fault.message)
    (rfl : JobStatus.pending.canBecome .failed = true) there pending
  have settles : ((settle job.id (.error fault)).run around s).2 = s' := by
    unfold Operation.outcome at moves
    unfold settle
    rw [Program.run_bind, moves]
    rfl
  rw [settles]
  exact holds.processed present pending memoryAfter (quietly.trans quiet)
    (.inr ⟨rfl, ⟨_, fault.message_ne_empty, rfl⟩, found⟩)

omit present pending in
theorem Kept.holds {progress : Progress} {s : Situation} {effect : Effect}
    (kept : Kept settings text around before job progress s)
    (allowed : progress.Allows settings job.id text effect) :
    ∃ stored, Holds settings before job stored s.memory ∧ published s.past = published before.past ∧
      stored.map (·.1) <+: (extracted settings text around before).found := by
  cases kept with
  | begun => exact ⟨[], .nil, rfl, List.nil_prefix⟩
  | staging quiet holds found =>
      refine ⟨_, holds, quiet, ?_⟩
      rw [found]
      exact List.prefix_append _ _
  | staged => cases allowed
  | stopped => cases allowed

end Ends

/-- However the processing of a pending job goes and wherever it is cut off, the job ends as staged with an
item for every candidate or as failed with items for the first ones, and everything else stays as it was. -/
theorem process_ends {s : Situation} {job : Job} (present : s.memory.job? job.id = some job)
    (pending : job.status = JobStatus.pending.name) (settings : IngestSettings) (around : Surroundings)
    (text : String) (effects : Nat) :
    Processed settings (extracted settings text around s) job s
      (process settings around job.id text effects s) := by
  obtain ⟨last, kept, ended⟩ := processJob_follows.run.runWithin around
    (fun _ _ _ => kept_next present pending) effects Kept.begun
  unfold process
  generalize (processJob settings job.id text).run.runWithin around effects s = ran at kept ended
  obtain ⟨result, s'⟩ := ran
  dsimp only at kept ended ⊢
  cases result with
  | none =>
      -- Cut off, and so before an effect that was allowed: the job cannot be staged yet.
      obtain ⟨effect, allowed⟩ := ended
      obtain ⟨stored, holds, quiet, found⟩ := kept.holds allowed
      exact holds.settled present pending _ quiet found
  | some result =>
      cases result with
      | ok count =>
          obtain ⟨stored, rfl⟩ := ended
          cases kept with
          | staged quiet holds found time moved =>
              exact holds.processed present pending moved quiet (.inl ⟨rfl, rfl, found⟩)
      | error fault =>
          obtain ⟨stored, rfl⟩ := ended
          cases kept with
          | stopped quiet holds found => exact holds.settled present pending fault quiet found

/-! ## In the kitchen

The extractor finds two candidates, and no name is resolved in time. -/

namespace Kitchen

def shopping : Job :=
  ⟨⟨11⟩, JobKind.textBlob.name, "milk and salt", JobStatus.pending.name, none, noon, noon⟩

def submitted : Situation :=
  ⟨{ memory with jobs := [baking, shopping] }, []⟩

def extractor : Surroundings := fun past effect =>
  match effect with
  | .extract _ _ =>
      .answered (.ok [⟨"2 l of milk", "milk", 2.0, "l", 0.9⟩, ⟨"salt", "", 1.0, "", 0.5⟩])
  | effect => surroundings past effect

end Kitchen

open Kitchen in
theorem process_ends_kitchen :
    submitted.memory.job? shopping.id = some shopping ∧ shopping.status = JobStatus.pending.name ∧
      Processed .default (extracted .default shopping.rawInput extractor submitted) shopping submitted
        (process .default extractor shopping.id shopping.rawInput 7 submitted) := by
  have present : submitted.memory.job? shopping.id = some shopping := rfl
  exact ⟨present, rfl, process_ends present rfl .default extractor shopping.rawInput 7⟩

-- Cut off before the second candidate is stored, and not cut off.
open Kitchen in
example : (process .default extractor shopping.id shopping.rawInput 7 submitted).memory.job? shopping.id =
    some { shopping with
      status := JobStatus.failed.name
      error := some "Provider error: Processing timed out after 90000 ms." } := rfl

open Kitchen in
example : (process .default extractor shopping.id shopping.rawInput 10 submitted).memory.job? shopping.id =
    some { shopping with status := JobStatus.staged.name } := rfl

end Service

end Larder
