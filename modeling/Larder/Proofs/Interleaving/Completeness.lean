import Larder.Proofs.Intake.Handling
import Larder.Proofs.Interleaving.Sparing
import Larder.Proofs.Review.Course
import Larder.Proofs.Store.Constraints
import Larder.Proofs.Store.Listing

/-!
# Whoever sees a staged job sees all of it

The first call of the traffic processes a job, and everything else spares it. The staged items of the job are
those that its processing has stored, and the job is staged when they are all there and never before
(`Sound`). So a reader that has found the job staged lists all its items, although it reads the job and the
items one after the other (`staged_complete`).
-/

namespace Larder.Interleaving.Traffic
open Service

def intake (settings : IngestSettings) (jobId : Uuid) (text : String) (effects : Nat) (memory : Memory) :
    Traffic :=
  start memory [Request.call settings effects (.process jobId text)]

def progress (settings : IngestSettings) (jobId : Uuid) (text : String) (traffic : Traffic) : Progress :=
  (handling settings jobId text).after .begun (traffic.pastOf 0)

def IsReadable (job : Job) : Prop :=
  job.status = JobStatus.staged.name ∨ job.status = JobStatus.confirmed.name

def Suits (progress : Progress) (found : Option Job) : Prop :=
  (progress.IsStaged ∧ ∃ job, found = some job ∧ IsReadable job) ∨
    ¬ progress.IsStaged ∧ ∀ job, found = some job →
      job.status = JobStatus.pending.name ∨ job.status = JobStatus.failed.name

def ShowsStaged (jobId : Uuid) : Event → Prop
  | ⟨.store (.getJob id), .ok (some job)⟩ => id = jobId ∧ IsReadable job
  | _ => False

def ListsAll (jobId : Uuid) (items : List StagedItem) : Event → Prop
  | ⟨.store (.listStaged id), .ok listed⟩ => id = jobId → listed.Perm items
  | _ => True

variable {settings : IngestSettings} {jobId : Uuid} {text : String} {effects : Nat} {memory : Memory}
  {traffic traffic' : Traffic}

structure Sound (settings : IngestSettings) (jobId : Uuid) (text : String) (traffic : Traffic) : Prop where
  items : (traffic.memory.only jobId).staged = (traffic.progress settings jobId text).items
  status : Suits (traffic.progress settings jobId text) (traffic.memory.job? jobId)
  shown : ∀ entry ∈ traffic.log, ShowsStaged jobId entry.2 → (traffic.progress settings jobId text).IsStaged
  listed : traffic.log.Pairwise fun earlier later => ShowsStaged jobId earlier.2 →
    ListsAll jobId (traffic.progress settings jobId text).items later.2

/-! ## The call that processes -/

theorem Suits.of_unstaged {progress progress' : Progress} {found : Option Job} (suits : Suits progress found)
    (before : ¬ progress.IsStaged) (after : ¬ progress'.IsStaged) : Suits progress' found := by
  rcases suits with ⟨staged, _⟩ | ⟨_, other⟩
  · exact absurd staged before
  · exact .inr ⟨after, other⟩

theorem only_transition_staged (m : Memory) (t : Transition) (jobId : Uuid) :
    ((m.transition t).2.only jobId).staged = (m.only jobId).staged := by
  unfold Memory.only
  rw [Memory.transition_staged]

theorem found_unstaged (answer : Awaited (List Candidate)) : ¬ (Progress.found answer).IsStaged := by
  rintro ⟨stored, same⟩
  unfold Progress.found at same
  split at same <;> cases same

theorem found_items (answer : Awaited (List Candidate)) : (Progress.found answer).items = [] := by
  unfold Progress.found
  split <;> rfl

theorem handle_memory {progress : Progress} {effect : Effect} {answer : effect.Answer} {m : Memory}
    (items : (m.only jobId).staged = progress.items) (suits : Suits progress (m.job? jobId))
    (allowed : (handling settings jobId text).allows progress effect) (answers : m.MayAnswer effect answer) :
    ((m.after effect).only jobId).staged = (progress.handle effect answer).items ∧
      Suits (progress.handle effect answer) ((m.after effect).job? jobId) := by
  rcases allowed with allowed | ⟨unstaged, settles⟩
  · rw [Progress.handle_eq_next settings jobId text answer allowed]
    have unstaged {stored : List (Candidate × StagedItem)} {rest : List Candidate} :
      ¬ (Progress.staging stored rest).IsStaged := fun ⟨_, impossible⟩ => nomatch impossible
    have stopped {stored : List (Candidate × StagedItem)} : ¬ (Progress.stopped stored).IsStaged :=
      fun ⟨_, impossible⟩ => nomatch impossible
    cases allowed with
    | extract =>
        refine ⟨items.trans (found_items answer).symm, suits.of_unstaged ?_ (found_unstaged answer)⟩
        exact fun ⟨_, impossible⟩ => nomatch impossible
    | resolve | now | newId => exact ⟨items, suits⟩
    | @insert stored candidate rest item made =>
        change (answer : Except StoreError Unit) = (m.insertStaged item).1 at answers
        change ((m.insertStaged item).2.only jobId).staged = _ ∧ Suits _ ((m.insertStaged item).2.job? jobId)
        rcases Memory.insertStaged_eq m item with ⟨fault, done⟩ | done
        · rw [done] at answers ⊢
          subst answers
          exact ⟨items, suits.of_unstaged unstaged stopped⟩
        · rw [done] at answers ⊢
          subst answers
          refine ⟨?_, suits.of_unstaged unstaged unstaged⟩
          have added : ((m.putStaged item).only jobId).staged = (m.only jobId).staged ++ [item] := by
            simp [Memory.only, Memory.putStaged, made.ofJob]
          rw [added, items]
          simp [Progress.next, Progress.stored, Progress.items, Progress.entries]
    | @move stored time =>
        let t : Transition := ⟨jobId, JobStatus.pending.name, JobStatus.staged.name, none, time⟩
        change (answer : Except StoreError (Option Job)) = (m.transition t).1 at answers
        change ((m.transition t).2.only jobId).staged = _ ∧ Suits _ ((m.transition t).2.job? jobId)
        rw [only_transition_staged, items]
        rcases Memory.transition_cases m t with ⟨job, _, _, _, done, _, found⟩ | ⟨done, _⟩
        · rw [done] at answers ⊢
          subst answers
          refine ⟨rfl, ?_⟩
          rw [found, if_pos rfl]
          exact .inl ⟨⟨stored, rfl⟩, _, rfl, .inl rfl⟩
        · rw [done] at answers ⊢
          subst answers
          exact ⟨rfl, suits.of_unstaged unstaged stopped⟩
  · rw [Progress.handle_settling jobId answer settles]
    cases settles with
    | now => exact ⟨items, suits⟩
    | move error time =>
        let t : Transition := ⟨jobId, JobStatus.pending.name, JobStatus.failed.name, error, time⟩
        change ((m.transition t).2.only jobId).staged = _ ∧ Suits _ ((m.transition t).2.job? jobId)
        refine ⟨(only_transition_staged m t jobId).trans items, ?_⟩
        rcases Memory.transition_cases m t with ⟨job, _, _, _, done, _, found⟩ | ⟨done, _⟩
        · rw [done, found, if_pos rfl]
          refine .inr ⟨unstaged, ?_⟩
          rintro _ ⟨⟩
          exact .inr rfl
        · rw [done]
          exact suits

/-! ## The traffic -/

abbrev Leaves (settings : IngestSettings) (jobId : Uuid) : Traffic → Traffic → Prop :=
  Leads settings (·.Spares jobId)

theorem conducts_processing (leads : Leaves settings jobId (intake settings jobId text effects memory) traffic) :
    traffic.Conducts (handling settings jobId text) .begun (· = .process jobId text) fun _ _ _ => True := by
  apply Leads.conducts_one leads
  · exact fun _ => processWithin_follows effects
  · rintro _ _ spares rfl
    exact absurd rfl spares

theorem conducts_sparing (leads : Leaves settings jobId (intake settings jobId text effects memory) traffic) :
    traffic.Conducts (.given Honest (Spares jobId)) True (·.Spares jobId) fun _ _ _ => True := by
  apply Leads.conducts_one leads
  · exact fun spares => absurd rfl spares
  · exact fun request effects _ spares => request.program_spares settings effects spares True

theorem first_request (leads : Leaves settings jobId (intake settings jobId text effects memory) traffic)
    {call : Call} (there : traffic.calls[0]? = some call) : call.request = .process jobId text :=
  Leads.request_eq leads there rfl

theorem exists_first (leads : Leaves settings jobId (intake settings jobId text effects memory) traffic) :
    ∃ call, traffic.calls[0]? = some call := by
  obtain ⟨later, split, _⟩ := Leads.requests leads
  cases calls : traffic.calls with
  | nil =>
      rw [calls] at split
      cases split
  | cons call rest => exact ⟨call, rfl⟩

theorem shows_progress (leads : Leaves settings jobId (intake settings jobId text effects memory) traffic) :
    Shows settings jobId text (traffic.progress settings jobId text) (traffic.pastOf 0) := by
  obtain ⟨call, there⟩ := exists_first leads
  exact shows_after (conducts_processing leads 0 call there (first_request leads there)).1

theorem spares_of_asks (leads : Leaves settings jobId (intake settings jobId text effects memory) traffic)
    {i : Nat} {request : Request} {effect : Effect} {next : effect.Answer → Program request.Value}
    (there : traffic.calls[i]? = some ⟨request, .perform effect next⟩) (other : i ≠ 0) :
    Spares jobId effect := by
  have spares : request.Spares jobId := Leads.admitted leads there (Nat.pos_of_ne_zero other)
  apply (conducts_sparing leads).allowed there spares
  apply Protocol.given_after
  intro event member
  obtain ⟨m, answers⟩ := Leads.answered leads _ (mem_pastOf.mp member)
  exact honest_of_mayAnswer answers

/-! ## What readers see -/

theorem not_readable_of_pending {job : Job}
    (other : job.status = JobStatus.pending.name ∨ job.status = JobStatus.failed.name) : ¬ IsReadable job := by
  rintro (same | same) <;> rcases other with other | other <;> rw [other] at same <;>
    exact absurd same (by decide)

theorem Suits.spared {progress : Progress} {found later : Option Job} (suits : Suits progress found)
    (move : SparedMove found later) : Suits progress later := by
  rcases suits with ⟨staged, job, present, readable⟩ | ⟨unstaged, other⟩
  · cases move with
    | stays => exact .inl ⟨staged, job, present, readable⟩
    | begins => cases present
    | confirmed _ confirms => exact .inl ⟨staged, _, rfl, .inr confirms⟩
  · refine .inr ⟨unstaged, ?_⟩
    cases move with
    | stays => exact other
    | begins isNew =>
        rintro _ ⟨⟩
        exact .inl isNew.status
    | confirmed staged => exact absurd (.inl staged) (not_readable_of_pending (other _ rfl))

theorem Suits.readable {progress : Progress} {found : Option Job} (suits : Suits progress found) {job : Job}
    (there : found = some job) (readable : IsReadable job) : progress.IsStaged := by
  rcases suits with ⟨staged, _⟩ | ⟨_, other⟩
  · exact staged
  · exact absurd readable (not_readable_of_pending (other job there))

variable {progress : Progress} {effect : Effect} {answer : effect.Answer} {m : Memory}

theorem not_shows_of_handling (allowed : (handling settings jobId text).allows progress effect) :
    ¬ ShowsStaged jobId ⟨effect, answer⟩ := by
  intro shows
  rcases allowed with allowed | ⟨_, settles⟩
  · cases allowed <;> cases shows
  · cases settles <;> cases shows

theorem staged_of_shows (suits : Suits progress (m.job? jobId)) (answers : m.MayAnswer effect answer)
    (shows : ShowsStaged jobId ⟨effect, answer⟩) : progress.IsStaged := by
  cases effect with
  | store call =>
      cases call with
      | getJob id =>
          obtain rfl : answer = .ok (m.job? id) := answers
          cases found : m.job? id with
          | none =>
              rw [found] at shows
              cases shows
          | some job =>
              rw [found] at shows
              obtain ⟨rfl, readable⟩ := shows
              exact suits.readable found readable
      | _ => cases shows
  | _ => cases shows

theorem listsAll_of_answers (answers : m.MayAnswer effect answer) :
    ListsAll jobId (m.only jobId).staged ⟨effect, answer⟩ := by
  cases effect with
  | store call =>
      cases call with
      | listStaged id =>
          obtain rfl : answer = .ok (m.listStaged id) := answers
          rintro rfl
          exact m.listStaged_perm id
      | _ => trivial
  | _ => trivial

/-! ## Steps -/

theorem Sound.advance_first (sound : traffic.Sound settings jobId text) (later : List Call)
    (allowed : (handling settings jobId text).allows (traffic.progress settings jobId text) effect)
    (answers : traffic.memory.MayAnswer effect answer) :
    Sound settings jobId text
      ⟨traffic.memory.after effect, later, traffic.log ++ [(0, ⟨effect, answer⟩)]⟩ := by
  -- Before this step the job was not staged yet, so nobody has seen it staged.
  have unseen : ∀ entry ∈ traffic.log, ¬ ShowsStaged jobId entry.2 := by
    intro entry member shows
    obtain ⟨stored, same⟩ := sound.shown entry member shows
    rw [same] at allowed
    exact handling_staged stored effect allowed
  have moved : progress settings jobId text
      ⟨traffic.memory.after effect, later, traffic.log ++ [(0, ⟨effect, answer⟩)]⟩ =
      (traffic.progress settings jobId text).handle effect answer := by
    unfold progress
    rw [pastOf_advance_self, Protocol.after_concat]
    rfl
  obtain ⟨items, status⟩ := handle_memory sound.items sound.status allowed answers
  rw [← moved] at items status
  constructor
  case items => exact items
  case status => exact status
  case shown =>
    rw [List.forall_mem_append, List.forall_mem_singleton]
    exact ⟨fun entry member shows => absurd shows (unseen entry member),
      fun shows => absurd shows (not_shows_of_handling allowed)⟩
  case listed =>
    rw [List.pairwise_append]
    refine ⟨?_, List.pairwise_singleton _ _, fun entry member _ _ shows => absurd shows (unseen entry member)⟩
    exact sound.listed.imp_of_mem fun member _ _ shows => absurd shows (unseen _ member)

theorem Sound.advance_other (sound : traffic.Sound settings jobId text) {i : Nat} (other : i ≠ 0)
    (later : List Call) (spares : Spares jobId effect)
    (answers : traffic.memory.MayAnswer effect answer) :
    Sound settings jobId text
      ⟨traffic.memory.after effect, later, traffic.log ++ [(i, ⟨effect, answer⟩)]⟩ := by
  have same : progress settings jobId text
      ⟨traffic.memory.after effect, later, traffic.log ++ [(i, ⟨effect, answer⟩)]⟩ =
      traffic.progress settings jobId text := by
    unfold progress
    rw [pastOf_advance_other _ _ other]
  obtain ⟨items, move⟩ := spares.spared traffic.memory
  constructor
  case items => rw [same, ← sound.items, items]
  case status =>
    rw [same]
    exact sound.status.spared move
  case shown =>
    rw [same, List.forall_mem_append, List.forall_mem_singleton]
    exact ⟨sound.shown, staged_of_shows sound.status answers⟩
  case listed =>
    rw [same, List.pairwise_append]
    refine ⟨sound.listed, List.pairwise_singleton _ _, ?_⟩
    intro entry member last isLast _
    -- What is listed now is what the processing has stored by now.
    rw [List.mem_singleton.mp isLast, ← sound.items]
    exact listsAll_of_answers answers

theorem Sound.step (sound : traffic.Sound settings jobId text)
    (leads : Leaves settings jobId (intake settings jobId text effects memory) traffic)
    (taken : Step settings (·.Spares jobId) traffic traffic') : traffic'.Sound settings jobId text := by
  cases taken with
  | enter => exact ⟨sound.items, sound.status, sound.shown, sound.listed⟩
  | @advance i request effect next answer asks answers =>
      by_cases first : i = 0
      · subst first
        obtain rfl : request = .process jobId text := first_request leads asks
        exact sound.advance_first _ ((conducts_processing leads).allowed asks rfl) answers
      · exact sound.advance_other first _ (spares_of_asks leads asks first) answers

/-- The job waits for its processing, if it is there already, and has no items. -/
structure IsWaiting (memory : Memory) (jobId : Uuid) : Prop where
  pending : ∀ job, memory.job? jobId = some job → job.status = JobStatus.pending.name
  unstaged : ∀ item ∈ memory.staged, item.jobId ≠ jobId

theorem intake_sound (waiting : IsWaiting memory jobId) :
    (intake settings jobId text effects memory).Sound settings jobId text := by
  constructor
  case items =>
    apply List.filter_eq_nil_iff.mpr
    intro item member
    simpa using waiting.unstaged item member
  case status =>
    refine .inr ⟨?_, fun job there => .inl (waiting.pending job there)⟩
    exact fun ⟨_, impossible⟩ => nomatch impossible
  case shown => exact fun _ member => nomatch member
  case listed => exact .nil

theorem Leaves.sound (waiting : IsWaiting memory jobId)
    (leads : Leaves settings jobId (intake settings jobId text effects memory) traffic) :
    traffic.Sound settings jobId text := by
  induction leads with
  | refl => exact intake_sound waiting
  | tail leads last ih => exact ih.step leads last

/-! ## Complete listings -/

def IsComplete (settings : IngestSettings) (jobId : Uuid) (text : String) (traffic : Traffic)
    (items : List StagedItem) : Prop :=
  ∃ candidates, Extracted settings text candidates (traffic.pastOf 0) ∧
    List.Forall₂ (StagedFor settings jobId) candidates (insertedItems (traffic.pastOf 0)) ∧
    items.Perm (insertedItems (traffic.pastOf 0))

theorem pairwise_pastOf {R : Event → Event → Prop} (pairs : traffic.log.Pairwise fun a b => R a.2 b.2)
    (i : Nat) : (traffic.pastOf i).Pairwise R :=
  List.pairwise_map.mpr (pairs.filter _)

theorem Sound.isComplete (sound : traffic.Sound settings jobId text)
    (shows : Shows settings jobId text (traffic.progress settings jobId text) (traffic.pastOf 0))
    {i : Nat} {job : Job} (readable : IsReadable job) {rest : List Event}
    (past : traffic.pastOf i = ⟨.store (.getJob jobId), .ok (some job)⟩ :: rest)
    {items : List StagedItem} (member : (⟨.store (.listStaged jobId), .ok items⟩ : Event) ∈ rest) :
    IsComplete settings jobId text traffic items := by
  have looked : (⟨.store (.getJob jobId), .ok (some job)⟩ : Event) ∈ traffic.pastOf i := by
    rw [past]
    exact List.mem_cons_self
  obtain ⟨stored, staged⟩ := sound.shown _ (mem_pastOf.mp looked) ⟨rfl, readable⟩
  have order := pairwise_pastOf (R := fun earlier later => ShowsStaged jobId earlier →
    ListsAll jobId (traffic.progress settings jobId text).items later) sound.listed i
  -- The status was read before the items were listed.
  rw [past, List.pairwise_cons] at order
  have perm : items.Perm (traffic.progress settings jobId text).items :=
    order.1 _ member ⟨rfl, readable⟩ rfl
  have made := shows.forall₂
  rw [staged] at made
  rw [shows.inserted] at perm
  exact ⟨stored.map (·.1), shows.staged stored staged, made, perm⟩

theorem getJob_records (jobId : Uuid) :
    (getJob jobId).Follows .recording (fun events view => ∃ job,
      events = [⟨.store (.getJob jobId), .ok (some job)⟩, ⟨.store (.listStaged jobId), .ok view.items⟩] ∧
        job.status = view.status.name) (fun _ _ => True) [] := by
  have looks : (loadJob jobId).Follows .recording
      (fun events job => events = [⟨.store (.getJob jobId), .ok (some job)⟩]) (fun _ _ => True) [] :=
    loadJob_looks trivial (fun _ => rfl) (fun _ => trivial) (fun _ _ => trivial)
  have lists (job : Job) : (Operation.store (.listStaged jobId)).Follows .recording
      (fun events items => events =
        [⟨.store (.getJob jobId), .ok (some job)⟩, ⟨.store (.listStaged jobId), .ok items⟩])
      (fun _ _ => True) [⟨.store (.getJob jobId), .ok (some job)⟩] :=
    Operation.follows_store (.listStaged jobId) trivial (fun _ => rfl) (fun _ => trivial)
  unfold getJob
  apply looks.bind
  rintro _ job rfl
  apply (lists job).bind
  rintro _ items rfl
  cases JobKind.parse job.kind with
  | error unknown => exact Operation.follows_throw trivial
  | ok kind =>
      cases read : JobStatus.parse job.status with
      | error unknown => exact Operation.follows_throw trivial
      | ok status => exact Operation.follows_pure ⟨job, rfl, (JobStatus.name_of_parse read).symm⟩

structure SeesAll (settings : IngestSettings) (jobId : Uuid) (text : String) (traffic : Traffic) : Prop where
  views : ∀ i view, traffic.Returns i (.getJob jobId) (.ok view) →
    view.status = .staged ∨ view.status = .confirmed → IsComplete settings jobId text traffic view.items
  /-- A confirmation that has found the job staged is about to list its items or has done so. -/
  walks : ∀ i overrides program job, traffic.calls[i]? = some ⟨.confirm jobId overrides, program⟩ →
    (⟨.store (.getJob jobId), .ok (some job)⟩ : Event) ∈ traffic.pastOf i →
    job.status = JobStatus.staged.name →
      (∃ next, program = .perform (.store (.listStaged jobId)) next) ∨
      ∃ job items later, traffic.pastOf i =
          ⟨.store (.getJob jobId), .ok (some job)⟩ :: ⟨.store (.listStaged jobId), .ok items⟩ :: later ∧
        IsComplete settings jobId text traffic items ∧ WalksOver jobId overrides items later program

theorem conducts_viewing (leads : Leaves settings jobId (intake settings jobId text effects memory) traffic) :
    traffic.Conducts .recording [] (· = .getJob jobId) fun
      | .getJob jobId => Operation.Ends (fun events view => ∃ job,
          events = [⟨.store (.getJob jobId), .ok (some job)⟩, ⟨.store (.listStaged jobId), .ok view.items⟩] ∧
            job.status = view.status.name) fun _ _ => True
      | _ => fun _ _ => True := by
  apply Leads.conducts_one leads
  · exact fun impossible => nomatch impossible
  · rintro _ _ _ rfl
    exact (getJob_records jobId).run

theorem conducts_committing (overrides : List Override)
    (leads : Leaves settings jobId (intake settings jobId text effects memory) traffic) :
    traffic.Conducts (committing jobId overrides) .fresh (· = .confirm jobId overrides) fun
      | .confirm _ _ => Operation.Ends (Course.Succeeds overrides) (Course.Fails jobId overrides)
      | _ => fun _ _ => True := by
  apply Leads.conducts_one leads
  · exact fun impossible => nomatch impossible
  · rintro _ _ _ rfl
    exact (confirmJob_course jobId overrides).run

theorem Sound.views (sound : traffic.Sound settings jobId text)
    (leads : Leaves settings jobId (intake settings jobId text effects memory) traffic) {i : Nat}
    {view : JobView} (returns : traffic.Returns i (.getJob jobId) (.ok view))
    (readable : view.status = .staged ∨ view.status = .confirmed) :
    IsComplete settings jobId text traffic view.items := by
  have ended := (conducts_viewing leads).ended returns rfl
  rw [Protocol.recording_after] at ended
  obtain ⟨job, past, status⟩ := ended
  have isReadable : IsReadable job := by
    rcases readable with staged | confirmed
    · exact .inl (status.trans (congrArg _ staged))
    · exact .inr (status.trans (congrArg _ confirmed))
  exact sound.isComplete (shows_progress leads) isReadable past (List.mem_singleton_self _)

theorem Sound.walks (sound : traffic.Sound settings jobId text)
    (leads : Leaves settings jobId (intake settings jobId text effects memory) traffic) {i : Nat}
    {overrides : List Override} {program : Program (Except ServiceError Confirmation)}
    (there : traffic.calls[i]? = some ⟨.confirm jobId overrides, program⟩) {job : Job}
    (looked : (⟨.store (.getJob jobId), .ok (some job)⟩ : Event) ∈ traffic.pastOf i)
    (staged : job.status = JobStatus.staged.name) :
    (∃ next, program = .perform (.store (.listStaged jobId)) next) ∨
      ∃ job items later, traffic.pastOf i =
          ⟨.store (.getJob jobId), .ok (some job)⟩ :: ⟨.store (.listStaged jobId), .ok items⟩ :: later ∧
        IsComplete settings jobId text traffic items ∧ WalksOver jobId overrides items later program := by
  obtain ⟨accepts, follows⟩ := conducts_committing overrides leads i _ there rfl
  have heard (fault : StoreError) :
      (⟨.store (.listStaged jobId), .error fault⟩ : Event) ∉ traffic.pastOf i := by
    intro member
    obtain ⟨m, answers⟩ := Leads.answered leads _ (mem_pastOf.mp member)
    cases answers
  rcases (reached_after accepts).walksOver follows looked staged heard with
    listing | ⟨job, items, later, isStaged, past, walks⟩
  · exact .inl listing
  · refine .inr ⟨job, items, later, past, ?_, walks⟩
    exact sound.isComplete (shows_progress leads) (.inl isStaged) past List.mem_cons_self

/-- A job is processed while any number of views and confirmations of it and any requests that spare it are
under way. Every view that shows it staged or confirmed has the items of all its candidates, and so has every
confirmation that has found it staged. -/
theorem staged_complete (waiting : IsWaiting memory jobId)
    (leads : Leaves settings jobId (intake settings jobId text effects memory) traffic) :
    SeesAll settings jobId text traffic := by
  have sound := Leaves.sound waiting leads
  constructor
  case views => exact fun _ _ => sound.views leads
  case walks =>
    intro i overrides program job there
    exact sound.walks leads there

/-! ## A review

The text of a job is processed, and a view and a confirmation of it come in as soon as its only candidate is
staged. -/

namespace Review

def job : Job :=
  ⟨⟨1⟩, JobKind.textBlob.name, "milk", JobStatus.pending.name, none, Milk.noon, Milk.noon⟩

def stagedJob : Job := { job with status := JobStatus.staged.name }

def candidate : Candidate := ⟨"2 l of milk", "milk", 2.0, "l", 0.9⟩

def resolution : Resolution := ⟨⟨⟨3⟩, "milk"⟩, 1.0, false⟩

def item : StagedItem :=
  stagedItem IngestSettings.default.reviewThreshold job.id candidate (some ⟨3⟩) ⟨2⟩ Milk.noon

def submitted : Memory := { Memory.empty with jobs := [job] }

theorem waiting : IsWaiting submitted job.id := by
  constructor
  case pending =>
    intro found there
    obtain rfl : job = found := Option.some.inj there
    rfl
  case unstaged => exact fun _ member => nomatch member

def staged : Traffic where
  memory := { Memory.empty with jobs := [stagedJob], staged := [item] }
  calls := [⟨.process job.id "milk", .done ()⟩]
  log := [
    (0, ⟨.extract "milk" IngestSettings.default.extractTimeout, .answered (.ok [candidate])⟩),
    (0, ⟨.resolve "milk" IngestSettings.default.resolveTimeout, .answered (.ok resolution)⟩),
    (0, ⟨.now, Milk.noon⟩), (0, ⟨.newId .stagedItem, ⟨2⟩⟩), (0, ⟨.store (.insertStaged item), .ok ()⟩),
    (0, ⟨.now, Milk.noon⟩), (0, ⟨.store (.transition
      ⟨job.id, JobStatus.pending.name, JobStatus.staged.name, none, Milk.noon⟩), .ok (some stagedJob)⟩)]

theorem leads_staged : Leaves .default job.id (intake .default job.id "milk" 7 submitted) staged := by
  have run : ∃ traffic, Leaves .default job.id (intake .default job.id "milk" 7 submitted) traffic ∧
      traffic = staged := ⟨_,
    .head (@Step.advance _ _ _ 0 _ (.extract "milk" _) _ (.answered (.ok [candidate])) rfl trivial) <|
    .head (@Step.advance _ _ _ 0 _ (.resolve "milk" _) _ (.answered (.ok resolution)) rfl trivial) <|
    .head (@Step.advance _ _ _ 0 _ .now _ Milk.noon rfl trivial) <|
    .head (@Step.advance _ _ _ 0 _ (.newId .stagedItem) _ ⟨2⟩ rfl trivial) <|
    .head (@Step.advance _ _ _ 0 _ (.store (.insertStaged item)) _ _ rfl rfl) <|
    .head (@Step.advance _ _ _ 0 _ .now _ Milk.noon rfl trivial) <|
    .single (@Step.advance _ _ _ 0 _ (.store (.transition
      ⟨job.id, JobStatus.pending.name, JobStatus.staged.name, none, Milk.noon⟩)) _ _ rfl rfl), rfl⟩
  obtain ⟨_, leads, rfl⟩ := run
  exact leads

theorem listed {m : Memory} (same : m.staged = [item]) :
    .ok [item] = (m.perform (.listStaged job.id)).1 :=
  congrArg Except.ok (Memory.listStaged_singleton same).symm

def view : JobView :=
  ⟨job.id, .textBlob, .staged, "milk", none, Milk.noon, Milk.noon, [item]⟩

theorem exists_readers : ∃ traffic, Leaves .default job.id staged traffic ∧
    traffic.Returns 1 (.getJob job.id) (.ok view) ∧
    traffic.Returns 2 (.confirm job.id []) (.ok ⟨job.id, .confirmed, [⟨4⟩], []⟩) := by
  let lookUp : Effect := .store (.getJob job.id)
  let list : Effect := .store (.listStaged job.id)
  let write : PantryWrite := ⟨⟨4⟩, ⟨3⟩, item.quantity, Text.trim item.unit, none, Milk.noon⟩
  refine ⟨_,
    .head (@Step.enter _ _ _ (.getJob job.id) trivial 0) <|
    .head (@Step.advance _ _ _ 1 _ lookUp _ _ rfl rfl) <|
    .head (@Step.enter _ _ _ (.confirm job.id []) trivial 0) <|
    .head (@Step.advance _ _ _ 2 _ lookUp _ _ rfl rfl) <|
    .head (@Step.advance _ _ _ 2 _ list _ _ rfl (listed rfl)) <|
    .head (@Step.advance _ _ _ 2 _ .now _ Milk.noon rfl trivial) <|
    .head (@Step.advance _ _ _ 2 _ (.newId .pantryItem) _ ⟨4⟩ rfl trivial) <|
    .head (@Step.advance _ _ _ 2 _ (.store (.upsertItem write)) _ _ rfl rfl) <|
    .head (@Step.advance _ _ _ 2 _ (.publish [⟨4⟩]) _ (.ok ()) rfl trivial) <|
    .head (@Step.advance _ _ _ 2 _ .now _ Milk.noon rfl trivial) <|
    .head (@Step.advance _ _ _ 2 _ (.store (.transition
      ⟨job.id, JobStatus.staged.name, JobStatus.confirmed.name, none, Milk.noon⟩)) _ _ rfl rfl) <|
    .single (@Step.advance _ _ _ 1 _ list _ _ rfl (listed rfl)), rfl, rfl⟩

end Review

theorem staged_complete_review : ∃ traffic,
    IsWaiting Review.submitted Review.job.id ∧
    Leaves .default Review.job.id (intake .default Review.job.id "milk" 7 Review.submitted) traffic ∧
    traffic.Returns 1 (.getJob Review.job.id) (.ok Review.view) ∧
    traffic.Returns 2 (.confirm Review.job.id []) (.ok ⟨Review.job.id, .confirmed, [⟨4⟩], []⟩) ∧
    SeesAll .default Review.job.id "milk" traffic := by
  obtain ⟨traffic, later, viewed, confirmed⟩ := Review.exists_readers
  have leads := Review.leads_staged.trans later
  exact ⟨traffic, Review.waiting, leads, viewed, confirmed, staged_complete Review.waiting leads⟩

end Larder.Interleaving.Traffic
