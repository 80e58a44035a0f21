import Larder.Proofs.Interleaving.Lawfulness
import Larder.Proofs.Interleaving.LifeCycle
import Larder.Proofs.Interleaving.Stages

/-!
# At most one confirmation wins

In a race any number of confirmations of one job advance by one effect at a time, interleaved with the tasks
of a pool over the same store, which may hold anything at the start.

The job is confirmed by the first transition that applies, and it stays so. What looks it up later finds it
confirmed, and a later transition does not apply (`Race.Sound`). With what the stages of the confirmations
say, `confirmJob_race` reads off who answers what.
-/

namespace Larder.Interleaving

structure Race where
  pool : Pool
  calls : List (Program (Except ServiceError Confirmation))
  /-- The effects of the calls, each with the index of its call, in the order in which they happened. -/
  log : List (Nat × Event)

namespace Race

def start (memory : Memory) : Race :=
  ⟨⟨memory, [], []⟩, [], []⟩

def pastOf (race : Race) (i : Nat) : List Event :=
  (race.log.filter (·.1 == i)).map (·.2)

def Returns (race : Race) (i : Nat) (result : Except ServiceError Confirmation) : Prop :=
  race.calls[i]? = some (.done result)

inductive Step (settings : IngestSettings) (jobId : Uuid) : Race → Race → Prop
  | others {race : Race} {pool : Pool} (taken : Interleaving.Step settings race.pool pool) :
      Step settings jobId race { race with pool }
  | enter (race : Race) (overrides : List Override) :
      Step settings jobId race
        { race with calls := race.calls ++ [(Service.confirmJob jobId overrides).run] }
  | advance {race : Race} {i : Nat} {effect : Effect}
      {next : effect.Answer → Program (Except ServiceError Confirmation)} {answer : effect.Answer}
      (call : race.calls[i]? = some (.perform effect next)) (answers : race.pool.MayAnswer effect answer) :
      Step settings jobId race
        ⟨race.pool.after settings effect answer, race.calls.set i (next answer),
          race.log ++ [(i, ⟨effect, answer⟩)]⟩

end Race

/-! ## The pool -/

variable {settings : IngestSettings} {jobId : Uuid}

def IsConfirmed (jobId : Uuid) (m : Memory) : Prop :=
  ∃ job, m.job? jobId = some job ∧ job.status = JobStatus.confirmed.name

theorem IsConfirmed.move {m after : Memory} (confirmed : IsConfirmed jobId m)
    (move : JobMove (m.job? jobId) (after.job? jobId)) : IsConfirmed jobId after := by
  obtain ⟨job, there, isConfirmed⟩ := confirmed
  obtain ⟨later, laterThere, lasts⟩ := move.remains job there
  exact ⟨later, laterThere, lasts.confirmed isConfirmed⟩

theorem jobMove_after {effect : Effect} (isLawful : IsLawful effect) (pool : Pool)
    (answer : effect.Answer) (id : Uuid) :
    JobMove (pool.memory.job? id) ((pool.after settings effect answer).memory.job? id) := by
  cases effect with
  | store call => exact jobMove_lawful isLawful id
  | _ => exact .stays _

theorem mem_tasks_after {pool : Pool} {effect : Effect} {answer : effect.Answer} {task : Task}
    (member : task ∈ (pool.after settings effect answer).tasks) :
    task ∈ pool.tasks ∨ ∃ request : Request, task = request.task settings := by
  cases effect with
  | process id text =>
      rcases List.mem_append.mp member with old | new
      · exact .inl old
      · exact .inr ⟨_, List.mem_singleton.mp new⟩
  | _ => exact .inl member

theorem lawful_replaced {before after : List Task} {task next : Task}
    (isLawful : ∀ other ∈ before ++ task :: after, other.Lawful) (nextLawful : next.Lawful) :
    ∀ other ∈ before ++ next :: after, other.Lawful := by
  rw [List.forall_mem_append, List.forall_mem_cons] at *
  exact ⟨isLawful.1, nextLawful, isLawful.2.2⟩

theorem Step.lawful {pool pool' : Pool} (taken : Step settings pool pool')
    (isLawful : ∀ task ∈ pool.tasks, task.Lawful) :
    (∀ task ∈ pool'.tasks, task.Lawful) ∧ ∀ id, JobMove (pool.memory.job? id) (pool'.memory.job? id) := by
  cases taken with
  | start request =>
      refine ⟨?_, fun id => .stays _⟩
      rw [List.forall_mem_append, List.forall_mem_singleton]
      exact ⟨isLawful, request.task_lawful settings⟩
  | @perform before after task effect next answer split asks answers =>
      rw [split] at isLawful
      obtain ⟨effectLawful, nextLawful⟩ :=
        (isLawful task (List.mem_append_right _ List.mem_cons_self)).asks asks
      constructor
      · intro other member
        rcases mem_tasks_after member with there | ⟨request, rfl⟩
        · exact lawful_replaced isLawful (nextLawful answer) other there
        · exact request.task_lawful settings
      · exact jobMove_after effectLawful { pool with tasks := before ++ next answer :: after } answer
  | finish split ends =>
      rw [split] at isLawful
      exact ⟨lawful_replaced isLawful ends.lawful, fun id => .stays _⟩

/-! ## Winners -/

def IsWin : Event → Prop
  | ⟨.store (.transition _), .ok (some _)⟩ => True
  | _ => False

def IsLate (jobId : Uuid) : Event → Prop
  | ⟨.store (.getJob _), found⟩ =>
      ∃ job, found = .ok (some job) ∧ job.id = jobId ∧ job.status = JobStatus.confirmed.name
  | ⟨.store (.transition _), moved⟩ => moved = .ok none
  | _ => True

variable {stage : Stage} {effect : Effect} {answer : effect.Answer} {pool : Pool}

theorem Stage.Allows.isLawful (allowed : stage.Allows jobId effect) : IsLawful effect := by
  cases allowed with
  | lookUp => trivial
  | work isWork => cases isWork <;> trivial
  | decide time => exact ⟨.staged, .confirmed, rfl, rfl, rfl, by simp⟩

theorem isLate_of_isConfirmed (confirmed : IsConfirmed jobId pool.memory)
    (allowed : stage.Allows jobId effect) (answers : pool.MayAnswer effect answer) :
    IsLate jobId ⟨effect, answer⟩ := by
  obtain ⟨job, there, isConfirmed⟩ := confirmed
  cases allowed with
  | lookUp => exact ⟨job, answers.trans (congrArg Except.ok there), Memory.job?_id there, isConfirmed⟩
  | work isWork => cases isWork <;> trivial
  | decide time =>
      have asked : answer = (pool.memory.transition _).1 := answers
      rcases Memory.transition_cases pool.memory
          ⟨jobId, JobStatus.staged.name, JobStatus.confirmed.name, none, time⟩ with
        ⟨other, _, present, staged, _⟩ | ⟨done, _⟩
      · rw [there] at present
        cases present
        have same : JobStatus.confirmed.name = JobStatus.staged.name := isConfirmed.symm.trans staged
        exact absurd same (by decide)
      · exact asked.trans (congrArg Prod.fst done)

theorem isConfirmed_of_isWin (win : IsWin ⟨effect, answer⟩) (allowed : stage.Allows jobId effect)
    (answers : pool.MayAnswer effect answer) :
    IsConfirmed jobId (pool.after settings effect answer).memory := by
  cases allowed with
  | lookUp => cases win
  | work isWork => cases isWork <;> cases win
  | decide time =>
      have asked : answer = (pool.memory.transition _).1 := answers
      change IsConfirmed jobId (pool.memory.transition _).2
      rcases Memory.transition_cases pool.memory
          ⟨jobId, JobStatus.staged.name, JobStatus.confirmed.name, none, time⟩ with
        ⟨job, after, present, staged, done, _, jobs⟩ | ⟨done, _⟩
      · rw [done]
        exact ⟨_, (jobs jobId).trans (if_pos rfl), rfl⟩
      · rw [asked, done] at win
        cases win

/-! ## Races -/

namespace Race

variable {race race' : Race}

structure Sound (jobId : Uuid) (race : Race) : Prop where
  tasks : ∀ task ∈ race.pool.tasks, task.Lawful
  calls : ∀ i call, race.calls[i]? = some call →
    ∃ stage, Past jobId (race.pastOf i) stage ∧ Confirms jobId stage call
  known : ∀ entry ∈ race.log, entry.1 < race.calls.length
  order : race.log.Pairwise fun earlier later => IsWin earlier.2 → IsLate jobId later.2
  confirmed : ∀ entry ∈ race.log, IsWin entry.2 → IsConfirmed jobId race.pool.memory

theorem start_sound (memory : Memory) : (start memory).Sound jobId := by
  constructor
  case order => exact .nil
  case calls => exact fun _ _ there => nomatch there
  case tasks | known | confirmed => exact fun _ member => nomatch member

theorem Sound.pastOf_eq_nil (sound : race.Sound jobId) {i : Nat} (beyond : race.calls.length ≤ i) :
    race.pastOf i = [] := by
  unfold pastOf
  rw [List.map_eq_nil_iff, List.filter_eq_nil_iff]
  intro entry member picked
  have known := sound.known entry member
  have same : entry.1 = i := by simpa using picked
  omega

theorem Sound.enter (sound : race.Sound jobId) (overrides : List Override) :
    Sound jobId { race with calls := race.calls ++ [(Service.confirmJob jobId overrides).run] } := by
  constructor
  case tasks => exact sound.tasks
  case calls =>
    intro i call there
    rcases Nat.lt_trichotomy i race.calls.length with inside | rfl | beyond
    · rw [List.getElem?_append_left inside] at there
      exact sound.calls i call there
    · rw [List.getElem?_concat_length] at there
      cases there
      refine ⟨.fresh, ?_, (Service.confirmJob_follows overrides).run⟩
      change Past jobId (race.pastOf _) .fresh
      rw [sound.pastOf_eq_nil (Nat.le_refl _)]
      exact .fresh
    · have none : (race.calls ++ [(Service.confirmJob jobId overrides).run])[i]? = none := by simpa
      rw [none] at there
      cases there
  case known =>
    intro entry member
    have known := sound.known entry member
    simp only [List.length_append]
    omega
  case order => exact sound.order
  case confirmed => exact sound.confirmed

theorem Sound.others (sound : race.Sound jobId) {pool : Pool}
    (taken : Interleaving.Step settings race.pool pool) : Sound jobId { race with pool } := by
  obtain ⟨tasks, moves⟩ := taken.lawful sound.tasks
  constructor
  case tasks => exact tasks
  case calls => exact sound.calls
  case known => exact sound.known
  case order => exact sound.order
  case confirmed => exact fun entry member win => (sound.confirmed entry member win).move (moves jobId)

theorem Sound.advance (sound : race.Sound jobId) {i : Nat} {effect : Effect}
    {next : effect.Answer → Program (Except ServiceError Confirmation)} {answer : effect.Answer}
    (call : race.calls[i]? = some (.perform effect next)) (answers : race.pool.MayAnswer effect answer) :
    Sound jobId ⟨race.pool.after settings effect answer, race.calls.set i (next answer),
      race.log ++ [(i, ⟨effect, answer⟩)]⟩ := by
  obtain ⟨stage, past, confirms⟩ := sound.calls i _ call
  obtain ⟨allowed, follows⟩ := Program.follows_perform.mp confirms
  have inside : i < race.calls.length := (List.getElem?_eq_some_iff.mp call).1
  constructor
  case tasks =>
    intro task member
    rcases mem_tasks_after member with there | ⟨request, rfl⟩
    · exact sound.tasks task there
    · exact request.task_lawful settings
  case calls =>
    intro j other there
    by_cases same : i = j
    · subst same
      rw [List.getElem?_set_self inside] at there
      cases there
      refine ⟨stage.next effect answer, ?_, follows answer⟩
      have longer := past.next allowed answer
      simpa [pastOf] using longer
    · rw [List.getElem?_set_ne same] at there
      obtain ⟨stage, past, confirms⟩ := sound.calls j other there
      refine ⟨stage, ?_, confirms⟩
      simpa [pastOf, same] using past
  case known =>
    simp only [List.forall_mem_append, List.forall_mem_singleton, List.length_set]
    exact ⟨sound.known, inside⟩
  case order =>
    rw [List.pairwise_append]
    refine ⟨sound.order, List.pairwise_singleton _ _, ?_⟩
    intro earlier member last isLast win
    rw [List.mem_singleton.mp isLast]
    exact isLate_of_isConfirmed (sound.confirmed earlier member win) allowed answers
  case confirmed =>
    rw [List.forall_mem_append, List.forall_mem_singleton]
    constructor
    · intro entry member win
      exact (sound.confirmed entry member win).move (jobMove_after allowed.isLawful _ answer jobId)
    · exact fun win => isConfirmed_of_isWin win allowed answers

theorem Sound.step (sound : race.Sound jobId) (taken : Step settings jobId race race') :
    race'.Sound jobId := by
  cases taken with
  | others taken => exact sound.others taken
  | enter overrides => exact sound.enter overrides
  | advance call answers => exact sound.advance call answers

theorem Step.returned (taken : Step settings jobId race race') {i : Nat}
    {result : Except ServiceError Confirmation} (there : race.Returns i result) :
    race'.Returns i result := by
  cases taken with
  | others => exact there
  | enter =>
      have inside : i < race.calls.length := (List.getElem?_eq_some_iff.mp there).1
      exact (List.getElem?_append_left inside).trans there
  | @advance j _ _ _ call =>
      have differs : j ≠ i := by
        rintro rfl
        cases call.symm.trans there
      exact (List.getElem?_set_ne differs).trans there

abbrev Leads (settings : IngestSettings) (jobId : Uuid) : Race → Race → Prop :=
  Relation.ReflTransGen (Step settings jobId)

theorem Sound.leads (sound : race.Sound jobId) (leads : Leads settings jobId race race') :
    race'.Sound jobId := by
  induction leads with
  | refl => exact sound
  | tail _ last ih => exact ih.step last

theorem Leads.returned (leads : Leads settings jobId race race') {i : Nat}
    {result : Except ServiceError Confirmation} (there : race.Returns i result) :
    race'.Returns i result := by
  induction leads with
  | refl => exact there
  | tail _ last ih => exact last.returned ih

theorem mem_pastOf {i : Nat} {event : Event} : event ∈ race.pastOf i ↔ (i, event) ∈ race.log := by
  simp [pastOf]

theorem Sound.exists_win (sound : race.Sound jobId) {i : Nat} {done : Confirmation}
    (there : race.Returns i (.ok done)) :
    ∃ t job, (i, ⟨.store (.transition t), .ok (some job)⟩) ∈ race.log := by
  obtain ⟨stage, past, confirms⟩ := sound.calls i _ there
  have wins : Operation.Ends Stage.Wins (Stage.Loses jobId) stage (.ok done) :=
    Program.follows_done.mp confirms
  obtain ⟨job, rfl⟩ := wins
  obtain ⟨t, member⟩ := past.moved
  exact ⟨t, job, mem_pastOf.mp member⟩

structure OneWinner (settings : IngestSettings) (jobId : Uuid) (race : Race) : Prop where
  unique : ∀ i j done done', race.Returns i (.ok done) → race.Returns j (.ok done') → i = j
  lasting : ∀ i done, race.Returns i (.ok done) → ∀ later, Leads settings jobId race later →
    later.Returns i (.ok done) ∧ IsConfirmed jobId later.pool.memory
  winning : ∀ i done, race.Returns i (.ok done) →
    ∃ t job, (i, ⟨.store (.transition t), .ok (some job)⟩) ∈ race.log
  late : ∀ earlier winner t job later,
    race.log = earlier ++ (winner, ⟨.store (.transition t), .ok (some job)⟩) :: later →
      (∀ i found, (i, ⟨.store (.getJob jobId), found⟩) ∈ later →
        race.Returns i (.error (Service.notStaged jobId "confirm" .confirmed)) ∧
          race.pastOf i = [⟨.store (.getJob jobId), found⟩]) ∧
      ∀ i t' moved, (i, ⟨.store (.transition t'), moved⟩) ∈ later →
        race.Returns i (.error (Stage.overtaken jobId))

theorem Sound.isLate (sound : race.Sound jobId) {earlier later : List (Nat × Event)}
    {winner entry : Nat × Event} (split : race.log = earlier ++ winner :: later) (win : IsWin winner.2)
    (member : entry ∈ later) : IsLate jobId entry.2 := by
  have order := sound.order
  rw [split, List.pairwise_append, List.pairwise_cons] at order
  exact order.2.1.1 entry member win

theorem Sound.exists_call (sound : race.Sound jobId) {entry : Nat × Event} (member : entry ∈ race.log) :
    ∃ call stage, race.calls[entry.1]? = some call ∧ Past jobId (race.pastOf entry.1) stage ∧
      Confirms jobId stage call := by
  have there := List.getElem?_eq_getElem (sound.known entry member)
  obtain ⟨stage, past, confirms⟩ := sound.calls _ _ there
  exact ⟨_, stage, there, past, confirms⟩

theorem Sound.lookUp (sound : race.Sound jobId) {i : Nat} {found : Except StoreError (Option Job)}
    (member : (i, ⟨.store (.getJob jobId), found⟩) ∈ race.log)
    (isLate : IsLate jobId ⟨.store (.getJob jobId), found⟩) :
    race.Returns i (.error (Service.notStaged jobId "confirm" .confirmed)) ∧
      race.pastOf i = [⟨.store (.getJob jobId), found⟩] := by
  obtain ⟨job, rfl, sameId, confirmed⟩ := isLate
  obtain ⟨call, stage, there, past, confirms⟩ := sound.exists_call member
  have other : job.status ≠ JobStatus.staged.name := by
    rw [confirmed]
    decide
  obtain ⟨rfl, only⟩ := past.lookUp other (mem_pastOf.mpr member)
  rw [confirms.turnedAway confirmed, sameId] at there
  exact ⟨there, only⟩

theorem Sound.overtaken (sound : race.Sound jobId) {i : Nat} {t : Transition}
    (member : (i, ⟨.store (.transition t), .ok none⟩) ∈ race.log) :
    race.Returns i (.error (Stage.overtaken jobId)) := by
  obtain ⟨call, stage, there, past, confirms⟩ := sound.exists_call member
  obtain rfl := past.transition (mem_pastOf.mpr member)
  rw [confirms.overtaken] at there
  exact there

theorem Sound.oneWinner (sound : race.Sound jobId) : OneWinner settings jobId race := by
  constructor
  case winning => exact fun i done there => sound.exists_win there
  case lasting =>
    intro i done there later leads
    have stillThere := leads.returned there
    have soundLater := sound.leads leads
    obtain ⟨t, job, member⟩ := soundLater.exists_win stillThere
    exact ⟨stillThere, soundLater.confirmed _ member trivial⟩
  case late =>
    intro earlier winner t job later split
    have within {entry : Nat × Event} (member : entry ∈ later) : entry ∈ race.log := by
      rw [split]
      exact List.mem_append_right _ (List.mem_cons_of_mem _ member)
    constructor
    · exact fun i found member => sound.lookUp (within member) (sound.isLate split trivial member)
    · intro i t' moved member
      have none : moved = .ok none := sound.isLate split trivial member
      rw [none] at member
      exact sound.overtaken (within member)
  case unique =>
    -- Of two transitions that applied, the later one would have come too late.
    intro i j done done' first second
    obtain ⟨t, job, member⟩ := sound.exists_win first
    obtain ⟨t', job', member'⟩ := sound.exists_win second
    obtain ⟨earlier, later, split⟩ := List.append_of_mem member
    rw [split, List.mem_append, List.mem_cons] at member'
    rcases member' with before | same | after
    · have order := sound.order
      rw [split, List.pairwise_append] at order
      have never := order.2.2 _ before _ List.mem_cons_self trivial
      cases never
    · exact (congrArg Prod.fst same).symm
    · have never := sound.isLate split trivial after
      cases never

/-- Of the confirmations of a job at most one goes through, whatever else happens to the store. From then
on the job is confirmed; a confirmation that looks it up later is turned away without any write or
publication, and one that comes to its transition later finds itself overtaken. -/
theorem confirmJob_race {settings : IngestSettings} {jobId : Uuid} {memory : Memory} {race : Race}
    (leads : Leads settings jobId (start memory) race) : OneWinner settings jobId race :=
  ((start_sound memory).leads leads).oneWinner

/-! ## A race

Two confirmations of a job without items look it up before either comes to its transition, and a third one
comes after both. -/

namespace Party

def job : Job :=
  ⟨⟨1⟩, JobKind.textBlob.name, "nothing", JobStatus.staged.name, none, Milk.noon, Milk.noon⟩

def memory : Memory := { Memory.empty with jobs := [job] }

theorem exists_race : ∃ race, Leads .default job.id (start memory) race ∧
    race.Returns 0 (.ok ⟨job.id, .confirmed, [], []⟩) ∧
    race.Returns 1 (.error (Stage.overtaken job.id)) ∧
    race.Returns 2 (.error (Service.notStaged job.id "confirm" .confirmed)) := by
  have listed : .ok [] = (memory.perform (.listStaged job.id)).1 := by
    have none : memory.staged = [] := rfl
    change Except.ok [] = Except.ok (memory.listStaged job.id)
    rw [Memory.listStaged, none, List.filter_nil, List.mergeSort_nil]
  let lookUp : Effect := .store (.getJob job.id)
  let list : Effect := .store (.listStaged job.id)
  let move : Effect := .store (.transition
    ⟨job.id, JobStatus.staged.name, JobStatus.confirmed.name, none, Milk.noon⟩)
  refine ⟨_, .head (.enter _ []) <| .head (.enter _ []) <|
    .head (@Step.advance _ _ _ 0 lookUp _ _ rfl rfl) <|
    .head (@Step.advance _ _ _ 1 lookUp _ _ rfl rfl) <|
    .head (@Step.advance _ _ _ 0 list _ _ rfl listed) <|
    .head (@Step.advance _ _ _ 1 list _ _ rfl listed) <|
    .head (@Step.advance _ _ _ 0 .now _ Milk.noon rfl trivial) <|
    .head (@Step.advance _ _ _ 0 move _ _ rfl rfl) <|
    .head (@Step.advance _ _ _ 1 .now _ Milk.noon rfl trivial) <|
    .head (@Step.advance _ _ _ 1 move _ _ rfl rfl) <|
    .head (.enter _ []) <|
    .single (@Step.advance _ _ _ 2 lookUp _ _ rfl rfl), rfl, rfl, rfl⟩

end Party

theorem confirmJob_race_party : ∃ race, Leads .default Party.job.id (start Party.memory) race ∧
    race.Returns 0 (.ok ⟨Party.job.id, .confirmed, [], []⟩) ∧
    race.Returns 1 (.error (Stage.overtaken Party.job.id)) ∧
    race.Returns 2 (.error (Service.notStaged Party.job.id "confirm" .confirmed)) ∧
    OneWinner .default Party.job.id race := by
  obtain ⟨race, leads, first, second, third⟩ := Party.exists_race
  exact ⟨race, leads, first, second, third, confirmJob_race leads⟩

end Race

end Larder.Interleaving
