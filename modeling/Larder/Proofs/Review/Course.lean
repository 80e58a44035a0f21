import Larder.Proofs.Review.Walk
import Larder.Proofs.Service.Protocol
import Larder.Proofs.Store.Constraints

namespace Larder.Service

/-- The stocks of all writes, whether they went through or not. -/
def attempted (events : List Event) : List Stock :=
  events.flatMap fun
    | ⟨.store (.upsertItem write), _⟩ => [write.stock]
    | _ => []

def IsFailedWrite : Event → Prop
  | ⟨.store (.upsertItem _), .error _⟩ => True
  | _ => False

theorem attempted_concat (events : List Event) (event : Event) :
    attempted (events ++ [event]) = attempted events ++ attempted [event] :=
  List.flatMap_append

/-- How far a confirmation has come: the items that it has listed, and the stocks that are still to come. -/
inductive Course
  | fresh
  | admitted
  | turnedAway
  | walking (items : List StagedItem) (rest : List Stock)
  | stopped (items : List StagedItem)

namespace Course

variable (jobId : Uuid) (overrides : List Override)

def IsUnderWay : Course → Prop
  | .walking _ _ | .stopped _ => True
  | _ => False

inductive Allows : Course → Effect → Prop
  | lookUp : Allows .fresh (.store (.getJob jobId))
  | list : Allows .admitted (.store (.listStaged jobId))
  | now {items rest} : Allows (.walking items rest) .now
  | newId {items rest} (kind : IdKind) : Allows (.walking items rest) (.newId kind)
  | write {items rest} (write : PantryWrite) :
      Allows (.walking items (write.stock :: rest)) (.store (.upsertItem write))
  | publish {course} (ids : List Uuid) (underWay : course.IsUnderWay) : Allows course (.publish ids)
  | move {items} (time : Timestamp) : Allows (.walking items []) (.store (.transition
      ⟨jobId, JobStatus.staged.name, JobStatus.confirmed.name, none, time⟩))

def lookedUp : Except StoreError (Option Job) → Course
  | .ok (some job) => if job.status = JobStatus.staged.name then .admitted else .turnedAway
  | _ => .turnedAway

def next : Course → (effect : Effect) → effect.Answer → Course
  | .fresh, .store (.getJob _), found => lookedUp found
  | .admitted, .store (.listStaged _), .ok items => .walking items (walk overrides items)
  | .admitted, .store (.listStaged _), .error _ => .turnedAway
  | .walking items rest, .store (.upsertItem _), .ok _ => .walking items (rest.drop 1)
  | .walking items _, .store (.upsertItem _), .error _ => .stopped items
  | course, _, _ => course

def Succeeds (course : Course) (done : Confirmation) : Prop :=
  ∃ items, course = .walking items [] ∧ done.skipped = leftOut overrides items

def Fails : Course → ServiceError → Prop
  | .fresh, _ | .admitted, _ => False
  | .walking items rest, _ =>
      rest = [] ∨ checkOverrides jobId (items.map (·.id)) [] 0 overrides ≠ .ok ()
  | .turnedAway, _ | .stopped _, _ => True

end Course

def committing (jobId : Uuid) (overrides : List Override) : Protocol Course where
  allows := Course.Allows jobId
  next := Course.next overrides

/-! ## Along the program -/

variable {jobId : Uuid} {overrides : List Override} {items : List StagedItem} {rest : List Stock}

def Course.Walked (overrides : List Override) (items left : List StagedItem) (course : Course)
    (written : Written) : Prop :=
  match written.fault with
  | none => course = .walking items [] ∧ written.skipped = leftOut overrides left
  | some _ => course = .stopped items

theorem Course.Walked.skipping {left : List StagedItem} {course : Course} {written : Written}
    {item : StagedItem} (walked : Walked overrides items left course written)
    (without : committed? overrides item = none) :
    Walked overrides items (item :: left) course
      { written with skipped := item.id :: written.skipped } := by
  obtain ⟨itemIds, skipped, fault⟩ := written
  cases fault with
  | none =>
      obtain ⟨done, rfl⟩ := walked
      exact ⟨done, by simp [leftOut, without]⟩
  | some fault => exact walked

theorem Course.Walked.writing {left : List StagedItem} {course : Course} {written : Written}
    {item : StagedItem} {stock : Stock} (walked : Walked overrides items left course written)
    (committed : committed? overrides item = some stock) (id : Uuid) :
    Walked overrides items (item :: left) course { written with itemIds := id :: written.itemIds } := by
  obtain ⟨itemIds, skipped, fault⟩ := written
  cases fault with
  | none =>
      obtain ⟨done, rfl⟩ := walked
      exact ⟨done, by simp [leftOut, committed]⟩
  | some fault => exact walked

theorem writeItem_course {ingredientId : Uuid} {quantity : Float} {unit : String}
    {expiresAt : Option Timestamp} :
    (writeItem ingredientId quantity unit expiresAt).Follows (committing jobId overrides)
      (fun course _ => course = .walking items rest) (fun course _ => course = .stopped items)
      (.walking items (⟨ingredientId, quantity, Text.trim unit, expiresAt⟩ :: rest)) := by
  let begun : Course := .walking items (⟨ingredientId, quantity, Text.trim unit, expiresAt⟩ :: rest)
  have reads : (Operation.ask .now).Follows (committing jobId overrides) (fun course _ => course = begun)
      (fun course _ => course = .stopped items) begun := Operation.follows_ask .now fun _ => rfl
  have names : (Operation.ask (.newId .pantryItem)).Follows (committing jobId overrides)
      (fun course _ => course = begun) (fun course _ => course = .stopped items) begun :=
    Operation.follows_ask (.newId _) fun _ => rfl
  unfold writeItem
  apply reads.bind
  rintro _ now rfl
  apply names.bind
  rintro _ id rfl
  exact Operation.follows_store (.upsertItem _)
    (.write ⟨id, ingredientId, quantity, Text.trim unit, expiresAt, now⟩) (fun _ => rfl) (fun _ => rfl)

theorem writeAll_course (distinct : (overrides.map (·.stagedItemId)).Nodup) (left : List StagedItem) :
    (writeAll overrides left).Follows (committing jobId overrides) (Course.Walked overrides items left)
      (.walking items (walk overrides left)) := by
  induction left with
  | nil => exact Program.follows_pure ⟨rfl, rfl⟩
  | cons item left ih =>
      have stock := committed?_eq distinct item
      unfold writeAll
      dsimp only at stock ⊢
      generalize (Commitment.ofItem item).apply (overrideOf overrides item.id) = values at stock ⊢
      obtain ⟨ingredientId, quantity, unit⟩ := values
      rw [walk_cons, stock]
      cases ingredientId with
      | none =>
          apply ih.bind
          intro course written walked
          exact Program.follows_pure (walked.skipping stock)
      | some ingredientId =>
          apply writeItem_course.run.bind
          intro course result ends
          cases result with
          | error fault => exact Program.follows_pure ends
          | ok row =>
              obtain rfl : course = .walking items (walk overrides left) := ends
              apply ih.bind
              intro course written walked
              exact Program.follows_pure (walked.writing stock row.id)

theorem publishWritten_course (ids : List Uuid) {fails : Course → ServiceError → Prop} {course : Course}
    (underWay : course.IsUnderWay) :
    (publishWritten ids).Follows (committing jobId overrides) (fun after _ => after = course) fails
      course := by
  have allowed : (committing jobId overrides).allows course (.publish ids) := .publish ids underWay
  have publishes : (Operation.ask (.publish ids)).Follows (committing jobId overrides)
      (fun after _ => after = course) fails course := by
    apply Operation.follows_ask allowed
    intro answer
    cases course <;> rfl
  unfold publishWritten publish
  split
  · exact Operation.follows_pure rfl
  · apply publishes.bind
    rintro _ _ rfl
    exact Operation.follows_pure rfl

theorem transition_course :
    (transition jobId .staged .confirmed none).Follows (committing jobId overrides)
      (fun course _ => course = .walking items []) (Course.Fails jobId overrides) (.walking items []) := by
  have reads : (Operation.ask .now).Follows (committing jobId overrides)
      (fun course _ => course = .walking items []) (Course.Fails jobId overrides) (.walking items []) :=
    Operation.follows_ask .now fun _ => rfl
  unfold transition
  rw [if_neg (by decide)]
  apply reads.bind
  rintro _ now rfl
  exact Operation.follows_store (.transition _) (.move now) (fun _ => rfl)
    (fun _ => .inl rfl)

theorem conclude_course {written : Written} {course : Course}
    (walked : Course.Walked overrides items items course written) :
    (conclude jobId written).Follows (committing jobId overrides) (Course.Succeeds overrides)
      (Course.Fails jobId overrides) course := by
  obtain ⟨itemIds, skipped, fault⟩ := written
  unfold conclude
  cases fault with
  | some fault =>
      obtain rfl : course = .stopped items := walked
      have underWay : (Course.stopped items).IsUnderWay := trivial
      apply (publishWritten_course itemIds underWay).bind
      rintro _ _ rfl
      exact Operation.follows_throw trivial
  | none =>
      obtain ⟨rfl, skips⟩ := walked
      have underWay : (Course.walking items []).IsUnderWay := trivial
      apply (publishWritten_course itemIds underWay).bind
      rintro _ _ rfl
      apply transition_course.bind
      rintro _ moved rfl
      cases moved with
      | some job => exact Operation.follows_pure ⟨items, rfl, skips⟩
      | none => exact Operation.follows_throw (.inl rfl)

theorem Course.lookedUp_staged {job : Job} (staged : job.status = JobStatus.staged.name) :
    lookedUp (.ok (some job)) = .admitted := if_pos staged

theorem Course.lookedUp_other {job : Job} (other : job.status ≠ JobStatus.staged.name) :
    lookedUp (.ok (some job)) = .turnedAway := if_neg other

theorem loadJob_looks {σ : Type} {protocol : Protocol σ} {state : σ} {ends : σ → Job → Prop}
    {fails : σ → ServiceError → Prop} (allowed : protocol.allows state (.store (.getJob jobId)))
    (found : ∀ job, ends (protocol.next state (.store (.getJob jobId)) (.ok (some job))) job)
    (absent : ∀ fault, fails (protocol.next state (.store (.getJob jobId)) (.ok none)) fault)
    (unheard : ∀ error fault, fails (protocol.next state (.store (.getJob jobId)) (.error error)) fault) :
    (loadJob jobId).Follows protocol ends fails state := by
  have looks : (Operation.store (.getJob jobId)).Follows protocol
      (fun after found => after = protocol.next state (.store (.getJob jobId)) (.ok found)) fails state :=
    Operation.follows_store (.getJob jobId) allowed (fun _ => rfl) (fun error => unheard error _)
  unfold loadJob
  apply looks.bind
  rintro _ result rfl
  cases result with
  | some job => exact Operation.follows_pure (found job)
  | none => exact Operation.follows_throw (absent _)

theorem loadJob_course :
    (loadJob jobId).Follows (committing jobId overrides)
      (fun course job => course = .lookedUp (.ok (some job))) (Course.Fails jobId overrides) .fresh :=
  loadJob_looks Course.Allows.lookUp (fun _ => rfl) (fun _ => trivial) (fun _ _ => trivial)

theorem requireStaged_admits {σ : Type} {protocol : Protocol σ} {state : σ}
    {fails : σ → ServiceError → Prop} (job : Job) (action : String)
    (refused : job.status ≠ JobStatus.staged.name → ∀ fault, fails state fault) :
    (requireStaged job action).Follows protocol
      (fun after _ => after = state ∧ job.status = JobStatus.staged.name) fails state := by
  unfold requireStaged
  by_cases staged : job.status = JobStatus.staged.name
  · rw [staged, JobStatus.parse_name]
    exact Operation.follows_pure ⟨rfl, rfl⟩
  · cases read : JobStatus.parse job.status with
    | error unknown => exact Operation.follows_throw (refused staged _)
    | ok status =>
        have other : status ≠ .staged := by
          rintro rfl
          exact staged (JobStatus.name_of_parse read).symm
        dsimp only [Operation.parseStored]
        rw [pure_bind, if_pos other]
        exact Operation.follows_throw (refused staged _)

theorem confirmJob_course (jobId : Uuid) (overrides : List Override) :
    (confirmJob jobId overrides).Follows (committing jobId overrides) (Course.Succeeds overrides)
      (Course.Fails jobId overrides) .fresh := by
  have lists : (Operation.store (.listStaged jobId)).Follows (committing jobId overrides)
      (fun course items => course = .walking items (walk overrides items)) (Course.Fails jobId overrides)
      .admitted :=
    Operation.follows_store (.listStaged jobId) .list (fun _ => rfl) (fun _ => trivial)
  unfold confirmJob
  apply loadJob_course.bind
  rintro _ job rfl
  have refused (other : job.status ≠ JobStatus.staged.name) (fault : ServiceError) :
      Course.Fails jobId overrides (.lookedUp (.ok (some job))) fault := by
    rw [Course.lookedUp_other other]
    trivial
  apply (requireStaged_admits job "confirm" refused).bind
  rintro _ _ ⟨rfl, staged⟩
  rw [Course.lookedUp_staged staged]
  apply lists.bind
  rintro _ items rfl
  have checks : (liftM (checkOverrides jobId (items.map (·.id)) [] 0 overrides) : Operation Unit).Follows
      (committing jobId overrides)
      (fun course _ => course = .walking items (walk overrides items) ∧
        (overrides.map (·.stagedItemId)).Nodup)
      (Course.Fails jobId overrides) (.walking items (walk overrides items)) := by
    apply Operation.follows_result
    cases checked : checkOverrides jobId (items.map (·.id)) [] 0 overrides with
    | ok _ => exact ⟨rfl, distinct_of_accepted checked⟩
    | error fault =>
        right
        rw [checked]
        exact fun impossible => nomatch impossible
  apply checks.bind
  rintro _ _ ⟨rfl, distinct⟩
  apply (Operation.follows_lift (writeAll_course distinct items)).bind
  exact fun course written walked => conclude_course walked

/-! ## What has happened -/

inductive Course.Reached (jobId : Uuid) (overrides : List Override) : Course → List Event → Prop
  | fresh : Reached jobId overrides .fresh []
  | admitted {job : Job} (staged : job.status = JobStatus.staged.name) :
      Reached jobId overrides .admitted [⟨.store (.getJob jobId), .ok (some job)⟩]
  | turnedAway {found : Except StoreError (Option Job)}
      (other : ∀ job, found = .ok (some job) → job.status ≠ JobStatus.staged.name) :
      Reached jobId overrides .turnedAway [⟨.store (.getJob jobId), found⟩]
  | unheard {job : Job} (fault : StoreError) : Reached jobId overrides .turnedAway
      [⟨.store (.getJob jobId), .ok (some job)⟩, ⟨.store (.listStaged jobId), .error fault⟩]
  | walking {job : Job} {items later rest} (staged : job.status = JobStatus.staged.name)
      (tried : attempted later ++ rest = walk overrides items)
      (written : ∀ event ∈ later, ¬ IsFailedWrite event) : Reached jobId overrides (.walking items rest)
      (⟨.store (.getJob jobId), .ok (some job)⟩ :: ⟨.store (.listStaged jobId), .ok items⟩ :: later)
  | stopped {job : Job} {items later} (staged : job.status = JobStatus.staged.name)
      (tried : attempted later <+: walk overrides items) (failed : ∃ event ∈ later, IsFailedWrite event) :
      Reached jobId overrides (.stopped items)
      (⟨.store (.getJob jobId), .ok (some job)⟩ :: ⟨.store (.listStaged jobId), .ok items⟩ :: later)

section Reached

variable {course : Course} {events : List Event} {event : Event}

theorem Course.Reached.stays (reached : Reached jobId overrides course events) (underWay : course.IsUnderWay)
    (untried : attempted [event] = []) (written : ¬ IsFailedWrite event) :
    Reached jobId overrides course (events ++ [event]) := by
  cases reached with
  | walking staged tried allWritten =>
      rw [List.cons_append, List.cons_append]
      refine .walking staged ?_ ?_
      · rw [attempted_concat, untried, List.append_nil]
        exact tried
      · rw [List.forall_mem_append, List.forall_mem_singleton]
        exact ⟨allWritten, written⟩
  | stopped staged tried failed =>
      obtain ⟨failure, there, isFailed⟩ := failed
      rw [List.cons_append, List.cons_append]
      refine .stopped staged ?_ ⟨failure, List.mem_append_left _ there, isFailed⟩
      rw [attempted_concat, untried, List.append_nil]
      exact tried
  | fresh | admitted | turnedAway | unheard => cases underWay

theorem Course.Reached.lookedUp (found : Except StoreError (Option Job)) :
    Reached jobId overrides (.lookedUp found) [⟨.store (.getJob jobId), found⟩] := by
  cases found with
  | error fault => exact .turnedAway fun _ impossible => nomatch impossible
  | ok found =>
      cases found with
      | none => exact .turnedAway fun _ impossible => nomatch impossible
      | some job =>
          by_cases staged : job.status = JobStatus.staged.name
          · rw [lookedUp_staged staged]
            exact .admitted staged
          · rw [lookedUp_other staged]
            refine .turnedAway ?_
            rintro _ ⟨⟩
            exact staged

theorem Course.Reached.write (write : PantryWrite) {rest : List Stock}
    (reached : Reached jobId overrides (.walking items (write.stock :: rest)) events)
    (answer : Except StoreError PantryItem) :
    Reached jobId overrides
      (Course.next overrides (.walking items (write.stock :: rest)) (.store (.upsertItem write)) answer)
      (events ++ [⟨.store (.upsertItem write), answer⟩]) := by
  cases reached with
  | @walking job _ later _ staged tried written =>
      have more : attempted (later ++ [⟨.store (.upsertItem write), answer⟩]) =
          attempted later ++ [write.stock] := attempted_concat _ _
      rw [List.cons_append, List.cons_append]
      cases answer with
      | error fault =>
          refine .stopped staged ?_ ⟨_, List.mem_append_right _ (List.mem_singleton_self _), trivial⟩
          rw [more, ← tried]
          exact ⟨rest, by simp⟩
      | ok row =>
          refine .walking staged ?_ ?_
          · rw [more, ← tried]
            simp
          · rw [List.forall_mem_append, List.forall_mem_singleton]
            exact ⟨written, id⟩

theorem Course.Reached.next (reached : Reached jobId overrides course events) {effect : Effect}
    (allowed : course.Allows jobId effect) (answer : effect.Answer) :
    Reached jobId overrides (course.next overrides effect answer) (events ++ [⟨effect, answer⟩]) := by
  cases allowed with
  | lookUp =>
      cases reached
      exact .lookedUp answer
  | list =>
      cases reached with
      | admitted staged =>
          cases answer with
          | ok items => exact .walking staged rfl (List.forall_mem_nil _)
          | error fault => exact .unheard fault
  | write write => exact reached.write write answer
  | publish ids underWay =>
      have stays : course.next overrides (.publish ids) answer = course := by cases course <;> rfl
      rw [stays]
      exact reached.stays underWay rfl id
  | now | newId | move => exact reached.stays trivial rfl id

theorem reached_after (accepts : (committing jobId overrides).Accepts .fresh events) :
    ((committing jobId overrides).after .fresh events).Reached jobId overrides events := by
  apply accepts.keeps
  · exact .fresh
  · exact fun _ _ _ answer allowed reached => reached.next allowed answer

/-- A confirmation that has listed items walks over all of them: only a failed write or refused overrides
keep it from trying every one. -/
structure WalksOver (jobId : Uuid) (overrides : List Override) (items : List StagedItem) (later : List Event)
    (program : Program (Except ServiceError Confirmation)) : Prop where
  tried : attempted later <+: walk overrides items
  confirmed : ∀ done, program = .done (.ok done) → attempted later = walk overrides items ∧
    (∀ event ∈ later, ¬ IsFailedWrite event) ∧ done.skipped = leftOut overrides items
  stopped : ∀ fault, program = .done (.error fault) →
    attempted later = walk overrides items ∨ (∃ event ∈ later, IsFailedWrite event) ∨
      checkOverrides jobId (items.map (·.id)) [] 0 overrides ≠ .ok ()

abbrev OnCourse (jobId : Uuid) (overrides : List Override) (course : Course)
    (program : Program (Except ServiceError Confirmation)) : Prop :=
  program.Follows (committing jobId overrides)
    (Operation.Ends (Course.Succeeds overrides) (Course.Fails jobId overrides)) course

variable {program : Program (Except ServiceError Confirmation)}

theorem WalksOver.of_walking {later : List Event} {rest : List Stock}
    (tried : attempted later ++ rest = walk overrides items)
    (written : ∀ event ∈ later, ¬ IsFailedWrite event)
    (follows : OnCourse jobId overrides (.walking items rest) program) :
    WalksOver jobId overrides items later program := by
  constructor
  case tried => exact ⟨rest, tried⟩
  case confirmed =>
    rintro done rfl
    obtain ⟨_, same, skips⟩ := Program.follows_done.mp follows
    cases same
    exact ⟨(List.append_nil _).symm.trans tried, written, skips⟩
  case stopped =>
    rintro fault rfl
    rcases Program.follows_done.mp follows with rfl | refused
    · exact .inl ((List.append_nil _).symm.trans tried)
    · exact .inr (.inr refused)

theorem Course.Reached.walksOver (reached : Reached jobId overrides course events)
    (follows : OnCourse jobId overrides course program) {job : Job}
    (looked : (⟨.store (.getJob jobId), .ok (some job)⟩ : Event) ∈ events)
    (staged : job.status = JobStatus.staged.name)
    (heard : ∀ fault, (⟨.store (.listStaged jobId), .error fault⟩ : Event) ∉ events) :
    (∃ next, program = .perform (.store (.listStaged jobId)) next) ∨
      ∃ job items later, job.status = JobStatus.staged.name ∧ events =
          ⟨.store (.getJob jobId), .ok (some job)⟩ :: ⟨.store (.listStaged jobId), .ok items⟩ :: later ∧
        WalksOver jobId overrides items later program := by
  cases reached with
  | fresh => cases looked
  | turnedAway other =>
      cases List.mem_singleton.mp looked
      exact absurd staged (other job rfl)
  | unheard fault => exact absurd (List.mem_cons_of_mem _ (List.mem_singleton_self _)) (heard fault)
  | admitted =>
      -- A confirmation does not end between its look-up and its listing.
      left
      cases program with
      | done result =>
          have ended := Program.follows_done.mp follows
          cases result with
          | ok done =>
              obtain ⟨_, impossible, _⟩ := ended
              cases impossible
          | error fault => cases ended
      | perform effect next =>
          cases (Program.follows_perform.mp follows).1 with
          | list => exact ⟨next, rfl⟩
          | publish ids underWay => cases underWay
  | walking staged tried written => exact .inr ⟨_, _, _, staged, rfl, .of_walking tried written follows⟩
  | stopped staged tried failed =>
      refine .inr ⟨_, _, _, staged, rfl, tried, ?_, fun _ _ => .inr (.inl failed)⟩
      rintro done rfl
      obtain ⟨_, impossible, _⟩ := Program.follows_done.mp follows
      cases impossible

end Reached

end Larder.Service
