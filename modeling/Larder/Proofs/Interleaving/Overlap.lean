import Larder.Proofs.Interleaving.Race
import Larder.Proofs.Interleaving.Traffic
import Larder.Proofs.Review.Course
import Larder.Proofs.Service.Uses

/-!
# Edits that overlap a confirmation

One call confirms a job without overrides while others edit its items. An edit looks the job up, and the
item that it makes from what it has read is stored later, whatever has become of the job by then. So an edit
can be acknowledged and yet be left out of what is committed (`confirmJob_overlapped`).

That takes an edit that looks the job up before the confirmation moves it and stores its item after the
confirmation has listed the items (`Straddles`). Without one, what the confirmation has committed is what the
job shows from then on (`confirmJob_shows`).
-/

namespace Larder

def StagedItem.stock? (item : StagedItem) : Option Stock :=
  item.ingredientId.map fun ingredientId => ⟨ingredientId, item.quantity, item.unit, none⟩

namespace Interleaving
open Service

theorem sublist_of_mem {α : Type} {list : List α} {a b : α} (first : a ∈ list) (second : b ∈ list)
    (differs : a ≠ b) : [a, b].Sublist list ∨ [b, a].Sublist list := by
  obtain ⟨before, after, rfl⟩ := List.append_of_mem first
  rcases List.mem_append.mp second with earlier | later
  · right
    exact (List.singleton_sublist.mpr earlier).append (List.singleton_sublist.mpr List.mem_cons_self)
  · left
    rcases List.mem_cons.mp later with same | later
    · exact absurd same.symm differs
    · exact ((List.singleton_sublist.mpr later).cons_cons a).trans (List.sublist_append_right _ _)

variable {jobId : Uuid} {effect : Effect} {answer : effect.Answer}

/-! ## The effects of a review -/

inductive Reviews (jobId : Uuid) : Effect → Prop
  | confirms {stage : Stage} {effect : Effect} (allowed : stage.Allows jobId effect) : Reviews jobId effect
  | edits {effect : Effect} (edits : Edits jobId effect) : Reviews jobId effect

def IsUpdate : Effect → Prop
  | .store (.updateStaged _) => True
  | _ => False

theorem Stage.Allows.not_update {stage : Stage} (allowed : stage.Allows jobId effect) : ¬ IsUpdate effect := by
  cases allowed with
  | lookUp | decide => exact id
  | work isWork => cases isWork <;> exact id

theorem Reviews.isLawful (reviews : Reviews jobId effect) : IsLawful effect := by
  cases reviews with
  | confirms allowed => exact allowed.isLawful
  | edits edits =>
      cases edits with
      | read reads => cases reads <;> trivial
      | now | update => trivial

theorem jobMove_of_isLawful (isLawful : IsLawful effect) (m : Memory) (id : Uuid) :
    JobMove (m.job? id) ((m.after effect).job? id) := by
  cases effect with
  | store call => exact jobMove_lawful isLawful id
  | _ => exact .stays _

theorem Reviews.staged_eq (reviews : Reviews jobId effect) (unchanged : ¬ IsUpdate effect)
    (m : Memory) : (m.after effect).staged = m.staged := by
  cases reviews with
  | confirms allowed =>
      cases allowed with
      | lookUp => rfl
      | work isWork =>
          cases isWork with
          | upsert write => exact Memory.write_staged m write
          | _ => rfl
      | decide time => exact Memory.transition_staged m _
  | edits edits =>
      cases edits with
      | read reads => cases reads <;> rfl
      | now => rfl
      | update item => exact absurd trivial unchanged

theorem Reviews.isConfirmed (reviews : Reviews jobId effect) {m : Memory}
    (answers : m.MayAnswer effect answer) (win : IsWin ⟨effect, answer⟩) :
    IsConfirmed jobId (m.after effect) := by
  cases reviews with
  | edits edits =>
      cases edits with
      | read reads => cases reads <;> cases win
      | now | update => cases win
  | confirms allowed =>
      cases allowed with
      | lookUp => cases win
      | work isWork => cases isWork <;> cases win
      | decide time =>
          let t : Transition := ⟨jobId, JobStatus.staged.name, JobStatus.confirmed.name, none, time⟩
          have asked : answer = (m.transition t).1 := answers
          change IsConfirmed jobId (m.transition t).2
          rcases Memory.transition_cases m t with ⟨job, after, _, _, done, _, found⟩ | ⟨done, _⟩
          · rw [done]
            exact ⟨_, (found jobId).trans (if_pos rfl), rfl⟩
          · rw [asked, done] at win
            cases win

def FindsConfirmed (jobId : Uuid) : Event → Prop
  | ⟨.store (.getJob id), .ok (some job)⟩ => id = jobId → job.status = JobStatus.confirmed.name
  | _ => True

theorem findsConfirmed_of_isConfirmed {m : Memory} (confirmed : IsConfirmed jobId m)
    (answers : m.MayAnswer effect answer) : FindsConfirmed jobId ⟨effect, answer⟩ := by
  obtain ⟨job, present, isConfirmed⟩ := confirmed
  cases effect with
  | store call =>
      cases call with
      | getJob id =>
          obtain rfl : answer = .ok (m.job? id) := answers
          cases found : m.job? id with
          | none => trivial
          | some other =>
              rintro rfl
              rw [present] at found
              cases found
              exact isConfirmed
      | _ => trivial
  | _ => trivial

def StoresFit : Effect → Prop
  | .store (.insertStaged item) | .store (.updateStaged item) => item.Fit
  | _ => True

theorem Permits.storesFit {held : Option Uuid} (permitted : Permits held effect) : StoresFit effect := by
  cases effect with
  | store call =>
      cases call with
      | insertStaged item => exact permitted.2
      | updateStaged item => exact permitted
      | _ => trivial
  | _ => trivial

theorem Reviews.fit (reviews : Reviews jobId effect) (storesFit : StoresFit effect) {m : Memory}
    (fit : ∀ item ∈ m.staged, item.Fit) : ∀ item ∈ (m.after effect).staged, item.Fit := by
  by_cases update : IsUpdate effect
  · cases effect with
    | store call =>
        cases call with
        | updateStaged item =>
            change ∀ item ∈ (m.updateStaged _).2.staged, item.Fit
            rcases Memory.updateStaged_cases m item with done | done
            · rw [done]
              exact fit
            · rw [done]
              intro changed member
              rcases Memory.mem_replaceFirst member with kept | ⟨old, there, _, rfl⟩
              · exact fit changed kept
              · exact ⟨storesFit.amount, (fit old there).confidence, storesFit.unresolved⟩
        | _ => cases update
    | _ => cases update
  · rw [reviews.staged_eq update]
    exact fit

theorem expects_of_fit {m : Memory} (fit : ∀ item ∈ m.staged, item.Fit)
    (answers : m.MayAnswer effect answer) : Expects effect answer := by
  cases effect with
  | store call =>
      cases call with
      | listStaged id =>
          obtain rfl : answer = .ok (m.listStaged id) := answers
          exact fun item listed => fit item (Memory.mem_listStaged.mp listed).1
      | _ => trivial
  | _ => trivial

/-! ## The staged check of an edit -/

def FoundStaged (jobId : Uuid) (events : List Event) : Prop :=
  ∃ job : Job, job.status = JobStatus.staged.name ∧
    (⟨.store (.getJob jobId), .ok (some job)⟩ : Event) ∈ events

/-- Keeps what has happened, and allows an item to be changed only after the job was found staged. -/
def admitting (jobId : Uuid) : Protocol (List Event) :=
  { Protocol.recording with allows := fun events effect => IsUpdate effect → FoundStaged jobId events }

theorem admitting_after (events : List Event) : (admitting jobId).after [] events = events :=
  Protocol.recording_after [] events

def Records (jobId stagedItemId : Uuid) (edit : Edit) (events : List Event) (row : StagedItem) : Prop :=
  ∃ job items seen now, items.find? (·.id == stagedItemId) = some seen ∧
    events = [⟨.store (.getJob jobId), .ok (some job)⟩, ⟨.store (.listStaged jobId), .ok items⟩, ⟨.now, now⟩,
      ⟨.store (.updateStaged (editedItem seen edit now)), .ok row⟩]

theorem editItem_records {allows : List Event → Effect → Prop} (jobId stagedItemId : Uuid) (edit : Edit)
    (looksUp : allows [] (.store (.getJob jobId)))
    (goesOn : ∀ events effect, FoundStaged jobId events → Edits jobId effect → allows events effect) :
    (editItem jobId stagedItemId edit).Follows { Protocol.recording with allows := allows }
      (Records jobId stagedItemId edit) (fun _ _ => True) [] := by
  have checks : (Operation.check edit.validate).Uses fun _ => False := Operation.uses_check _
  have loads : (loadJob jobId).Follows { Protocol.recording with allows := allows }
      (fun events job => events = [⟨.store (.getJob jobId), .ok (some job)⟩]) (fun _ _ => True) [] :=
    loadJob_looks looksUp (fun _ => rfl) (fun _ => trivial) (fun _ _ => trivial)
  unfold editItem
  apply ((checks.follows (fun _ none => none.elim) (fun _ _ none => none.elim)).mono
    (fun _ _ same => same) (fun _ _ _ => trivial)).bind
  rintro _ _ rfl
  apply loads.bind
  rintro _ job rfl
  apply (requireStaged_admits job "edit" fun _ _ => trivial).bind
  rintro _ _ ⟨rfl, staged⟩
  have allowed (later : List Event) (effect : Effect) (edits : Edits jobId effect) :
      allows (⟨.store (.getJob jobId), .ok (some job)⟩ :: later) effect :=
    goesOn _ effect ⟨job, staged, List.mem_cons_self⟩ edits
  have lists : (Operation.store (.listStaged jobId)).Follows { Protocol.recording with allows := allows }
      (fun events items => events =
        [⟨.store (.getJob jobId), .ok (some job)⟩, ⟨.store (.listStaged jobId), .ok items⟩])
      (fun _ _ => True) [⟨.store (.getJob jobId), .ok (some job)⟩] :=
    Operation.follows_store (.listStaged jobId) (allowed _ _ (.read .items)) (fun _ => rfl) (fun _ => trivial)
  apply lists.bind
  rintro _ items rfl
  split
  · exact Operation.follows_throw trivial
  · rename_i seen found
    have reads : (Operation.ask .now).Follows { Protocol.recording with allows := allows }
        (fun events now => events = [⟨.store (.getJob jobId), .ok (some job)⟩,
          ⟨.store (.listStaged jobId), .ok items⟩, ⟨.now, now⟩])
        (fun _ _ => True)
        [⟨.store (.getJob jobId), .ok (some job)⟩, ⟨.store (.listStaged jobId), .ok items⟩] :=
      Operation.follows_ask (allowed _ _ .now) (fun _ => rfl)
    apply reads.bind
    rintro _ now rfl
    exact Operation.follows_store (.updateStaged _) (allowed _ _ (.update _))
      (fun row => ⟨job, items, seen, now, found, rfl⟩) (fun _ => trivial)

theorem editItem_admitting (jobId stagedItemId : Uuid) (edit : Edit) :
    (editItem jobId stagedItemId edit).Follows (admitting jobId) (fun _ _ => True) (fun _ _ => True)
      [] := by
  have looksUp : (admitting jobId).allows [] (.store (.getJob jobId)) := fun update => nomatch update
  apply (@editItem_records (admitting jobId).allows jobId stagedItemId edit looksUp ?_).mono
  · exact fun _ _ _ => trivial
  · exact fun _ _ _ => trivial
  · exact fun _ _ found _ _ => found

namespace Traffic

variable {settings : IngestSettings} {memory : Memory} {traffic traffic' : Traffic}

def review (settings : IngestSettings) (jobId : Uuid) (memory : Memory) : Traffic :=
  start memory [Request.call settings 0 (.confirm jobId [])]

def IsEditOf (jobId : Uuid) : Request → Prop
  | .edit id _ _ => id = jobId
  | _ => False

abbrev Reviewing (settings : IngestSettings) (jobId : Uuid) : Traffic → Traffic → Prop :=
  Leads settings (IsEditOf jobId)

structure Reviewed (jobId : Uuid) (traffic : Traffic) : Prop where
  fit : ∀ item ∈ traffic.memory.staged, item.Fit
  expected : ∀ entry ∈ traffic.log, Expects entry.2.1 entry.2.2
  confirmed : ∀ entry ∈ traffic.log, IsWin entry.2 → IsConfirmed jobId traffic.memory
  order : traffic.log.Pairwise fun earlier later => IsWin earlier.2 → FindsConfirmed jobId later.2
  listed : ∀ i items, (i, ⟨.store (.listStaged jobId), .ok items⟩) ∈ traffic.log →
    traffic.memory.listStaged jobId = items ∨ ∃ update, IsUpdate update.2.1 ∧
      [(i, ⟨.store (.listStaged jobId), .ok items⟩), update].Sublist traffic.log
  admitted : ∀ i update, (i, update) ∈ traffic.log → IsUpdate update.1 →
    ∃ job, job.status = JobStatus.staged.name ∧
      [(i, ⟨.store (.getJob jobId), .ok (some job)⟩), (i, update)].Sublist traffic.log

theorem listStaged_eq_of_staged {m m' : Memory} (same : m'.staged = m.staged) :
    m'.listStaged jobId = m.listStaged jobId := by
  unfold Memory.listStaged
  rw [same]

theorem review_reviewed (fit : ∀ item ∈ memory.staged, item.Fit) :
    (review settings jobId memory).Reviewed jobId := by
  constructor
  case fit => exact fit
  case order => exact .nil
  case expected | confirmed | listed | admitted => intros; contradiction

theorem Reviewed.advance (reviewed : traffic.Reviewed jobId) (i : Nat) (later : List Call)
    (reviews : Reviews jobId effect) (storesFit : StoresFit effect)
    (admitted : IsUpdate effect → FoundStaged jobId (traffic.pastOf i))
    (answers : traffic.memory.MayAnswer effect answer) :
    Reviewed jobId ⟨traffic.memory.after effect, later, traffic.log ++ [(i, ⟨effect, answer⟩)]⟩ := by
  have last {entry : Nat × Event} (member : entry ∈ traffic.log) :
      [entry, (i, ⟨effect, answer⟩)].Sublist (traffic.log ++ [(i, ⟨effect, answer⟩)]) :=
    List.Sublist.append (List.singleton_sublist.mpr member) (List.Sublist.refl _)
  constructor
  case fit => exact reviews.fit storesFit reviewed.fit
  case expected =>
    rw [List.forall_mem_append, List.forall_mem_singleton]
    exact ⟨reviewed.expected, expects_of_fit reviewed.fit answers⟩
  case confirmed =>
    rw [List.forall_mem_append, List.forall_mem_singleton]
    refine ⟨fun entry member win => ?_, reviews.isConfirmed answers⟩
    exact (reviewed.confirmed entry member win).move (jobMove_of_isLawful reviews.isLawful _ jobId)
  case order =>
    rw [List.pairwise_append]
    refine ⟨reviewed.order, List.pairwise_singleton _ _, ?_⟩
    intro earlier member last isLast win
    rw [List.mem_singleton.mp isLast]
    exact findsConfirmed_of_isConfirmed (reviewed.confirmed earlier member win) answers
  case listed =>
    intro j items member
    rcases List.mem_append.mp member with old | new
    · -- What was listed is so until an item is changed.
      rcases reviewed.listed j items old with same | ⟨update, isUpdate, before⟩
      · by_cases update : IsUpdate effect
        · exact .inr ⟨_, update, last old⟩
        · exact .inl ((listStaged_eq_of_staged (reviews.staged_eq update _)).trans same)
      · exact .inr ⟨update, isUpdate, before.trans (List.sublist_append_left _ _)⟩
    · left
      cases List.mem_singleton.mp new
      exact (Except.ok.inj answers).symm
  case admitted =>
    intro j update member isUpdate
    rcases List.mem_append.mp member with old | new
    · obtain ⟨job, staged, before⟩ := reviewed.admitted j update old isUpdate
      exact ⟨job, staged, before.trans (List.sublist_append_left _ _)⟩
    · cases List.mem_singleton.mp new
      obtain ⟨job, staged, found⟩ := admitted isUpdate
      exact ⟨job, staged, last (mem_pastOf.mp found)⟩

/-! ## The calls -/

section Conducts

variable {σ : Type} {protocol : Protocol σ} {begun : σ} {picks : Request → Prop}
  {ends : (request : Request) → σ → request.Value → Prop}

theorem Reviewing.conducts (leads : Reviewing settings jobId (review settings jobId memory) traffic)
    (confirms : picks (.confirm jobId []) →
      (confirmJob jobId []).run.Follows protocol (ends (.confirm jobId [])) begun)
    (edits : ∀ stagedItemId change, picks (.edit jobId stagedItemId change) →
      (editItem jobId stagedItemId change).run.Follows protocol
        (ends (.edit jobId stagedItemId change)) begun) :
    traffic.Conducts protocol begun picks ends := by
  apply Leads.conducts_one leads confirms
  intro request effects isEdit picked
  cases request with
  | edit id stagedItemId change =>
      obtain rfl : id = jobId := isEdit
      exact edits stagedItemId change picked
  | _ => cases isEdit

end Conducts

theorem Reviewing.reviews (leads : Reviewing settings jobId (review settings jobId memory) traffic) :
    traffic.Conducts (.only (Reviews jobId)) () (fun _ => True) fun _ _ _ => True := by
  apply Reviewing.conducts leads
  · intro _
    apply (Service.confirmJob_follows []).run.map (fun _ => ())
    · exact fun _ _ allowed => .confirms allowed
    · exact fun _ _ _ _ => rfl
    · exact fun _ _ _ => trivial
  · exact fun stagedItemId change _ => (editItem_uses jobId stagedItemId change).run.mono fun _ => .edits

theorem Reviewing.storesFit (leads : Reviewing settings jobId (review settings jobId memory) traffic) :
    traffic.Conducts (.given Expects StoresFit) True (fun _ => True) fun _ _ _ => True := by
  apply Reviewing.conducts leads
  · exact fun _ => (@confirmJob_conforms none jobId []).run.given fun _ _ => Permits.storesFit
  · exact fun stagedItemId change _ =>
      (@editItem_conforms none jobId stagedItemId change).run.given fun _ _ => Permits.storesFit

theorem Reviewing.confirms (leads : Reviewing settings jobId (review settings jobId memory) traffic) :
    traffic.Conducts (confirming jobId) .fresh (· = .confirm jobId []) fun
      | .confirm id _ => Operation.Ends Stage.Wins (Stage.Loses id)
      | _ => fun _ _ => True := by
  apply Reviewing.conducts leads
  · exact fun _ => (Service.confirmJob_follows []).run
  · exact fun _ _ impossible => nomatch impossible

theorem Reviewing.commits (leads : Reviewing settings jobId (review settings jobId memory) traffic) :
    traffic.Conducts (committing jobId []) .fresh (· = .confirm jobId []) fun
      | .confirm _ _ => Operation.Ends (Course.Succeeds []) (Course.Fails jobId [])
      | _ => fun _ _ => True := by
  apply Reviewing.conducts leads
  · exact fun _ => (confirmJob_course jobId []).run
  · exact fun _ _ impossible => nomatch impossible

theorem Reviewing.admits (leads : Reviewing settings jobId (review settings jobId memory) traffic) :
    traffic.Conducts (admitting jobId) [] (IsEditOf jobId) fun _ _ _ => True := by
  apply Reviewing.conducts leads
  · exact fun impossible => nomatch impossible
  · intro stagedItemId change _
    exact (editItem_admitting jobId stagedItemId change).run.mono fun _ _ _ => trivial

/-! ## What the job shows -/

theorem Reviewing.reviewed (fit : ∀ item ∈ memory.staged, item.Fit)
    (leads : Reviewing settings jobId (review settings jobId memory) traffic) :
    traffic.Reviewed jobId := by
  induction leads with
  | refl => exact review_reviewed fit
  | tail leads last ih =>
      cases last with
      | enter admitted effects =>
          exact ⟨ih.fit, ih.expected, ih.confirmed, ih.order, ih.listed, ih.admitted⟩
      | @advance i request effect next answer asks answers =>
          have reviews : Reviews jobId effect := (Reviewing.reviews leads).allowed asks trivial
          have storesFit : StoresFit effect := by
            apply (Reviewing.storesFit leads).allowed asks trivial
            exact Protocol.given_after fun event member => ih.expected _ (mem_pastOf.mp member)
          refine ih.advance i _ reviews storesFit (fun isUpdate => ?_) answers
          by_cases first : i = 0
          · subst first
            obtain rfl : request = .confirm jobId [] := Leads.request_eq leads asks rfl
            exact absurd isUpdate ((Reviewing.confirms leads).allowed asks rfl).not_update
          · have isEdit : IsEditOf jobId request :=
              Leads.admitted leads asks (Nat.pos_of_ne_zero first)
            have found := (Reviewing.admits leads).allowed asks isEdit isUpdate
            rwa [admitting_after] at found

/-- A call looks the job up before its transition and changes an item after its items were listed. -/
def Straddles (jobId : Uuid) (traffic : Traffic) (i : Nat) : Prop :=
  ∃ found items win update, IsWin win ∧ IsUpdate update.1 ∧
    [(i, ⟨.store (.getJob jobId), found⟩), (0, win)].Sublist traffic.log ∧
    [(0, ⟨.store (.listStaged jobId), .ok items⟩), (i, update)].Sublist traffic.log

/-- The job is confirmed, and it shows what the confirmation in the first call has written. -/
structure ShowsWritten (jobId : Uuid) (traffic : Traffic) (done : Confirmation) : Prop where
  confirmed : IsConfirmed jobId traffic.memory
  written : attempted (traffic.pastOf 0) = (traffic.memory.listStaged jobId).filterMap (·.stock?)
  applied : ∀ event ∈ traffic.pastOf 0, ¬ IsFailedWrite event
  skipped : done.skipped = ((traffic.memory.listStaged jobId).filter (·.stock?.isNone)).map (·.id)

theorem past_after {events : List Event} (accepts : (confirming jobId).Accepts .fresh events) :
    Past jobId events ((confirming jobId).after .fresh events) :=
  @Protocol.Accepts.keeps _ _ _ events accepts (fun stage events => Past jobId events stage) .fresh
    fun _ _ _ answer allowed past => past.next allowed answer

theorem Reviewing.exists_win (leads : Reviewing settings jobId (review settings jobId memory) traffic)
    {done : Confirmation} (returns : traffic.Returns 0 (.confirm jobId []) (.ok done)) :
    ∃ win, IsWin win ∧ (0, win) ∈ traffic.log := by
  have past := past_after ((Reviewing.confirms leads) 0 _ returns rfl).1
  obtain ⟨job, decided⟩ := (Reviewing.confirms leads).ended returns rfl
  rw [decided] at past
  obtain ⟨t, member⟩ := past.moved
  exact ⟨⟨.store (.transition t), .ok (some job)⟩, trivial, mem_pastOf.mp member⟩

theorem Reviewed.straddles (reviewed : traffic.Reviewed jobId) {items : List StagedItem} {win : Event}
    {update : Nat × Event} (isWin : IsWin win) (isUpdate : IsUpdate update.2.1) (moved : (0, win) ∈ traffic.log)
    (after : [(0, ⟨.store (.listStaged jobId), .ok items⟩), update].Sublist traffic.log) :
    traffic.Straddles jobId update.1 := by
  have member : update ∈ traffic.log := after.subset (List.mem_cons_of_mem _ (List.mem_singleton_self _))
  obtain ⟨job, staged, before⟩ := reviewed.admitted update.1 update.2 member isUpdate
  have looked := before.subset List.mem_cons_self
  have differs : (update.1, (⟨.store (.getJob jobId), .ok (some job)⟩ : Event)) ≠ (0, win) := by
    intro same
    rw [← (Prod.mk.inj same).2] at isWin
    cases isWin
  rcases sublist_of_mem looked moved differs with lookUpFirst | moveFirst
  · exact ⟨_, items, win, update.2, isWin, isUpdate, lookUpFirst, after⟩
  · -- Looked up after the transition, the job would have been found confirmed.
    have order := List.pairwise_iff_forall_sublist.mp reviewed.order moveFirst
    have confirmed := order isWin rfl
    rw [staged] at confirmed
    exact absurd confirmed (by decide)

theorem stock?_eq_committed? {item : StagedItem} (fit : item.Fit) : committed? [] item = item.stock? := by
  rw [committed?_nil, Text.trim_eq_self fit.amount.trimmed]
  rfl

/-- Unless a call straddles a confirmation that has succeeded, the job shows what has been written, at once and
in every later state. -/
theorem confirmJob_shows (fit : ∀ item ∈ memory.staged, item.Fit)
    (leads : Reviewing settings jobId (review settings jobId memory) traffic) {done : Confirmation}
    (returned : traffic.Returns 0 (.confirm jobId []) (.ok done))
    (later : Reviewing settings jobId traffic traffic') (apart : ∀ i, ¬ traffic'.Straddles jobId i) :
    traffic'.ShowsWritten jobId done := by
  have leads := leads.trans later
  have returns := Leads.returned later returned
  have reviewed := Reviewing.reviewed fit leads
  obtain ⟨win, isWin, moved⟩ := Reviewing.exists_win leads returns
  have accepts := ((Reviewing.commits leads) 0 _ returns rfl).1
  have reached := reached_after accepts
  obtain ⟨items, walked, skipped⟩ := (Reviewing.commits leads).ended returns rfl
  rw [walked] at reached
  generalize past : traffic'.pastOf 0 = events at reached
  cases reached with
  | @walking job _ later _ staged tried written =>
      have inLog : (0, ⟨.store (.listStaged jobId), .ok items⟩) ∈ traffic'.log := by
        rw [← mem_pastOf, past]
        exact List.mem_cons_of_mem _ List.mem_cons_self
      have same : traffic'.memory.listStaged jobId = items := by
        rcases reviewed.listed 0 items inLog with same | ⟨update, isUpdate, after⟩
        · exact same
        · exact absurd (reviewed.straddles isWin isUpdate moved after) (apart update.1)
      have stocks : ∀ item ∈ items, committed? [] item = item.stock? := by
        intro item member
        rw [← same] at member
        exact stock?_eq_committed? (reviewed.fit item (Memory.mem_listStaged.mp member).1)
      constructor
      case confirmed => exact reviewed.confirmed _ moved isWin
      case written =>
        rw [past, same, ← List.filterMap_congr stocks]
        exact (List.append_nil _).symm.trans tried
      case applied =>
        rw [past, List.forall_mem_cons, List.forall_mem_cons]
        exact ⟨id, id, written⟩
      case skipped =>
        rw [same, skipped, leftOut]
        congr 1
        exact List.filter_congr fun item member => congrArg _ (stocks item member)

/-! ## Two edits

A job has one item with 2 litres of milk. One edit makes it 3, and another one would make it 4. -/

namespace Corrections

def job : Job :=
  ⟨⟨1⟩, JobKind.textBlob.name, "milk", JobStatus.staged.name, none, Milk.noon, Milk.noon⟩

def item : StagedItem :=
  stagedItem IngestSettings.default.reviewThreshold job.id ⟨"2 l of milk", "milk", 2.0, "l", 0.9⟩ (some ⟨3⟩)
    ⟨2⟩ Milk.noon

def submitted : Memory := { Memory.empty with jobs := [job], staged := [item] }

def three : Edit := ⟨none, some 3.0, none⟩

def four : Edit := ⟨none, some 4.0, none⟩

def changed : StagedItem := editedItem item three Milk.noon

def write (item : StagedItem) : PantryWrite :=
  ⟨⟨4⟩, ⟨3⟩, item.quantity, Text.trim item.unit, none, Milk.noon⟩

theorem fit : ∀ item ∈ submitted.staged, item.Fit := by
  rw [show submitted.staged = [item] from rfl, List.forall_mem_singleton]
  exact stagedItem_fit _ _ _ _ _ _

theorem listed {m : Memory} (item : StagedItem) (same : m.staged = [item]) (own : item.jobId = job.id) :
    .ok [item] = (m.perform (.listStaged job.id)).1 := by
  rw [← own]
  exact congrArg Except.ok (Memory.listStaged_singleton same).symm

theorem isEditOf (edit : Edit) : IsEditOf job.id (.edit job.id item.id edit) := rfl

def lookUp : Effect := .store (.getJob job.id)

def list : Effect := .store (.listStaged job.id)

def move : Effect :=
  .store (.transition ⟨job.id, JobStatus.staged.name, JobStatus.confirmed.name, none, Milk.noon⟩)

def corrected : Traffic where
  memory := { submitted with staged := [changed] }
  calls := [Request.call .default 0 (.confirm job.id []), ⟨.edit job.id item.id three, .done (.ok changed)⟩]
  log := [(1, ⟨lookUp, .ok (some job)⟩), (1, ⟨list, .ok [item]⟩), (1, ⟨.now, Milk.noon⟩),
    (1, ⟨.store (.updateStaged changed), .ok changed⟩)]

theorem leads_corrected :
    Reviewing .default job.id (review .default job.id submitted) corrected := by
  have run : ∃ traffic, Reviewing .default job.id (review .default job.id submitted) traffic ∧
      traffic = corrected := ⟨_,
    .head (@Step.enter _ _ _ _ (isEditOf three) 0) <|
    .head (@Step.advance _ _ _ 1 _ lookUp _ _ rfl rfl) <|
    .head (@Step.advance _ _ _ 1 _ list _ _ rfl (listed item rfl rfl)) <|
    .head (@Step.advance _ _ _ 1 _ .now _ Milk.noon rfl trivial) <|
    .single (@Step.advance _ _ _ 1 _ (.store (.updateStaged changed)) _ _ rfl rfl), rfl⟩
  obtain ⟨_, leads, rfl⟩ := run
  exact leads

theorem exists_apart : ∃ traffic, Reviewing .default job.id corrected traffic ∧
    traffic.Returns 0 (.confirm job.id []) (.ok ⟨job.id, .confirmed, [⟨4⟩], []⟩) ∧
    traffic.Returns 2 (.edit job.id item.id four) (.error (notStaged job.id "edit" .confirmed)) ∧
    ∃ later, traffic.log = corrected.log ++ later ∧ ∀ entry ∈ later, ¬ IsUpdate entry.2.1 := by
  refine ⟨_,
    .head (@Step.advance _ _ _ 0 _ lookUp _ _ rfl rfl) <|
    .head (@Step.advance _ _ _ 0 _ list _ _ rfl (listed changed rfl rfl)) <|
    .head (@Step.advance _ _ _ 0 _ .now _ Milk.noon rfl trivial) <|
    .head (@Step.advance _ _ _ 0 _ (.newId .pantryItem) _ ⟨4⟩ rfl trivial) <|
    .head (@Step.advance _ _ _ 0 _ (.store (.upsertItem (write changed))) _ _ rfl rfl) <|
    .head (@Step.advance _ _ _ 0 _ (.publish [⟨4⟩]) _ (.ok ()) rfl trivial) <|
    .head (@Step.advance _ _ _ 0 _ .now _ Milk.noon rfl trivial) <|
    .head (@Step.advance _ _ _ 0 _ move _ _ rfl rfl) <|
    .head (@Step.enter _ _ _ _ (isEditOf four) 0) <|
    .single (@Step.advance _ _ _ 2 _ lookUp _ _ rfl rfl), rfl, rfl, ?_⟩
  simp only [List.append_assoc]
  refine ⟨_, rfl, ?_⟩
  simp [IsUpdate, lookUp, list, move]

theorem exists_overlap : ∃ traffic,
    Reviewing .default job.id (review .default job.id submitted) traffic ∧
    traffic.Returns 0 (.confirm job.id []) (.ok ⟨job.id, .confirmed, [⟨4⟩], []⟩) ∧
    traffic.Returns 1 (.edit job.id item.id three) (.ok changed) ∧
    traffic.memory.staged = [changed] ∧ attempted (traffic.pastOf 0) = [(write item).stock] := by
  refine ⟨_,
    .head (@Step.enter _ _ _ _ (isEditOf three) 0) <|
    .head (@Step.advance _ _ _ 1 _ lookUp _ _ rfl rfl) <|
    .head (@Step.advance _ _ _ 1 _ list _ _ rfl (listed item rfl rfl)) <|
    .head (@Step.advance _ _ _ 0 _ lookUp _ _ rfl rfl) <|
    .head (@Step.advance _ _ _ 0 _ list _ _ rfl (listed item rfl rfl)) <|
    .head (@Step.advance _ _ _ 0 _ .now _ Milk.noon rfl trivial) <|
    .head (@Step.advance _ _ _ 0 _ (.newId .pantryItem) _ ⟨4⟩ rfl trivial) <|
    .head (@Step.advance _ _ _ 0 _ (.store (.upsertItem (write item))) _ _ rfl rfl) <|
    .head (@Step.advance _ _ _ 0 _ (.publish [⟨4⟩]) _ (.ok ()) rfl trivial) <|
    .head (@Step.advance _ _ _ 0 _ .now _ Milk.noon rfl trivial) <|
    .head (@Step.advance _ _ _ 0 _ move _ _ rfl rfl) <|
    .head (@Step.advance _ _ _ 1 _ .now _ Milk.noon rfl trivial) <|
    .single (@Step.advance _ _ _ 1 _ (.store (.updateStaged changed)) _ _ rfl rfl),
    ?_, ?_, ?_, ?_⟩ <;> rfl

theorem apart {traffic : Traffic} {later : List (Nat × Event)} (log : traffic.log = corrected.log ++ later)
    (unchanged : ∀ entry ∈ later, ¬ IsUpdate entry.2.1) (i : Nat) : ¬ traffic.Straddles job.id i := by
  rintro ⟨_, items, _, update, _, isUpdate, _, after⟩
  rw [log, List.sublist_append_iff] at after
  obtain ⟨first, last, split, before, behind⟩ := after
  cases first with
  | nil =>
      rw [List.nil_append] at split
      rw [← split] at behind
      exact unchanged _ (behind.subset (List.mem_cons_of_mem _ (List.mem_singleton_self _))) isUpdate
  | cons entry rest =>
      -- All that has happened before is the work of the first edit.
      have others : ∀ entry ∈ corrected.log, entry.1 = 1 := by simp [corrected]
      obtain ⟨rfl, _⟩ := List.cons.inj split
      exact absurd (others _ (before.subset List.mem_cons_self)) Nat.zero_ne_one

end Corrections

theorem confirmJob_shows_corrected : ∃ traffic,
    (∀ item ∈ Corrections.submitted.staged, item.Fit) ∧
    Reviewing .default Corrections.job.id (review .default Corrections.job.id Corrections.submitted) traffic ∧
    (∀ i, ¬ traffic.Straddles Corrections.job.id i) ∧
    traffic.Returns 0 (.confirm Corrections.job.id []) (.ok ⟨Corrections.job.id, .confirmed, [⟨4⟩], []⟩) ∧
    traffic.Returns 2 (.edit Corrections.job.id Corrections.item.id Corrections.four)
      (.error (notStaged Corrections.job.id "edit" .confirmed)) ∧
    traffic.ShowsWritten Corrections.job.id ⟨Corrections.job.id, .confirmed, [⟨4⟩], []⟩ := by
  obtain ⟨traffic, later, confirmed, late, _, log, unchanged⟩ := Corrections.exists_apart
  have leads := Corrections.leads_corrected.trans later
  have apart := Corrections.apart log unchanged
  exact ⟨traffic, Corrections.fit, leads, apart, confirmed, late,
    confirmJob_shows Corrections.fit leads confirmed .refl apart⟩

/-- An edit that straddles a confirmation is acknowledged, and the job shows it, but it was not written. -/
theorem confirmJob_overlapped : ∃ traffic,
    (∀ item ∈ Corrections.submitted.staged, item.Fit) ∧
    Reviewing .default Corrections.job.id (review .default Corrections.job.id Corrections.submitted) traffic ∧
    traffic.Returns 0 (.confirm Corrections.job.id []) (.ok ⟨Corrections.job.id, .confirmed, [⟨4⟩], []⟩) ∧
    traffic.Returns 1 (.edit Corrections.job.id Corrections.item.id Corrections.three)
      (.ok Corrections.changed) ∧
    ¬ traffic.ShowsWritten Corrections.job.id ⟨Corrections.job.id, .confirmed, [⟨4⟩], []⟩ := by
  obtain ⟨traffic, leads, confirmed, edited, staged, tried⟩ := Corrections.exists_overlap
  refine ⟨traffic, Corrections.fit, leads, confirmed, edited, fun shows => ?_⟩
  have listed : traffic.memory.listStaged Corrections.job.id = [Corrections.changed] :=
    Memory.listStaged_singleton staged
  have same := shows.written
  rw [tried, listed] at same
  have quantities : Corrections.item.quantity = Corrections.changed.quantity :=
    congrArg Stock.quantity (List.cons.inj same).1
  exact absurd quantities (by decide)

end Traffic

end Interleaving

end Larder
