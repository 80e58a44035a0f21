import Larder.Proofs.Review.Failure
import Larder.Proofs.Service.Protocol

namespace Larder.Interleaving

inductive Stage
  | fresh
  | admitted
  | turnedAway (found : Except StoreError (Option Job))
  | decided (moved : Except StoreError (Option Job))

inductive IsWork : Effect → Prop
  | list (jobId : Uuid) : IsWork (.store (.listStaged jobId))
  | upsert (write : PantryWrite) : IsWork (.store (.upsertItem write))
  | publish (ids : List Uuid) : IsWork (.publish ids)
  | now : IsWork .now
  | newId (kind : IdKind) : IsWork (.newId kind)

namespace Stage

def lookedUp : Except StoreError (Option Job) → Stage
  | .ok (some job) =>
      if job.status = JobStatus.staged.name then .admitted else .turnedAway (.ok (some job))
  | found => .turnedAway found

theorem lookedUp_staged {job : Job} (staged : job.status = JobStatus.staged.name) :
    lookedUp (.ok (some job)) = .admitted := if_pos staged

theorem lookedUp_other {job : Job} (other : job.status ≠ JobStatus.staged.name) :
    lookedUp (.ok (some job)) = .turnedAway (.ok (some job)) := if_neg other

def next : Stage → (effect : Effect) → effect.Answer → Stage
  | .fresh, .store (.getJob _), found => lookedUp found
  | .admitted, .store (.transition _), moved => .decided moved
  | stage, _, _ => stage

theorem next_work {effect : Effect} (isWork : IsWork effect) (answer : effect.Answer) :
    next .admitted effect answer = .admitted := by
  cases isWork <;> rfl

variable (jobId : Uuid)

inductive Allows : Stage → Effect → Prop
  | lookUp : Allows .fresh (.store (.getJob jobId))
  | work {effect : Effect} (isWork : IsWork effect) : Allows .admitted effect
  | decide (time : Timestamp) : Allows .admitted (.store (.transition
      ⟨jobId, JobStatus.staged.name, JobStatus.confirmed.name, none, time⟩))

def Wins (stage : Stage) (_ : Confirmation) : Prop :=
  ∃ job, stage = .decided (.ok (some job))

def overtaken : ServiceError :=
  .conflict ("Job " ++ toString jobId ++ " was confirmed concurrently.")

def Loses : Stage → ServiceError → Prop
  | .fresh, _ | .decided (.ok (some _)), _ => False
  | .turnedAway (.ok (some job)), fault => job.status = JobStatus.confirmed.name →
      fault = Service.notStaged job.id "confirm" .confirmed
  | .decided (.ok none), fault => fault = overtaken jobId
  | .admitted, _ | .turnedAway _, _ | .decided (.error _), _ => True

end Stage

def confirming (jobId : Uuid) : Protocol Stage where
  allows := Stage.Allows jobId
  next := Stage.next

end Larder.Interleaving

namespace Larder.Service
open Interleaving

variable {jobId : Uuid}

theorem loadJob_follows :
    (loadJob jobId).Follows (confirming jobId) (fun stage job => stage = .lookedUp (.ok (some job)))
      (Stage.Loses jobId) .fresh := by
  have looks : (Operation.store (.getJob jobId)).Follows (confirming jobId)
      (fun stage found => stage = .lookedUp (.ok found)) (Stage.Loses jobId) .fresh :=
    Operation.follows_store (.getJob jobId) .lookUp (fun _ => rfl) (fun _ => trivial)
  unfold loadJob
  apply looks.bind
  rintro _ found rfl
  cases found with
  | some job => exact Operation.follows_pure rfl
  | none => exact Operation.follows_throw trivial

theorem requireStaged_follows (job : Job) :
    (requireStaged job "confirm").Follows (confirming jobId) (fun stage _ => stage = .admitted)
      (Stage.Loses jobId) (.lookedUp (.ok (some job))) := by
  unfold requireStaged
  by_cases staged : job.status = JobStatus.staged.name
  · rw [Stage.lookedUp_staged staged, staged, JobStatus.parse_name]
    exact Operation.follows_pure rfl
  · rw [Stage.lookedUp_other staged]
    cases read : JobStatus.parse job.status with
    | error unknown =>
        apply Operation.follows_throw
        intro confirmed
        rw [confirmed, JobStatus.parse_name] at read
        cases read
    | ok status =>
        have other : status ≠ .staged := by
          rintro rfl
          exact staged (JobStatus.name_of_parse read).symm
        dsimp only [Operation.parseStored]
        rw [pure_bind, if_pos other]
        apply Operation.follows_throw
        intro confirmed
        rw [confirmed, JobStatus.parse_name] at read
        cases read
        rfl

theorem work_follows {effect : Effect} (isWork : IsWork effect) {fails : Stage → ServiceError → Prop} :
    (Operation.ask effect).Follows (confirming jobId) (fun stage _ => stage = .admitted) fails
      .admitted :=
  Operation.follows_ask (.work isWork) (Stage.next_work isWork)

theorem workCall_follows {call : StoreCall} (isWork : IsWork (.store call)) :
    (Operation.store call).Follows (confirming jobId) (fun stage _ => stage = .admitted)
      (fun stage _ => stage = .admitted) .admitted :=
  Operation.follows_store call (.work isWork) (fun _ => Stage.next_work isWork _)
    (fun _ => Stage.next_work isWork _)

theorem writeItem_follows (ingredientId : Uuid) (quantity : Float) (unit : String)
    (expiresAt : Option Timestamp) :
    (writeItem ingredientId quantity unit expiresAt).Follows (confirming jobId)
      (fun stage _ => stage = .admitted) (fun stage _ => stage = .admitted) .admitted := by
  unfold writeItem
  apply (work_follows .now).bind
  rintro _ now rfl
  apply (work_follows (.newId _)).bind
  rintro _ id rfl
  exact workCall_follows (.upsert _)

theorem writeAll_follows (overrides : List Override) (items : List StagedItem) :
    (writeAll overrides items).Follows (confirming jobId) (fun stage _ => stage = .admitted)
      .admitted := by
  induction items with
  | nil => exact Program.follows_pure rfl
  | cons item rest ih =>
      unfold writeAll
      dsimp only
      split
      · apply ih.bind
        rintro _ written rfl
        exact Program.follows_pure rfl
      · apply (writeItem_follows _ _ _ none).run.bind
        intro stage result ends
        cases result with
        | error fault => exact Program.follows_pure ends
        | ok row =>
            have still : stage = .admitted := ends
            rw [still]
            apply ih.bind
            rintro _ written rfl
            exact Program.follows_pure rfl

theorem conclude_follows (written : Written) :
    (conclude jobId written).Follows (confirming jobId) Stage.Wins (Stage.Loses jobId) .admitted := by
  have publishes : (publishWritten written.itemIds).Follows (confirming jobId)
      (fun stage _ => stage = .admitted) (Stage.Loses jobId) .admitted := by
    unfold publishWritten publish
    split
    · exact Operation.follows_pure rfl
    · apply (work_follows (.publish _)).bind
      rintro _ _ rfl
      exact Operation.follows_pure rfl
  have moves : (transition jobId .staged .confirmed none).Follows (confirming jobId)
      (fun stage moved => stage = .decided (.ok moved)) (Stage.Loses jobId) .admitted := by
    unfold transition
    rw [if_neg (by decide)]
    apply (work_follows .now).bind
    rintro _ now rfl
    exact Operation.follows_store (.transition _) (.decide now) (fun _ => rfl) (fun _ => trivial)
  unfold conclude
  apply publishes.bind
  rintro _ _ rfl
  split
  · exact Operation.follows_throw trivial
  · apply moves.bind
    rintro _ moved rfl
    cases moved with
    | some job => exact Operation.follows_pure ⟨job, rfl⟩
    | none => exact Operation.follows_throw rfl

theorem confirmJob_follows (overrides : List Override) :
    (confirmJob jobId overrides).Follows (confirming jobId) Stage.Wins (Stage.Loses jobId) .fresh := by
  have lists : (Operation.store (.listStaged jobId)).Follows (confirming jobId)
      (fun stage _ => stage = .admitted) (Stage.Loses jobId) .admitted :=
    Operation.follows_store (.listStaged jobId) (.work (.list jobId)) (fun _ => rfl) (fun _ => trivial)
  unfold confirmJob
  apply loadJob_follows.bind
  rintro _ job rfl
  apply (requireStaged_follows job).bind
  rintro _ _ rfl
  apply lists.bind
  rintro _ items rfl
  have checks : (liftM (checkOverrides jobId (items.map (·.id)) [] 0 overrides) : Operation Unit).Follows
      (confirming jobId) (fun stage _ => stage = .admitted) (Stage.Loses jobId) .admitted := by
    apply Operation.follows_result
    cases checkOverrides jobId (items.map (·.id)) [] 0 overrides with
    | ok _ => rfl
    | error fault => trivial
  apply checks.bind
  rintro _ _ rfl
  apply (Operation.follows_lift (writeAll_follows overrides items)).bind
  rintro _ written rfl
  exact conclude_follows written

end Larder.Service

namespace Larder.Interleaving

inductive Past (jobId : Uuid) : List Event → Stage → Prop
  | fresh : Past jobId [] .fresh
  | turnedAway (found : Except StoreError (Option Job)) :
      Past jobId [⟨.store (.getJob jobId), found⟩] (.turnedAway found)
  | admitted {job : Job} {work : List Event} (staged : job.status = JobStatus.staged.name)
      (works : ∀ event ∈ work, IsWork event.1) :
      Past jobId (⟨.store (.getJob jobId), .ok (some job)⟩ :: work) .admitted
  | decided {job : Job} {work : List Event} (staged : job.status = JobStatus.staged.name)
      (works : ∀ event ∈ work, IsWork event.1) (time : Timestamp)
      (moved : Except StoreError (Option Job)) :
      Past jobId (⟨.store (.getJob jobId), .ok (some job)⟩ :: work ++ [⟨.store (.transition
        ⟨jobId, JobStatus.staged.name, JobStatus.confirmed.name, none, time⟩), moved⟩]) (.decided moved)

theorem Past.next {jobId : Uuid} {events : List Event} {stage : Stage} {effect : Effect}
    (past : Past jobId events stage) (allowed : stage.Allows jobId effect) (answer : effect.Answer) :
    Past jobId (events ++ [⟨effect, answer⟩]) (stage.next effect answer) := by
  cases allowed with
  | lookUp =>
      cases past
      change Past jobId _ (Stage.lookedUp answer)
      cases answer with
      | error fault => exact .turnedAway _
      | ok found =>
          cases found with
          | none => exact .turnedAway _
          | some job =>
              by_cases staged : job.status = JobStatus.staged.name
              · rw [Stage.lookedUp_staged staged]
                exact .admitted staged (List.forall_mem_nil _)
              · rw [Stage.lookedUp_other staged]
                exact .turnedAway _
  | work isWork =>
      rw [Stage.next_work isWork]
      cases past with
      | admitted staged works =>
          refine .admitted staged ?_
          intro event member
          rcases List.mem_append.mp member with old | new
          · exact works event old
          · rw [List.mem_singleton.mp new]
            exact isWork
  | decide time =>
      cases past with
      | admitted staged works => exact .decided staged works time answer

variable {jobId : Uuid} {events : List Event} {stage : Stage}

theorem Past.not_work (past : Past jobId events stage) {event : Event} (member : event ∈ events)
    (idle : ¬ IsWork event.1) :
    (∃ found, event = ⟨.store (.getJob jobId), found⟩ ∧
      (stage = .turnedAway found ∧ events = [event] ∨
        ∃ job, found = .ok (some job) ∧ job.status = JobStatus.staged.name)) ∨
    ∃ time moved, event = ⟨.store (.transition
      ⟨jobId, JobStatus.staged.name, JobStatus.confirmed.name, none, time⟩), moved⟩ ∧
        stage = .decided moved := by
  cases past with
  | fresh => cases member
  | turnedAway found =>
      rw [List.mem_singleton] at member
      exact .inl ⟨found, member, .inl ⟨rfl, by rw [member]⟩⟩
  | admitted staged works =>
      rcases List.mem_cons.mp member with first | later
      · exact .inl ⟨_, first, .inr ⟨_, rfl, staged⟩⟩
      · exact absurd (works event later) idle
  | decided staged works time moved =>
      rcases List.mem_append.mp member with before | last
      · rcases List.mem_cons.mp before with first | later
        · exact .inl ⟨_, first, .inr ⟨_, rfl, staged⟩⟩
        · exact absurd (works event later) idle
      · exact .inr ⟨time, moved, List.mem_singleton.mp last, rfl⟩

theorem Past.lookUp (past : Past jobId events stage) {id : Uuid} {job : Job}
    (other : job.status ≠ JobStatus.staged.name)
    (member : (⟨.store (.getJob id), .ok (some job)⟩ : Event) ∈ events) :
    stage = .turnedAway (.ok (some job)) ∧ events = [⟨.store (.getJob id), .ok (some job)⟩] := by
  rcases past.not_work member (fun isWork => nomatch isWork) with
    ⟨found, same, ended | ⟨_, isFound, staged⟩⟩ | ⟨_, _, same, _⟩
  · cases same
    exact ended
  · cases same
    cases isFound
    exact absurd staged other
  · cases same

theorem Past.transition (past : Past jobId events stage) {t : Transition}
    {moved : Except StoreError (Option Job)}
    (member : (⟨.store (.transition t), moved⟩ : Event) ∈ events) : stage = .decided moved := by
  rcases past.not_work member (fun isWork => nomatch isWork) with ⟨_, same, _⟩ | ⟨_, _, same, decided⟩
  · cases same
  · cases same
    exact decided

theorem Past.moved {moved : Except StoreError (Option Job)} (past : Past jobId events (.decided moved)) :
    ∃ t, (⟨.store (.transition t), moved⟩ : Event) ∈ events := by
  cases past
  exact ⟨_, List.mem_append_right _ (List.mem_singleton_self _)⟩

abbrev Confirms (jobId : Uuid) (stage : Stage) (program : Program (Except ServiceError Confirmation)) :
    Prop :=
  program.Follows (confirming jobId) (Operation.Ends Stage.Wins (Stage.Loses jobId)) stage

theorem Confirms.ended {program : Program (Except ServiceError Confirmation)}
    (confirms : Confirms jobId stage program) (last : ∀ effect, ¬ stage.Allows jobId effect) :
    ∃ result, program = .done result ∧ Operation.Ends Stage.Wins (Stage.Loses jobId) stage result := by
  cases program with
  | done result => exact ⟨result, rfl, Program.follows_done.mp confirms⟩
  | perform effect next => exact absurd (Program.follows_perform.mp confirms).1 (last effect)

theorem Confirms.turnedAway {program : Program (Except ServiceError Confirmation)} {job : Job}
    (confirms : Confirms jobId (.turnedAway (.ok (some job))) program)
    (confirmed : job.status = JobStatus.confirmed.name) :
    program = .done (.error (Service.notStaged job.id "confirm" .confirmed)) := by
  obtain ⟨result, rfl, ends⟩ := confirms.ended (fun _ allowed => nomatch allowed)
  cases result with
  | ok done =>
      obtain ⟨_, impossible⟩ := ends
      cases impossible
  | error fault =>
      have isNotStaged : fault = Service.notStaged job.id "confirm" .confirmed := ends confirmed
      rw [isNotStaged]

theorem Confirms.overtaken {program : Program (Except ServiceError Confirmation)}
    (confirms : Confirms jobId (.decided (.ok none)) program) :
    program = .done (.error (Stage.overtaken jobId)) := by
  obtain ⟨result, rfl, ends⟩ := confirms.ended (fun _ allowed => nomatch allowed)
  cases result with
  | ok done =>
      obtain ⟨_, impossible⟩ := ends
      cases impossible
  | error fault =>
      have isOvertaken : fault = Stage.overtaken jobId := ends
      rw [isOvertaken]

end Larder.Interleaving
