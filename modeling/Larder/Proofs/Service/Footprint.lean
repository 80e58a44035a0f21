import Larder.Proofs.Review.Failure
import Larder.Proofs.Service.Uses

/-!
# What failures leave behind

An effect touches the world if its answer says that rows have changed, if it publishes, or if it starts
processing. An operation `FailsClean` if it has touched nothing by the time it fails. All operations do,
except for a confirmation that is stopped by a failed write (`confirmJob_clean_or_writeFault`).
-/

namespace Larder

variable {α β : Type}

def Effect.starts : Effect → List Uuid
  | .process jobId _ => [jobId]
  | _ => []

def started (events : List Event) : List Uuid :=
  events.flatMap (·.1.starts)

theorem started_next (around : Surroundings) (s : Situation) (effect : Effect) :
    started (s.next around effect).past = started s.past ++ effect.starts := by
  simp [started, Situation.next]

theorem Program.Uses.flatMap_past {view : Effect → List β} {program : Program α}
    (uses : program.Uses fun effect => view effect = []) (around : Surroundings) (s : Situation) :
    (program.run around s).2.past.flatMap (fun event => view event.1) =
      s.past.flatMap fun event => view event.1 := by
  have step (_ : Unit) (now : Situation) (effect : Effect) (unseen : view effect = [])
      (same : now.past.flatMap (fun event => view event.1) = s.past.flatMap fun event => view event.1) :
      (now.next around effect).past.flatMap (fun event => view event.1) =
        s.past.flatMap fun event => view event.1 := by
    simp [Situation.next, same, unseen]
  obtain ⟨_, kept, _⟩ := uses.run_keeps around step rfl
  exact kept

/-- No row has changed since, nothing was published and no processing was started. -/
structure Untouched (before after : Situation) : Prop where
  jobs : after.memory.jobs = before.memory.jobs
  staged : after.memory.staged = before.memory.staged
  pantry : after.memory.pantry = before.memory.pantry
  published : published after.past = published before.past
  started : started after.past = started before.past

theorem Untouched.refl (s : Situation) : Untouched s s := ⟨rfl, rfl, rfl, rfl, rfl⟩

def Touches : (effect : Effect) → effect.Answer → Prop
  | .store .listItems, _ | .store (.getJob _), _ | .store (.listStaged _), _ => False
  | .store (.transition _), .ok none => False
  | .store _, .ok _ => True
  | .publish _, _ | .process _ _, _ => True
  | _, _ => False

theorem not_touches_error (call : StoreCall) (fault : StoreError) :
    ¬ Touches (.store call) (.error fault) := by
  cases call <;> exact id

theorem Memory.rows_of_not_touches {m : Memory} {call : StoreCall}
    (spares : ¬ Touches (.store call) (m.perform call).1) : (m.perform call).2.jobs = m.jobs ∧
      (m.perform call).2.staged = m.staged ∧ (m.perform call).2.pantry = m.pantry := by
  cases call with
  | listItems | getJob | listStaged => exact ⟨rfl, rfl, rfl⟩
  | upsertItem w =>
      cases answer : (m.upsertItem w).1 with
      | ok row => exact absurd (by simp [perform, answer, Touches]) spares
      | error fault => exact ⟨write_jobs m w, write_staged m w, write_pantry_of_error answer⟩
  | deleteAllItems => exact absurd trivial spares
  | deleteItem id =>
      by_cases there : m.pantry.any (·.id == id) = true
      · exact absurd (by simp [perform, deleteItem, there, Touches]) spares
      · simp [perform, deleteItem, there]
  | insertJob job =>
      rcases insertJob_cases m job with ⟨_, done⟩ | ⟨_, done, _⟩
      · simp [perform, done]
      · exact absurd (by simp [perform, done, Touches]) spares
  | transition t =>
      rcases transition_cases m t with ⟨_, _, _, _, done, _⟩ | ⟨done, _⟩
      · exact absurd (by simp [perform, done, Touches]) spares
      · simp [perform, done]
  | insertStaged item =>
      by_cases fails : m.failStagedInserts = true
      · simp [perform, insertStaged, fails]
      · by_cases orphan : (m.job? item.jobId).isNone = true
        · simp [perform, insertStaged, fails, orphan]
        · exact absurd (by simp [perform, insertStaged, fails, orphan, Touches]) spares
  | updateStaged item =>
      cases found : m.staged.find? (sameStaged item) with
      | some stored => exact absurd (by simp [perform, updateStaged, found, Touches]) spares
      | none => simp [perform, updateStaged, found]

theorem Untouched.next {around : Surroundings} {before s : Situation} (same : Untouched before s)
    {effect : Effect} (spares : ¬ Touches effect (s.answer around effect)) :
    Untouched before (s.next around effect) := by
  have quiet : effect.batches = [] := by
    cases effect <;> first | rfl | exact absurd trivial spares
  have idle : effect.starts = [] := by
    cases effect <;> first | rfl | exact absurd trivial spares
  have rows : (s.memoryAfter effect).jobs = s.memory.jobs ∧ (s.memoryAfter effect).staged = s.memory.staged ∧
      (s.memoryAfter effect).pantry = s.memory.pantry := by
    cases effect with
    | store call => exact Memory.rows_of_not_touches spares
    | _ => exact ⟨rfl, rfl, rfl⟩
  obtain ⟨jobs, staged, pantry⟩ := rows
  constructor
  · rw [Situation.next_memory, jobs, same.jobs]
  · rw [Situation.next_memory, staged, same.staged]
  · rw [Situation.next_memory, pantry, same.pantry]
  · rw [Situation.published_next, quiet, List.append_nil, same.published]
  · rw [started_next, idle, List.append_nil, same.started]

def touching : Protocol Prop where
  allows _ _ := True
  next touched effect answer := touched ∨ Touches effect answer

namespace Operation

def FailsClean (operation : Operation α) : Prop :=
  operation.Follows touching (fun _ _ => True) (fun touched _ => ¬ touched) False

def GoesThrough (operation : Operation α) : Prop :=
  ∀ touched, operation.Follows touching (fun _ _ => True) (fun _ _ => False) touched

theorem FailsClean.untouched {operation : Operation α} (clean : operation.FailsClean)
    {around : Surroundings} {s s' : Situation} {fault : ServiceError}
    (fails : operation.outcome around s = (.error fault, s')) : Untouched s s' := by
  have step (touched : Prop) (now : Situation) (effect : Effect) (_ : touching.allows touched effect)
      (same : ¬ touched → Untouched s now)
      (spares : ¬ touching.next touched effect (now.answer around effect)) :
      Untouched s (now.next around effect) :=
    (same fun earlier => spares (.inl earlier)).next fun later => spares (.inr later)
  obtain ⟨touched, kept, ended⟩ := clean.run.run_keeps around step fun _ => Untouched.refl s
  unfold outcome at fails
  rw [fails] at kept ended
  exact kept ended

def IsIdle (effect : Effect) : Prop :=
  ∀ answer, ¬ Touches effect answer

theorem failsClean_throw (fault : ServiceError) : (throw fault : Operation α).FailsClean :=
  follows_throw id

theorem Uses.idle_bind {operation : Operation α} (uses : operation.Uses IsIdle) {follow : α → Operation β}
    (later : ∀ value, (follow value).FailsClean) : (operation >>= follow).FailsClean := by
  have stays (effect : Effect) (answer : effect.Answer) (idle : IsIdle effect) :
      touching.next False effect answer = False := by simp [touching, idle answer]
  have idles : operation.Follows touching (fun touched _ => touched = False) (fun touched _ => ¬ touched)
      False := (uses.follows (fun _ _ => trivial) stays).mono (fun _ _ same => same) fun _ _ same => same ▸ id
  apply Follows.bind idles
  rintro _ value rfl
  exact later value

theorem Uses.failsClean {operation : Operation α} (uses : operation.Uses IsIdle) :
    operation.FailsClean := by
  rw [← bind_pure operation]
  apply uses.idle_bind
  exact fun _ => follows_pure trivial

theorem FailsClean.bind {operation : Operation α} (clean : operation.FailsClean) {follow : α → Operation β}
    (later : ∀ value, (follow value).GoesThrough) : (operation >>= follow).FailsClean := by
  apply Follows.bind clean
  intro touched value _
  exact (later value touched).mono (fun _ _ _ => trivial) fun _ _ never => never.elim

theorem GoesThrough.bind {operation : Operation α} (goes : operation.GoesThrough) {follow : α → Operation β}
    (later : ∀ value, (follow value).GoesThrough) : (operation >>= follow).GoesThrough := by
  intro touched
  apply Follows.bind (goes touched)
  exact fun touched value _ => later value touched

theorem goesThrough_pure (value : α) : (pure value : Operation α).GoesThrough :=
  fun _ => follows_pure trivial

theorem goesThrough_ask (effect : Effect) : (ask effect).GoesThrough :=
  fun _ => follows_ask trivial fun _ => trivial

theorem failsClean_store (call : StoreCall) : (store call).FailsClean := by
  apply follows_store call trivial
  · exact fun _ => trivial
  · rintro fault (never | touches)
    · exact never
    · exact not_touches_error call fault touches

end Operation

namespace Service
open Operation

theorem idle_of_reads {jobId : Uuid} {effect : Effect} (reads : Reads jobId effect) : IsIdle effect := by
  cases reads <;> exact fun _ => id

theorem idle_of_resolves {effect : Effect} (resolves : Resolves effect) : IsIdle effect := by
  cases resolves
  exact fun _ => id

theorem idle_ask_now : (ask .now).Uses IsIdle := uses_ask fun _ => id

theorem idle_ask_newId (kind : IdKind) : (ask (.newId kind)).Uses IsIdle := uses_ask fun _ => id

theorem publish_goesThrough (ids : List Uuid) : (publish ids).GoesThrough := by
  unfold publish
  apply (goesThrough_ask (.publish ids)).bind
  exact fun _ => goesThrough_pure ()

theorem listItems_failsClean : listItems.FailsClean := failsClean_store _

theorem addItem_failsClean (settings : IngestSettings) (addition : Addition) :
    (addItem settings addition).FailsClean := by
  unfold addItem
  apply (uses_check _).idle_bind
  intro _
  apply (uses_check _).idle_bind
  intro _
  apply (uses_liftM _).idle_bind
  intro expiresAt
  apply ((namedIngredient_uses settings addition).mono fun _ => idle_of_resolves).idle_bind
  intro ingredientId
  have writes : (writeItem ingredientId addition.quantity addition.unit expiresAt).FailsClean := by
    unfold writeItem
    apply idle_ask_now.idle_bind
    intro now
    apply (idle_ask_newId .pantryItem).idle_bind
    exact fun id => failsClean_store _
  apply writes.bind
  intro row
  apply (publish_goesThrough [row.id]).bind
  exact fun _ => goesThrough_pure row

theorem deleteItem_failsClean (id : Uuid) : (deleteItem id).FailsClean := by
  unfold deleteItem
  apply (failsClean_store _).bind
  exact fun _ => publish_goesThrough [id]

theorem reset_failsClean : reset.FailsClean := by
  unfold reset
  apply (failsClean_store _).bind
  intro removed
  apply (publish_goesThrough []).bind
  exact fun _ => goesThrough_pure removed

theorem submit_failsClean (submission : Submission) : (submit submission).FailsClean := by
  have creates : (createJob submission).FailsClean := by
    unfold createJob
    apply (uses_liftM _).idle_bind
    intro kind
    split
    · exact failsClean_throw _
    · apply idle_ask_now.idle_bind
      intro now
      apply (idle_ask_newId .job).idle_bind
      intro id
      apply (failsClean_store _).bind
      exact fun _ => goesThrough_pure _
  unfold submit
  apply creates.bind
  intro job
  apply (goesThrough_ask (.process _ _)).bind
  exact fun _ => goesThrough_pure _

theorem getJob_failsClean (jobId : Uuid) : (getJob jobId).FailsClean :=
  ((getJob_uses jobId).mono fun _ => idle_of_reads).failsClean

theorem editItem_failsClean (jobId stagedItemId : Uuid) (edit : Edit) :
    (editItem jobId stagedItemId edit).FailsClean := by
  have lists : (store (.listStaged jobId)).Uses IsIdle := uses_store fun _ => id
  unfold editItem
  apply (uses_check _).idle_bind
  intro _
  apply ((loadJob_uses jobId).mono fun _ => idle_of_reads).idle_bind
  intro job
  apply (requireStaged_uses job "edit").idle_bind
  intro _
  apply lists.idle_bind
  intro items
  split
  · exact failsClean_throw _
  · apply idle_ask_now.idle_bind
    exact fun now => failsClean_store _

/-! ## Confirmations -/

def StartsNothing (effect : Effect) : Prop :=
  effect.starts = []

theorem confirmJob_startsNothing (jobId : Uuid) (overrides : List Override) :
    (confirmJob jobId overrides).Uses StartsNothing := by
  have loads : (loadJob jobId).Uses StartsNothing :=
    (loadJob_uses jobId).mono fun _ reads => by cases reads <;> rfl
  have lists : (store (.listStaged jobId)).Uses StartsNothing := uses_store rfl
  have writes (items : List StagedItem) : (writeAll overrides items).Uses StartsNothing :=
    (writeAll_uses overrides items).mono fun _ writes => by cases writes <;> rfl
  have moves : (transition jobId .staged .confirmed none).Uses StartsNothing :=
    (transition_uses jobId .staged .confirmed none).mono fun _ moves => by cases moves <;> rfl
  have publishes (ids : List Uuid) : (publishWritten ids).Uses StartsNothing := by
    unfold publishWritten publish
    split
    · exact uses_pure ()
    · have asks : (ask (.publish ids)).Uses StartsNothing := uses_ask rfl
      apply asks.bind
      exact fun _ => uses_pure ()
  unfold confirmJob
  apply loads.bind
  intro job
  apply (requireStaged_uses job "confirm").bind
  intro _
  apply lists.bind
  intro items
  apply (uses_liftM _).bind
  intro _
  apply (uses_lift (writes items)).bind
  intro written
  unfold conclude
  apply (publishes written.itemIds).bind
  intro _
  split
  · exact uses_throw _
  · apply moves.bind
    intro moved
    split
    · exact uses_pure _
    · exact uses_throw _

variable {around : Surroundings} {s s' : Situation} {fault : ServiceError}

theorem started_of_uses {program : Program α} (uses : program.Uses StartsNothing) (around : Surroundings)
    (s : Situation) : started (program.run around s).2.past = started s.past :=
  uses.flatMap_past around s

theorem confirmJob_clean_or_writeFault {jobId : Uuid} {overrides : List Override}
    (fails : (confirmJob jobId overrides).outcome around s = (.error fault, s')) :
    Untouched s s' ∨ fault = writeFault := by
  have idle := started_of_uses (confirmJob_startsNothing jobId overrides).run around s
  change started ((confirmJob jobId overrides).outcome around s).2.past = _ at idle
  -- A refusal comes before the first write. Once accepted, only a write can fail.
  rcases refused_or_accepted s.memory jobId overrides with
    ⟨reason, refused⟩ | ⟨job, present, staged, accepted⟩
  · obtain ⟨left, ends, sameMemory, quiet⟩ := outcome_confirmJob_refused around refused
    rw [fails] at ends idle
    cases ends
    exact .inl ⟨by rw [sameMemory], by rw [sameMemory], by rw [sameMemory], quiet, idle⟩
  · exact .inr (stopped_of_error around present staged accepted fails).1

end Service

end Larder
