import Larder.Proofs.Service.Requests
import Larder.Proofs.Service.Uses

namespace Larder.Service

def insertedItems (events : List Event) : List StagedItem :=
  events.flatMap fun
    | ⟨.store (.insertStaged item), .ok _⟩ => [item]
    | _ => []

theorem insertedItems_concat (events : List Event) (event : Event) :
    insertedItems (events ++ [event]) = insertedItems events ++ insertedItems [event] :=
  List.flatMap_append

variable (settings : IngestSettings) (jobId : Uuid) (text : String)

namespace Progress

def entries : Progress → List (Candidate × StagedItem)
  | .begun => []
  | .staging stored _ | .staged stored | .stopped stored => stored

def items (progress : Progress) : List StagedItem :=
  progress.entries.map (·.2)

def handle : Progress → (effect : Effect) → effect.Answer → Progress
  | progress, .store (.transition t), answer =>
      if t.target = JobStatus.failed.name then progress else progress.next (.store (.transition t)) answer
  | progress, effect, answer => progress.next effect answer

theorem handle_eq_next {progress : Progress} {effect : Effect} (answer : effect.Answer)
    (allowed : progress.Allows settings jobId text effect) :
    progress.handle effect answer = progress.next effect answer := by
  cases allowed with
  | move time => rfl
  | _ => rfl

theorem handle_settling {progress : Progress} {effect : Effect} (answer : effect.Answer)
    (settles : Moves jobId .pending .failed effect) : progress.handle effect answer = progress := by
  cases settles with
  | now => cases progress <;> rfl
  | move error time => cases progress <;> rfl

end Progress

def handling : Protocol Progress where
  allows progress effect := progress.Allows settings jobId text effect ∨
    ¬ progress.IsStaged ∧ Moves jobId .pending .failed effect
  next := Progress.handle

variable {settings jobId text}

theorem handling_staged (entries : List (Candidate × StagedItem)) (effect : Effect) :
    ¬ (handling settings jobId text).allows (.staged entries) effect := by
  rintro (⟨⟨⟩⟩ | ⟨unstaged, _⟩)
  exact unstaged ⟨entries, rfl⟩

theorem processes_of_moves {effect : Effect} (moves : Moves jobId .pending .failed effect) :
    Processes jobId effect := by
  cases moves with
  | now => exact .now
  | move => exact .move rfl rfl

theorem processWithin_uses (effects : Nat) :
    (processWithin settings jobId text effects).Uses (Processes jobId) := by
  unfold processWithin
  apply ((processJob_uses settings jobId text).within effects).bind
  exact fun _ => (settle_uses jobId _).mono fun _ => processes_of_moves

theorem settle_lasts (outcome : Except ServiceError Nat) : (settle jobId outcome).Lasts 2 := by
  cases outcome with
  | ok count => trivial
  | error fault =>
      intro now moved
      cases moved <;> trivial

theorem processWithin_lasts (effects : Nat) :
    (processWithin settings jobId text effects).Lasts (effects + 2) := by
  unfold processWithin
  apply (Program.lasts_within effects _).bind
  exact fun _ => settle_lasts _

theorem settle_follows (fault : ServiceError) {progress : Progress} (unstaged : ¬ progress.IsStaged) :
    (settle jobId (.error fault)).Follows (handling settings jobId text) (fun _ _ => True) progress := by
  have settles : (settle jobId (.error fault)).Follows (handling settings jobId text)
      (fun after _ => after = progress) progress := by
    apply (settle_uses jobId (.error fault)).follows
    · exact fun _ moves => .inr ⟨unstaged, moves⟩
    · exact fun _ answer moves => Progress.handle_settling jobId answer moves
  exact settles.mono fun _ _ _ => trivial

theorem processWithin_follows (effects : Nat) :
    (processWithin settings jobId text effects).Follows (handling settings jobId text) (fun _ _ => True)
      .begun := by
  have handled : ((processJob settings jobId text).run.within effects).Follows
      (handling settings jobId text)
      (fun progress result => (∃ count, result = some (.ok count)) ∨ ¬ progress.IsStaged) .begun := by
    apply (processJob_follows.run.within effects).map id
    · exact fun _ _ => .inl
    · exact fun _ _ answer => Progress.handle_eq_next settings jobId text answer
    · intro progress result ends
      cases result with
      | none =>
          -- Cut off, and so before an effect that was allowed.
          obtain ⟨effect, allowed⟩ := ends
          right
          rintro ⟨stored, rfl⟩
          cases allowed
      | some result =>
          cases result with
          | ok count => exact .inl ⟨count, rfl⟩
          | error fault =>
              obtain ⟨stored, rfl⟩ := ends
              exact .inr fun ⟨_, impossible⟩ => nomatch impossible
  unfold processWithin
  apply handled.bind
  rintro progress result (⟨count, rfl⟩ | unstaged)
  · exact Program.follows_pure trivial
  · cases result with
    | none => exact settle_follows _ unstaged
    | some result =>
        cases result with
        | ok count => exact Program.follows_pure trivial
        | error fault => exact settle_follows fault unstaged

/-! ## What has happened -/

section Shows

variable (settings jobId text)

def Extracted (candidates : List Candidate) (events : List Event) : Prop :=
  (⟨.extract text settings.extractTimeout, .answered (.ok candidates)⟩ : Event) ∈ events

structure Shows (progress : Progress) (events : List Event) : Prop where
  inserted : progress.items = insertedItems events
  made : ∀ entry ∈ progress.entries, StagedFor settings jobId entry.1 entry.2
  staging : ∀ stored rest, progress = .staging stored rest →
    Extracted settings text (stored.map (·.1) ++ rest) events
  staged : ∀ stored, progress = .staged stored → Extracted settings text (stored.map (·.1)) events

variable {settings jobId text} {progress : Progress} {events : List Event}

theorem Shows.forall₂ (shows : Shows settings jobId text progress events) :
    List.Forall₂ (StagedFor settings jobId) (progress.entries.map (·.1)) (insertedItems events) := by
  rw [← shows.inserted, Progress.items, List.forall₂_map_left_iff, List.forall₂_map_right_iff,
    List.forall₂_same]
  exact shows.made

theorem Extracted.concat {candidates : List Candidate} (extracted : Extracted settings text candidates events)
    (event : Event) : Extracted settings text candidates (events ++ [event]) :=
  List.mem_append_left _ extracted

theorem Shows.stays (shows : Shows settings jobId text progress events) {event : Event}
    (nothing : insertedItems [event] = []) : Shows settings jobId text progress (events ++ [event]) := by
  constructor
  case inserted => rw [shows.inserted, insertedItems_concat, nothing, List.append_nil]
  case made => exact shows.made
  case staging => exact fun stored rest same => (shows.staging stored rest same).concat event
  case staged => exact fun stored same => (shows.staged stored same).concat event

theorem Shows.stops (shows : Shows settings jobId text progress events) {event : Event}
    (nothing : insertedItems [event] = []) :
    Shows settings jobId text (.stopped progress.entries) (events ++ [event]) := by
  constructor
  case inserted => exact (shows.stays nothing).inserted
  case made => exact shows.made
  case staging => exact fun _ _ impossible => nomatch impossible
  case staged => exact fun _ impossible => nomatch impossible

theorem Shows.found (shows : Shows settings jobId text .begun events) (answer : Awaited (List Candidate)) :
    Shows settings jobId text (Progress.found answer)
      (events ++ [⟨.extract text settings.extractTimeout, answer⟩]) := by
  cases answer with
  | timedOut => exact shows.stops rfl
  | answered result =>
      cases result with
      | error fault => exact shows.stops rfl
      | ok candidates =>
          constructor
          case inserted => exact (shows.stays rfl).inserted
          case made => exact shows.made
          case staging =>
            rintro _ _ ⟨⟩
            exact List.mem_append_right _ (List.mem_singleton_self _)
          case staged => exact fun _ impossible => nomatch impossible

variable {stored : List (Candidate × StagedItem)} {candidate : Candidate} {rest : List Candidate}

theorem Shows.insert (shows : Shows settings jobId text (.staging stored (candidate :: rest)) events)
    {item : StagedItem} (made : StagedFor settings jobId candidate item) :
    Shows settings jobId text (.staging (stored ++ [(candidate, item)]) rest)
      (events ++ [⟨.store (.insertStaged item), .ok ()⟩]) := by
  constructor
  case inserted =>
    rw [insertedItems_concat, ← shows.inserted]
    exact List.map_append
  case made =>
    intro entry member
    rcases List.mem_append.mp member with old | new
    · exact shows.made entry old
    · rw [List.mem_singleton.mp new]
      exact made
  case staging =>
    rintro _ _ ⟨⟩
    have same : (stored ++ [(candidate, item)]).map (·.1) ++ rest = stored.map (·.1) ++ candidate :: rest := by
      simp
    rw [same]
    exact (shows.staging stored _ rfl).concat _
  case staged => exact fun _ impossible => nomatch impossible

theorem Shows.move (shows : Shows settings jobId text (.staging stored []) events) {event : Event}
    (nothing : insertedItems [event] = []) :
    Shows settings jobId text (.staged stored) (events ++ [event]) := by
  constructor
  case inserted => exact (shows.stays nothing).inserted
  case made => exact shows.made
  case staging => exact fun _ _ impossible => nomatch impossible
  case staged =>
    rintro _ ⟨⟩
    have found := shows.staging stored [] rfl
    rw [List.append_nil] at found
    exact found.concat event

theorem Shows.next (shows : Shows settings jobId text progress events) {effect : Effect}
    (allowed : (handling settings jobId text).allows progress effect) (answer : effect.Answer) :
    Shows settings jobId text (progress.handle effect answer) (events ++ [⟨effect, answer⟩]) := by
  rcases allowed with allowed | ⟨_, settles⟩
  · rw [Progress.handle_eq_next settings jobId text answer allowed]
    cases allowed with
    | extract => exact shows.found answer
    | resolve | now | newId => exact shows.stays rfl
    | insert made =>
        cases answer with
        | ok _ => exact shows.insert made
        | error fault => exact shows.stops rfl
    | move time =>
        cases answer with
        | error fault => exact shows.stops rfl
        | ok moved =>
            cases moved with
            | some job => exact shows.move rfl
            | none => exact shows.stops rfl
  · rw [Progress.handle_settling jobId answer settles]
    apply shows.stays
    cases settles <;> rfl

theorem shows_after (accepts : (handling settings jobId text).Accepts .begun events) :
    Shows settings jobId text ((handling settings jobId text).after .begun events) events := by
  apply accepts.keeps
  · constructor
    case inserted => rfl
    case made => exact fun _ member => nomatch member
    case staging => exact fun _ _ impossible => nomatch impossible
    case staged => exact fun _ impossible => nomatch impossible
  · exact fun _ _ _ answer allowed shows => shows.next allowed answer

end Shows

end Larder.Service
