import Larder.Proofs.Service.Requests
import Larder.Proofs.Service.Twins
import Larder.Proofs.Store.Likeness

namespace Larder.Service

variable {name : Uuid → Uuid}

inductive AsksAlike (name : Uuid → Uuid) : Effect → Effect → Prop
  | extract (text : String) (budget : Nat) : AsksAlike name (.extract text budget) (.extract text budget)
  | resolve (text : String) (budget : Nat) : AsksAlike name (.resolve text budget) (.resolve text budget)
  | now : AsksAlike name .now .now
  | newId (kind : IdKind) : AsksAlike name (.newId kind) (.newId kind)
  | insert {item item' : StagedItem} (same : item.called name = item'.called name) :
      AsksAlike name (.store (.insertStaged item)) (.store (.insertStaged item'))
  | move (t : Transition) (time : Timestamp) :
      AsksAlike name (.store (.transition t)) (.store (.transition { t with time }))

inductive HearsAlike (name : Uuid → Uuid) : Event → Event → Prop
  | extract (text : String) (budget : Nat) (answer : Awaited (List Candidate)) :
      HearsAlike name ⟨.extract text budget, answer⟩ ⟨.extract text budget, answer⟩
  | resolve (text : String) (budget : Nat) (answer : Awaited Resolution) :
      HearsAlike name ⟨.resolve text budget, answer⟩ ⟨.resolve text budget, answer⟩
  | now (time time' : Timestamp) : HearsAlike name ⟨.now, time⟩ ⟨.now, time'⟩
  | newId (kind : IdKind) {id id' : Uuid} (same : name id = name id') :
      HearsAlike name ⟨.newId kind, id⟩ ⟨.newId kind, id'⟩
  | insert (item item' : StagedItem) (answer : Except StoreError Unit) :
      HearsAlike name ⟨.store (.insertStaged item), answer⟩ ⟨.store (.insertStaged item'), answer⟩
  | move (t t' : Transition) {moved moved' : Except StoreError (Option Job)}
      (same : moved.map Option.isSome = moved'.map Option.isSome) :
      HearsAlike name ⟨.store (.transition t), moved⟩ ⟨.store (.transition t'), moved'⟩

/-- Alike apart from times and from ids with the same name. -/
def upTo (name : Uuid → Uuid) : Likeness :=
  ⟨AsksAlike name, HearsAlike name⟩

/-! ## Along the program -/

theorem extractCandidates_twins (settings : IngestSettings) (text : String) :
    (extractCandidates settings text).Twins (upTo name) Eq (extractCandidates settings text) := by
  have asks : (Operation.ask (.extract text settings.extractTimeout)).Twins (upTo name) Eq
      (Operation.ask (.extract text settings.extractTimeout)) := by
    refine Operation.twins_ask _ _ (.extract _ _) ?_
    rintro answer answer' ⟨⟩
    rfl
  unfold extractCandidates
  apply asks.bind
  rintro answer _ rfl
  split
  · exact Operation.twins_pure rfl
  · exact Operation.twins_throw rfl
  · exact Operation.twins_throw rfl

theorem resolveName_twins (settings : IngestSettings) (text : String) :
    (resolveName settings text).Twins (upTo name) Eq (resolveName settings text) := by
  apply (resolveName_uses settings text).twins
  · rintro _ ⟨⟩
    exact .resolve _ _
  · rintro _ _ _ ⟨⟩ ⟨⟩
    rfl

theorem candidateIngredient_twins (settings : IngestSettings) (candidate : Candidate) :
    (candidateIngredient settings candidate).Twins (upTo name) Eq (candidateIngredient settings candidate) := by
  unfold candidateIngredient
  dsimp only
  split
  · exact Program.twins_pure rfl
  · apply (resolveName_twins settings _).run.bind
    intro result result' both
    obtain rfl := bothEnd_eq both
    split <;> exact Program.twins_pure rfl

theorem stageCandidate_twins (settings : IngestSettings) (jobId : Uuid) (candidate : Candidate) :
    (stageCandidate settings jobId candidate).Twins (upTo name)
      (fun item item' => item.called name = item'.called name)
      (stageCandidate settings jobId candidate) := by
  have reads : (Program.ask .now).Twins (upTo name) (fun _ _ => True) (Program.ask .now) :=
    Program.twins_ask .now .now .now fun _ _ _ => trivial
  have makes : (Program.ask (.newId .stagedItem)).Twins (upTo name)
      (fun (id id' : Uuid) => name id = name id') (Program.ask (.newId .stagedItem)) := by
    refine Program.twins_ask (.newId _) (.newId _) (.newId _) ?_
    rintro id id' ⟨⟩
    assumption
  unfold stageCandidate
  apply (candidateIngredient_twins settings candidate).bind
  rintro ingredient _ rfl
  apply reads.bind
  intro now now' _
  apply makes.bind
  intro id id' same
  apply Program.twins_pure
  simp only [stagedItem, StagedItem.called, same]

theorem stageAll_twins (settings : IngestSettings) (jobId : Uuid) (candidates : List Candidate) :
    (stageAll settings jobId candidates).Twins (upTo name) Eq (stageAll settings jobId candidates) := by
  induction candidates with
  | nil => exact Operation.twins_pure rfl
  | cons candidate rest ih =>
      unfold stageAll
      apply (Operation.twins_lift (stageCandidate_twins settings jobId candidate)).bind
      intro item item' same
      have inserts : (Operation.store (.insertStaged item)).Twins (upTo name) Eq
          (Operation.store (.insertStaged item')) := by
        refine Operation.twins_store (.insertStaged item) (.insertStaged item') (.insert same) ?_
        rintro answer answer' ⟨⟩
        cases answer <;> rfl
      apply inserts.bind
      exact fun _ _ _ => ih

theorem transition_twins (jobId : Uuid) (source target : JobStatus) (error : Option String) :
    (transition jobId source target error).Twins (upTo name)
      (fun moved moved' => moved.isSome = moved'.isSome) (transition jobId source target error) := by
  have reads : (Operation.ask .now).Twins (upTo name) (fun _ _ => True) (Operation.ask .now) :=
    Operation.twins_ask .now .now .now fun _ _ _ => trivial
  unfold transition
  split
  · exact Operation.twins_throw rfl
  · apply reads.bind
    intro now now' _
    refine Operation.twins_store (.transition _) (.transition _) (.move _ now') ?_
    rintro moved moved' ⟨⟩
    rename_i same
    cases moved <;> cases moved'
    · exact congrArg ServiceError.ofStore (Except.error.inj same)
    · cases same
    · cases same
    · exact Except.ok.inj same

theorem processJob_twins (settings : IngestSettings) (jobId : Uuid) (text : String) :
    (processJob settings jobId text).Twins (upTo name) Eq (processJob settings jobId text) := by
  unfold processJob
  apply (extractCandidates_twins settings text).bind
  rintro candidates _ rfl
  apply (stageAll_twins settings jobId candidates).bind
  intro _ _ _
  apply (transition_twins jobId .pending .staged none).bind
  intro moved moved' same
  cases moved <;> cases moved'
  · exact Operation.twins_throw rfl
  · cases same
  · cases same
  · exact Operation.twins_pure rfl

theorem settle_twins (jobId : Uuid) (outcome : Except ServiceError Nat) :
    (settle jobId outcome).Twins (upTo name) Eq (settle jobId outcome) := by
  unfold settle
  split
  · exact Program.twins_pure rfl
  · apply (transition_twins jobId .pending .failed _).run.bind
    exact fun _ _ _ => Program.twins_pure rfl

theorem processWithin_twins (settings : IngestSettings) (jobId : Uuid) (text : String) (effects : Nat) :
    (processWithin settings jobId text effects).Twins (upTo name) Eq
      (processWithin settings jobId text effects) := by
  unfold processWithin
  apply ((processJob_twins settings jobId text).run.within effects).bind
  intro result result' related
  have same : result = result' := by
    cases related with
    | none => rfl
    | some both => exact congrArg some (bothEnd_eq both)
  rw [same]
  exact settle_twins jobId _

end Larder.Service
