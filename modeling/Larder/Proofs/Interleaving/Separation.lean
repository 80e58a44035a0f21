import Larder.Proofs.Intake.Handling
import Larder.Proofs.Intake.Likeness
import Larder.Proofs.Interleaving.Traffic
import Larder.Proofs.Store.Parts

/-!
# Jobs are processed apart

The texts of any number of jobs are processed over one store. The processing of a job is concerned with the
part of the store that belongs to this job, and nothing else changes this part. So it is as if it ran in there
(`runsTo`), and what it comes to does not depend on the others (`processing_apart`).
-/

namespace Larder

/-- From a program and a store, events lead to what is left of the program and to another store. -/
inductive RunsTo {α : Type} (last : Program α) (final : Memory) : Program α → Memory → List Event → Prop
  | here : RunsTo last final last final []
  | step {effect : Effect} {next : effect.Answer → Program α} {answer : effect.Answer} {m : Memory}
      {rest : List Event} (answers : m.MayAnswer effect answer)
      (later : RunsTo last final (next answer) (m.after effect) rest) :
      RunsTo last final (.perform effect next) m (⟨effect, answer⟩ :: rest)

theorem RunsTo.concat {α : Type} {effect : Effect} {next : effect.Answer → Program α} {answer : effect.Answer}
    {program : Program α} {m final : Memory} {events : List Event}
    (runs : RunsTo (.perform effect next) final program m events) (answers : final.MayAnswer effect answer) :
    RunsTo (next answer) (final.after effect) program m (events ++ [⟨effect, answer⟩]) := by
  induction runs with
  | here => exact .step answers .here
  | step first _ ih => exact .step first ih

theorem RunsTo.length_le {α : Type} {last program : Program α} {m final : Memory} {events : List Event}
    {effects : Nat} (runs : RunsTo last final program m events) (lasts : program.Lasts effects) :
    events.length ≤ effects := by
  induction runs generalizing effects with
  | here => exact Nat.zero_le _
  | step answers later ih =>
      cases effects with
      | zero => cases lasts
      | succ effects => exact Nat.succ_le_succ (ih (lasts _))

theorem Memory.exists_answer (m : Memory) (effect : Effect) : ∃ answer, m.MayAnswer effect answer := by
  cases effect with
  | store call => exact ⟨_, rfl⟩
  | extract => exact ⟨.timedOut, trivial⟩
  | resolve => exact ⟨.timedOut, trivial⟩
  | publish => exact ⟨.ok (), trivial⟩
  | process => exact ⟨(), trivial⟩
  | now => exact ⟨.ofSeconds 0, trivial⟩
  | newId => exact ⟨⟨0⟩, trivial⟩

namespace Service

/-! ## What providers answer -/

structure Script where
  extraction : Awaited (List Candidate)
  resolution : Nat → String → Awaited Resolution

/-- The providers answer by a script. The number is that of the next name to be looked up. -/
def Script.Followed (script : Script) : Nat → List Event → Prop
  | _, [] => True
  | number, ⟨.extract _ _, answer⟩ :: rest => answer = script.extraction ∧ script.Followed number rest
  | number, ⟨.resolve name _, answer⟩ :: rest =>
      answer = script.resolution number name ∧ script.Followed (number + 1) rest
  | number, _ :: rest => script.Followed number rest

def madeIds (events : List Event) : List Uuid :=
  events.flatMap fun
    | ⟨.newId _, id⟩ => [id]
    | _ => []

def CalledAlike (name : Uuid → Uuid) (ids ids' : List Uuid) : Prop :=
  ∀ (place : Nat) (id id' : Uuid), ids[place]? = some id → ids'[place]? = some id' → name id = name id'

theorem calledAlike_cons {name : Uuid → Uuid} {id id' : Uuid} {ids ids' : List Uuid}
    (alike : CalledAlike name (id :: ids) (id' :: ids')) : name id = name id' ∧ CalledAlike name ids ids' :=
  ⟨alike 0 id id' rfl rfl, fun place => alike (place + 1)⟩

structure HearSame (name : Uuid → Uuid) (script : Script) (number : Nat) (events events' : List Event) : Prop where
  first : script.Followed number events
  second : script.Followed number events'
  ids : CalledAlike name (madeIds events) (madeIds events')

variable {name : Uuid → Uuid} {script : Script} {number : Nat} {rest rest' : List Event} {m m' : Memory}

theorem AsksAlike.step {effect effect' : Effect} (asks : AsksAlike name effect effect')
    (alike : m.Alike name m') {answer : effect.Answer} {answer' : effect'.Answer}
    (answers : m.MayAnswer effect answer) (answers' : m'.MayAnswer effect' answer')
    (same : HearSame name script number (⟨effect, answer⟩ :: rest) (⟨effect', answer'⟩ :: rest')) :
    HearsAlike name ⟨effect, answer⟩ ⟨effect', answer'⟩ ∧
      (m.after effect).Alike name (m'.after effect') ∧ ∃ number, HearSame name script number rest rest' := by
  obtain ⟨first, second, ids⟩ := same
  cases asks with
  | extract =>
      obtain ⟨rfl, first⟩ := first
      obtain ⟨rfl, second⟩ := second
      exact ⟨.extract _ _ _, alike, number, first, second, ids⟩
  | resolve =>
      obtain ⟨rfl, first⟩ := first
      obtain ⟨rfl, second⟩ := second
      exact ⟨.resolve _ _ _, alike, number + 1, first, second, ids⟩
  | now => exact ⟨.now _ _, alike, number, first, second, ids⟩
  | newId kind =>
      obtain ⟨sameName, ids⟩ := calledAlike_cons ids
      exact ⟨.newId kind sameName, alike, number, first, second, ids⟩
  | @insert item item' sameItem =>
      obtain ⟨sameAnswer, later⟩ := alike.insertStaged sameItem
      have equal : answer = answer' := (answers.trans sameAnswer).trans answers'.symm
      rw [equal]
      exact ⟨.insert _ _ _, later, number, first, second, ids⟩
  | move t time =>
      obtain ⟨sameAnswer, later⟩ := alike.transition t time
      obtain rfl : answer = (m.transition t).1 := answers
      obtain rfl : answer' = (m'.transition { t with time }).1 := answers'
      exact ⟨.move _ _ sameAnswer, later, number, first, second, ids⟩

theorem alike_of_twins {α : Type} {program program' : Program α} {value value' : α} {final final' : Memory}
    {events events' : List Event} (twins : program.Twins (upTo name) Eq program') (alike : m.Alike name m')
    (runs : RunsTo (.done value) final program m events)
    (runs' : RunsTo (.done value') final' program' m' events')
    (same : HearSame name script number events events') : final.Alike name final' := by
  induction runs generalizing program' m' number events' with
  | here =>
      cases runs' with
      | here => exact alike
      | step => exact absurd twins Program.not_twins_done
  | step answers later ih =>
      cases runs' with
      | here => exact absurd twins Program.not_twins_perform
      | step answers' later' =>
          obtain ⟨asks, goesOn⟩ := Program.twins_perform.mp twins
          obtain ⟨hears, still, number, same⟩ := AsksAlike.step asks alike answers answers' same
          exact ih (goesOn _ _ hears) still later' same

/-! ## The part of a job -/

section Processes

variable {jobId : Uuid} {effect : Effect} {answer : effect.Answer}

theorem Processes.concerns {call : StoreCall} (processes : Processes jobId (.store call)) :
    call.Concerns jobId := by
  cases processes with
  | insert own => exact own
  | move own => exact own

theorem Processes.perform_only (processes : Processes jobId effect) (answers : m.MayAnswer effect answer) :
    (m.only jobId).MayAnswer effect answer ∧ (m.only jobId).after effect = (m.after effect).only jobId := by
  cases effect with
  | store call =>
      have own := Memory.perform_only (m := m) processes.concerns
      exact ⟨answers.trans (congrArg Prod.fst own).symm, congrArg Prod.snd own⟩
  | _ => exact ⟨trivial, rfl⟩

theorem Processes.after_only_other {other : Uuid} (processes : Processes other effect)
    (differs : other ≠ jobId) : (m.after effect).only jobId = m.only jobId := by
  cases effect with
  | store call =>
      apply Memory.only_perform_other
      cases processes with
      | insert own => exact fun same => differs (own.symm.trans same)
      | move own => exact fun same => differs (own.symm.trans same)
  | _ => rfl

theorem Processes.pantry (processes : Processes jobId effect) : (m.after effect).pantry = m.pantry := by
  cases processes with
  | @insert item own =>
      change (m.insertStaged item).2.pantry = _
      rcases m.insertStaged_eq item with ⟨fault, done⟩ | done
      · rw [done]
      · rw [done]
        rfl
  | move => exact Memory.transition_pantry m _
  | _ => rfl

end Processes

end Service

namespace Interleaving.Traffic
open Service

/-! ## The traffic -/

/-- A job whose text is to be processed, and the number of effects after which its time is up. -/
structure Errand where
  jobId : Uuid
  text : String
  effects : Nat

abbrev Errand.request (errand : Errand) : Request :=
  .process errand.jobId errand.text

def Errand.call (settings : IngestSettings) (errand : Errand) : Call :=
  Request.call settings errand.effects errand.request

def processing (settings : IngestSettings) (errands : List Errand) (memory : Memory) : Traffic :=
  start memory (errands.map (·.call settings))

abbrev Processing (settings : IngestSettings) : Traffic → Traffic → Prop :=
  Leads settings fun _ => False

variable {settings : IngestSettings} {errands : List Errand} {memory : Memory} {traffic : Traffic}

theorem Processing.uses (leads : Processing settings (processing settings errands memory) traffic)
    (jobId : Uuid) (text : String) :
    traffic.Conducts (.only (Processes jobId)) () (· = .process jobId text) fun _ _ _ => True := by
  apply Leads.conducts leads
  · intro call member picked
    obtain ⟨errand, _, rfl⟩ := List.mem_map.mp member
    cases picked
    exact processWithin_uses errand.effects
  · exact fun _ _ none => none.elim

theorem Processing.errand (leads : Processing settings (processing settings errands memory) traffic) {i : Nat}
    {call : Call} (there : traffic.calls[i]? = some call) :
    ∃ errand, errands[i]? = some errand ∧ call.request = errand.request := by
  obtain ⟨later, split, admitted⟩ := Leads.requests leads
  have none : later = [] := List.eq_nil_iff_forall_not_mem.mpr admitted
  rw [none, List.append_nil, List.map_map] at split
  have named : (traffic.calls.map (·.request))[i]? = some call.request := by
    rw [List.getElem?_map, there]
    rfl
  rw [split, List.getElem?_map, Option.map_eq_some_iff] at named
  obtain ⟨errand, present, same⟩ := named
  exact ⟨errand, present, same.symm⟩

theorem Processing.processes (leads : Processing settings (processing settings errands memory) traffic) {i : Nat}
    {request : Request} {effect : Effect} {next : effect.Answer → Program request.Value}
    (asks : traffic.calls[i]? = some ⟨request, .perform effect next⟩) :
    ∃ errand, errands[i]? = some errand ∧ Processes errand.jobId effect := by
  obtain ⟨errand, there, rfl⟩ := Processing.errand leads asks
  exact ⟨errand, there, (Processing.uses leads errand.jobId errand.text).allowed asks rfl⟩

theorem Processing.pantry (leads : Processing settings (processing settings errands memory) traffic) :
    traffic.memory.pantry = memory.pantry := by
  induction leads with
  | refl => rfl
  | tail leads last ih =>
      cases last with
      | enter admitted => exact admitted.elim
      | advance asks answers =>
          obtain ⟨_, _, processes⟩ := Processing.processes leads asks
          exact processes.pantry.trans ih

theorem Processing.runsTo (distinct : (errands.map (·.jobId)).Nodup)
    (leads : Processing settings (processing settings errands memory) traffic) {i : Nat} {errand : Errand}
    (there : errands[i]? = some errand) : ∃ program, traffic.calls[i]? = some ⟨errand.request, program⟩ ∧
      RunsTo program (traffic.memory.only errand.jobId)
        (processWithin settings errand.jobId errand.text errand.effects) (memory.only errand.jobId)
        (traffic.pastOf i) := by
  induction leads with
  | refl =>
      refine ⟨_, ?_, .here⟩
      change (errands.map (·.call settings))[i]? = _
      rw [List.getElem?_map, there]
      rfl
  | tail leads last ih =>
      obtain ⟨program, present, runs⟩ := ih
      cases last with
      | enter admitted => exact admitted.elim
      | @advance j request effect next answer asks answers =>
          obtain ⟨other, otherThere, processes⟩ := Processing.processes leads asks
          by_cases same : j = i
          · subst same
            -- The part of the job answers as the whole store does.
            cases there.symm.trans otherThere
            cases asks.symm.trans present
            obtain ⟨answersOwn, after⟩ := processes.perform_only answers
            refine ⟨next answer, List.getElem?_set_self (List.getElem?_eq_some_iff.mp asks).1, ?_⟩
            rw [pastOf_advance_self, ← after]
            exact runs.concat answersOwn
          · have differs : other.jobId ≠ errand.jobId := by
              intro sameJob
              have inside : j < (errands.map (·.jobId)).length := by
                rw [List.length_map]
                exact (List.getElem?_eq_some_iff.mp otherThere).1
              apply same
              apply (List.getElem?_inj inside distinct).mp
              rw [List.getElem?_map, List.getElem?_map, otherThere, there, Option.map_some, Option.map_some,
                sameJob]
            refine ⟨program, (List.getElem?_set_ne same).trans present, ?_⟩
            rw [pastOf_advance_other _ _ same, processes.after_only_other differs]
            exact runs

def unnamed : Uuid → Uuid := fun _ => ⟨0⟩

/-- What becomes of a job in two stores is the same, apart from times, and apart from ids unless these are the
same as well. -/
structure SameEnd (jobId : Uuid) (m m' : Memory) (past past' : List Event) : Prop where
  job : (m.job? jobId).map (·.undated) = (m'.job? jobId).map (·.undated)
  items : ((m.listStaged jobId).map (·.called unnamed)).Perm ((m'.listStaged jobId).map (·.called unnamed))
  texts : (m.listStaged jobId).map (·.rawText) = (m'.listStaged jobId).map (·.rawText)
  listing : madeIds past = madeIds past' →
    (m.listStaged jobId).map (·.called id) = (m'.listStaged jobId).map (·.called id)

theorem sameEnd_of_alike {jobId : Uuid} {m m' : Memory} {past past' : List Event}
    (alike : ∀ name, CalledAlike name (madeIds past) (madeIds past') →
      (m.only jobId).Alike name (m'.only jobId)) : SameEnd jobId m m' past past' := by
  have nameless := alike unnamed fun _ _ _ _ _ => rfl
  have job := nameless.job? jobId
  have perm := nameless.listStaged_perm jobId
  have texts := nameless.listStaged_texts jobId
  rw [Memory.job?_only, Memory.job?_only] at job
  rw [Memory.listStaged_only, Memory.listStaged_only] at perm texts
  refine ⟨job, perm, texts, fun sameIds => ?_⟩
  have named := alike id fun place made made' first second => by
    rw [sameIds] at first
    exact Option.some.inj (first.symm.trans second)
  have listing := named.listStaged_eq jobId
  rwa [Memory.listStaged_only, Memory.listStaged_only] at listing

structure Apart (settings : IngestSettings) (errands : List Errand) (memory : Memory) (traffic : Traffic) :
    Prop where
  pantry : traffic.memory.pantry = memory.pantry
  /-- A call goes on until it has ended, and it does not take long. -/
  goesOn : ∀ i errand, errands[i]? = some errand → (traffic.pastOf i).length ≤ errand.effects + 2 ∧
    (traffic.Returns i errand.request () ∨ ∃ later, Step settings (fun _ => False) traffic later ∧
      (later.pastOf i).length = (traffic.pastOf i).length + 1)
  /-- With the same answers from the providers a job would have come to the same end alone. -/
  ends : ∀ i errand (script : Script) alone, errands[i]? = some errand → traffic.Returns i errand.request () →
    Processing settings (processing settings [errand] memory) alone → alone.Returns 0 errand.request () →
    script.Followed 0 (traffic.pastOf i) → script.Followed 0 (alone.pastOf 0) →
      SameEnd errand.jobId traffic.memory alone.memory (traffic.pastOf i) (alone.pastOf 0)

theorem Processing.goesOn (distinct : (errands.map (·.jobId)).Nodup)
    (leads : Processing settings (processing settings errands memory) traffic) {i : Nat} {errand : Errand}
    (there : errands[i]? = some errand) : (traffic.pastOf i).length ≤ errand.effects + 2 ∧
      (traffic.Returns i errand.request () ∨ ∃ later, Step settings (fun _ => False) traffic later ∧
        (later.pastOf i).length = (traffic.pastOf i).length + 1) := by
  obtain ⟨program, present, runs⟩ := Processing.runsTo distinct leads there
  refine ⟨runs.length_le (processWithin_lasts errand.effects), ?_⟩
  cases program with
  | done value => exact .inl present
  | perform effect next =>
      obtain ⟨answer, answers⟩ := traffic.memory.exists_answer effect
      refine .inr ⟨_, .advance present answers, ?_⟩
      rw [pastOf_advance_self, List.length_append]
      rfl

/-- The texts of different jobs are processed over one store, interleaved in any way. Each job comes to the
end to which it would have come alone, and the pantry stays as it is. -/
theorem processing_apart (distinct : (errands.map (·.jobId)).Nodup)
    (leads : Processing settings (processing settings errands memory) traffic) :
    Apart settings errands memory traffic := by
  constructor
  case pantry => exact Processing.pantry leads
  case goesOn => exact fun i errand there => Processing.goesOn distinct leads there
  case ends =>
    intro i errand script alone there ended aloneLeads aloneEnded followed aloneFollowed
    obtain ⟨program, present, runs⟩ := Processing.runsTo distinct leads there
    have single : ([errand].map (·.jobId)).Nodup := List.nodup_singleton _
    obtain ⟨program', present', runs'⟩ := Processing.runsTo single aloneLeads (i := 0) rfl
    cases ended.symm.trans present
    cases aloneEnded.symm.trans present'
    apply sameEnd_of_alike
    intro name calledAlike
    exact alike_of_twins (processWithin_twins settings errand.jobId errand.text errand.effects) (.refl _)
      runs runs' ⟨followed, aloneFollowed, calledAlike⟩

/-! ## Two jobs

A candidate of the first job is looked up and staged while the extraction for the second job times out. -/

namespace Pair

def milk : Job :=
  ⟨⟨1⟩, JobKind.textBlob.name, "milk", JobStatus.pending.name, none, Milk.noon, Milk.noon⟩

def bread : Job := { milk with id := ⟨2⟩, rawInput := "bread" }

def submitted : Memory := { Memory.empty with jobs := [milk, bread] }

def both : List Errand := [⟨milk.id, "milk", 7⟩, ⟨bread.id, "bread", 7⟩]

theorem distinct : (both.map (·.jobId)).Nodup := by decide

def candidate : Candidate := ⟨"2 l of milk", "milk", 2.0, "l", 0.9⟩

def resolution : Resolution := ⟨⟨⟨3⟩, "milk"⟩, 1.0, false⟩

def script : Script where
  extraction := .answered (.ok [candidate])
  resolution _ _ := .answered (.ok resolution)

def extract (text : String) : Effect := .extract text IngestSettings.default.extractTimeout

def resolve : Effect := .resolve "milk" IngestSettings.default.resolveTimeout

def insert (id : Uuid) : Effect :=
  .store (.insertStaged
    (stagedItem IngestSettings.default.reviewThreshold milk.id candidate (some ⟨3⟩) id Milk.noon))

def stage : Effect :=
  .store (.transition ⟨milk.id, JobStatus.pending.name, JobStatus.staged.name, none, Milk.noon⟩)

def fail : Effect :=
  .store (.transition ⟨bread.id, JobStatus.pending.name, JobStatus.failed.name,
    some (ServiceError.provider ("Extraction timed out after " ++
      toString IngestSettings.default.extractTimeout ++ " ms.")).message, Milk.noon⟩)

theorem exists_interleaving : ∃ traffic,
    Processing .default (processing .default both submitted) traffic ∧
    traffic.Returns 0 (.process milk.id "milk") () ∧ traffic.Returns 1 (.process bread.id "bread") () ∧
    script.Followed 0 (traffic.pastOf 0) := by
  refine ⟨_,
    .head (@Step.advance _ _ _ 0 _ (extract "milk") _ (.answered (.ok [candidate])) rfl trivial) <|
    .head (@Step.advance _ _ _ 1 _ (extract "bread") _ .timedOut rfl trivial) <|
    .head (@Step.advance _ _ _ 0 _ resolve _ (.answered (.ok resolution)) rfl trivial) <|
    .head (@Step.advance _ _ _ 0 _ .now _ Milk.noon rfl trivial) <|
    .head (@Step.advance _ _ _ 1 _ .now _ Milk.noon rfl trivial) <|
    .head (@Step.advance _ _ _ 0 _ (.newId .stagedItem) _ ⟨4⟩ rfl trivial) <|
    .head (@Step.advance _ _ _ 0 _ (insert ⟨4⟩) _ _ rfl rfl) <|
    .head (@Step.advance _ _ _ 1 _ fail _ _ rfl rfl) <|
    .head (@Step.advance _ _ _ 0 _ .now _ Milk.noon rfl trivial) <|
    .single (@Step.advance _ _ _ 0 _ stage _ _ rfl rfl), rfl, rfl, ?_⟩
  exact ⟨rfl, rfl, trivial⟩

theorem exists_alone : ∃ traffic,
    Processing .default (processing .default [⟨milk.id, "milk", 7⟩] submitted) traffic ∧
    traffic.Returns 0 (.process milk.id "milk") () ∧ script.Followed 0 (traffic.pastOf 0) := by
  refine ⟨_,
    .head (@Step.advance _ _ _ 0 _ (extract "milk") _ (.answered (.ok [candidate])) rfl trivial) <|
    .head (@Step.advance _ _ _ 0 _ resolve _ (.answered (.ok resolution)) rfl trivial) <|
    .head (@Step.advance _ _ _ 0 _ .now _ Milk.noon rfl trivial) <|
    .head (@Step.advance _ _ _ 0 _ (.newId .stagedItem) _ ⟨5⟩ rfl trivial) <|
    .head (@Step.advance _ _ _ 0 _ (insert ⟨5⟩) _ _ rfl rfl) <|
    .head (@Step.advance _ _ _ 0 _ .now _ Milk.noon rfl trivial) <|
    .single (@Step.advance _ _ _ 0 _ stage _ _ rfl rfl), rfl, ?_⟩
  exact ⟨rfl, rfl, trivial⟩

end Pair

theorem processing_apart_pair : ∃ traffic alone : Traffic,
    (Pair.both.map (·.jobId)).Nodup ∧
    Processing .default (processing .default Pair.both Pair.submitted) traffic ∧
    traffic.Returns 0 (.process Pair.milk.id "milk") () ∧
    traffic.Returns 1 (.process Pair.bread.id "bread") () ∧
    Processing .default (processing .default [⟨Pair.milk.id, "milk", 7⟩] Pair.submitted) alone ∧
    alone.Returns 0 (.process Pair.milk.id "milk") () ∧
    Apart .default Pair.both Pair.submitted traffic ∧
    SameEnd Pair.milk.id traffic.memory alone.memory (traffic.pastOf 0) (alone.pastOf 0) := by
  obtain ⟨traffic, leads, ended, endedToo, followed⟩ := Pair.exists_interleaving
  obtain ⟨alone, aloneLeads, aloneEnded, aloneFollowed⟩ := Pair.exists_alone
  have apart := processing_apart Pair.distinct leads
  exact ⟨traffic, alone, Pair.distinct, leads, ended, endedToo, aloneLeads, aloneEnded, apart,
    apart.ends 0 _ Pair.script alone rfl ended aloneLeads aloneEnded followed aloneFollowed⟩

end Interleaving.Traffic

end Larder
