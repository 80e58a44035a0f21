import Larder.Proofs.Service.Protocol
import Larder.Proofs.Service.Requests
import Mathlib.Logic.Relation

/-!
# Traffic over one store

In traffic any number of calls are under way over one store. A call serves a request by its program and
advances by one effect at a time, in any order with the effects of others. A store call is one atomic step,
and any other effect may be answered in any way. Calls enter at any time, for the requests that are admitted;
background processing enters as a request of its own.

The log keeps every effect with its call, so that what a call has done so far is known (`pastOf`). What a
program does whatever answers it gets, a call in traffic does (`Leads.conducts`), and its answers are those
of a store (`Leads.answered`).
-/

namespace Larder

namespace Memory

/-- Only the store's own answers are determined. -/
def MayAnswer (m : Memory) : (effect : Effect) → effect.Answer → Prop
  | .store call, answer => answer = (m.perform call).1
  | _, _ => True

def after (m : Memory) : Effect → Memory
  | .store call => (m.perform call).2
  | _ => m

end Memory

namespace Interleaving

structure Call where
  request : Request
  program : Program request.Value

def Request.call (settings : IngestSettings) (effects : Nat) (request : Request) : Call :=
  ⟨request, request.program settings effects⟩

structure Traffic where
  memory : Memory
  calls : List Call
  /-- The effects of the calls, each with the index of its call, in the order in which they happened. -/
  log : List (Nat × Event)

namespace Traffic

def start (memory : Memory) (calls : List Call) : Traffic :=
  ⟨memory, calls, []⟩

def pastOf (traffic : Traffic) (i : Nat) : List Event :=
  (traffic.log.filter (·.1 == i)).map (·.2)

def Returns (traffic : Traffic) (i : Nat) (request : Request) (value : request.Value) : Prop :=
  traffic.calls[i]? = some ⟨request, .done value⟩

inductive Step (settings : IngestSettings) (admits : Request → Prop) : Traffic → Traffic → Prop
  | enter (traffic : Traffic) {request : Request} (admitted : admits request) (effects : Nat) :
      Step settings admits traffic
        { traffic with calls := traffic.calls ++ [request.call settings effects] }
  | advance {traffic : Traffic} {i : Nat} {request : Request} {effect : Effect}
      {next : effect.Answer → Program request.Value} {answer : effect.Answer}
      (call : traffic.calls[i]? = some ⟨request, .perform effect next⟩)
      (answers : traffic.memory.MayAnswer effect answer) :
      Step settings admits traffic
        ⟨traffic.memory.after effect, traffic.calls.set i ⟨request, next answer⟩,
          traffic.log ++ [(i, ⟨effect, answer⟩)]⟩

abbrev Leads (settings : IngestSettings) (admits : Request → Prop) : Traffic → Traffic → Prop :=
  Relation.ReflTransGen (Step settings admits)

variable {settings : IngestSettings} {admits : Request → Prop} {memory : Memory} {calls : List Call}
  {traffic : Traffic}

/-! ## The log -/

theorem mem_pastOf {i : Nat} {event : Event} : event ∈ traffic.pastOf i ↔ (i, event) ∈ traffic.log := by
  simp [pastOf]

theorem pastOf_enter (call : Call) (i : Nat) :
    pastOf { traffic with calls := traffic.calls ++ [call] } i = traffic.pastOf i := rfl

theorem pastOf_advance_self (m : Memory) (later : List Call) (i : Nat) (event : Event) :
    pastOf ⟨m, later, traffic.log ++ [(i, event)]⟩ i = traffic.pastOf i ++ [event] := by
  simp [pastOf]

theorem pastOf_advance_other (m : Memory) (later : List Call) {i j : Nat} (other : i ≠ j) (event : Event) :
    pastOf ⟨m, later, traffic.log ++ [(i, event)]⟩ j = traffic.pastOf j := by
  simp [pastOf, other]

theorem Leads.known (leads : Leads settings admits (start memory calls) traffic) :
    ∀ entry ∈ traffic.log, entry.1 < traffic.calls.length := by
  induction leads with
  | refl => exact fun _ member => nomatch member
  | tail _ last ih =>
      cases last with
      | enter admitted effects =>
          intro entry member
          rw [List.length_append]
          exact Nat.lt_add_right _ (ih entry member)
      | advance call answers =>
          rw [List.forall_mem_append, List.forall_mem_singleton, List.length_set]
          exact ⟨ih, (List.getElem?_eq_some_iff.mp call).1⟩

theorem Leads.pastOf_eq_nil (leads : Leads settings admits (start memory calls) traffic) {i : Nat}
    (beyond : traffic.calls.length ≤ i) : traffic.pastOf i = [] := by
  unfold pastOf
  rw [List.map_eq_nil_iff, List.filter_eq_nil_iff]
  intro entry member picked
  have known := leads.known entry member
  have same : entry.1 = i := by simpa using picked
  omega

theorem Leads.answered (leads : Leads settings admits (start memory calls) traffic) :
    ∀ entry ∈ traffic.log, ∃ m : Memory, m.MayAnswer entry.2.1 entry.2.2 := by
  induction leads with
  | refl => exact fun _ member => nomatch member
  | tail _ last ih =>
      cases last with
      | enter admitted effects => exact ih
      | advance call answers =>
          rw [List.forall_mem_append, List.forall_mem_singleton]
          exact ⟨ih, _, answers⟩

/-! ## Calls -/

theorem call_enter {call new : Call} {i : Nat} (there : (calls ++ [new])[i]? = some call) :
    calls[i]? = some call ∨ i = calls.length ∧ call = new := by
  rcases Nat.lt_trichotomy i calls.length with inside | rfl | beyond
  · rw [List.getElem?_append_left inside] at there
    exact .inl there
  · rw [List.getElem?_concat_length] at there
    exact .inr ⟨rfl, (Option.some.inj there).symm⟩
  · have none : (calls ++ [new])[i]? = none := by simpa
    rw [none] at there
    cases there

theorem requests_set {call next : Call} {i : Nat} (there : calls[i]? = some call)
    (same : next.request = call.request) : (calls.set i next).map (·.request) = calls.map (·.request) := by
  apply List.ext_getElem?
  intro j
  by_cases here : i = j
  · subst here
    have inside : i < calls.length := (List.getElem?_eq_some_iff.mp there).1
    rw [List.getElem?_map, List.getElem?_map, List.getElem?_set_self inside, there, Option.map_some,
      Option.map_some, same]
  · rw [List.getElem?_map, List.getElem?_map, List.getElem?_set_ne here]

theorem Leads.requests (leads : Leads settings admits (start memory calls) traffic) :
    ∃ later, traffic.calls.map (·.request) = calls.map (·.request) ++ later ∧
      ∀ request ∈ later, admits request := by
  induction leads with
  | refl => exact ⟨[], (List.append_nil _).symm, fun _ member => nomatch member⟩
  | tail _ last ih =>
      obtain ⟨later, split, admitted⟩ := ih
      cases last with
      | @enter request isAdmitted effects =>
          refine ⟨later ++ [request], ?_, ?_⟩
          · rw [List.map_append, split, List.append_assoc]
            rfl
          · rw [List.forall_mem_append, List.forall_mem_singleton]
            exact ⟨admitted, isAdmitted⟩
      | @advance i request effect next answer call answers =>
          refine ⟨later, Eq.trans ?_ split, admitted⟩
          exact requests_set call rfl

theorem Leads.admitted (leads : Leads settings admits (start memory calls) traffic) {i : Nat} {call : Call}
    (there : traffic.calls[i]? = some call) (late : calls.length ≤ i) : admits call.request := by
  obtain ⟨later, split, admitted⟩ := leads.requests
  apply admitted
  have named : (traffic.calls.map (·.request))[i]? = some call.request := by
    rw [List.getElem?_map, there]
    rfl
  rw [split, List.getElem?_append_right (by simpa using late)] at named
  exact List.mem_of_getElem? named

theorem Leads.request_eq (leads : Leads settings admits (start memory calls) traffic) {i : Nat}
    {call first : Call} (there : traffic.calls[i]? = some call) (before : calls[i]? = some first) :
    call.request = first.request := by
  obtain ⟨later, split, _⟩ := leads.requests
  have inside : i < calls.length := (List.getElem?_eq_some_iff.mp before).1
  have named : (traffic.calls.map (·.request))[i]? = some call.request := by
    rw [List.getElem?_map, there]
    rfl
  rw [split, List.getElem?_append_left (by simpa using inside), List.getElem?_map, before] at named
  exact (Option.some.inj named).symm

theorem Leads.returned {later : Traffic} (leads : Leads settings admits traffic later) {i : Nat}
    {request : Request} {value : request.Value} (there : traffic.Returns i request value) :
    later.Returns i request value := by
  induction leads with
  | refl => exact there
  | tail _ last ih =>
      unfold Returns at *
      cases last with
      | enter admitted effects =>
          have inside := (List.getElem?_eq_some_iff.mp ih).1
          exact (List.getElem?_append_left inside).trans ih
      | @advance j _ _ _ _ call answers =>
          have differs : j ≠ i := by
            rintro rfl
            cases call.symm.trans ih
          exact (List.getElem?_set_ne differs).trans ih

/-! ## Conduct -/

section Conducts

variable {σ : Type} {protocol : Protocol σ} {begun : σ} {picks : Request → Prop}
  {ends : (request : Request) → σ → request.Value → Prop}

def Conducts (protocol : Protocol σ) (begun : σ) (picks : Request → Prop)
    (ends : (request : Request) → σ → request.Value → Prop) (traffic : Traffic) : Prop :=
  ∀ i call, traffic.calls[i]? = some call → picks call.request →
    protocol.Accepts begun (traffic.pastOf i) ∧
      call.program.Follows protocol (ends call.request) (protocol.after begun (traffic.pastOf i))

theorem Leads.conducts (leads : Leads settings admits (start memory calls) traffic)
    (first : ∀ call ∈ calls, picks call.request →
      call.program.Follows protocol (ends call.request) begun)
    (later : ∀ request effects, admits request → picks request →
      (request.program settings effects).Follows protocol (ends request) begun) :
    traffic.Conducts protocol begun picks ends := by
  induction leads with
  | refl => exact fun i call there picked => ⟨trivial, first call (List.mem_of_getElem? there) picked⟩
  | @tail traffic _ leads last ih =>
      intro i call there picked
      -- Only the call that advances goes on in its protocol; the past of every other call stays.
      cases last with
      | @enter request admitted effects =>
          rcases call_enter there with old | ⟨rfl, rfl⟩
          · exact ih i call old picked
          · rw [pastOf_enter, Leads.pastOf_eq_nil leads (Nat.le_refl _)]
            exact ⟨trivial, later request effects admitted picked⟩
      | @advance j request effect next answer asks answers =>
          by_cases same : j = i
          · subst same
            have inside : j < traffic.calls.length := (List.getElem?_eq_some_iff.mp asks).1
            rw [List.getElem?_set_self inside] at there
            cases there
            obtain ⟨accepts, follows⟩ := ih j _ asks picked
            obtain ⟨allowed, goesOn⟩ := Program.follows_perform.mp follows
            rw [pastOf_advance_self, Protocol.accepts_concat, Protocol.after_concat]
            exact ⟨⟨accepts, allowed⟩, goesOn answer⟩
          · rw [List.getElem?_set_ne same] at there
            rw [pastOf_advance_other _ _ same]
            exact ih i call there picked

theorem Leads.conducts_one {call : Call} (leads : Leads settings admits (start memory [call]) traffic)
    (first : picks call.request → call.program.Follows protocol (ends call.request) begun)
    (later : ∀ request effects, admits request → picks request →
      (request.program settings effects).Follows protocol (ends request) begun) :
    traffic.Conducts protocol begun picks ends := by
  refine Leads.conducts leads ?_ later
  intro other member
  rw [List.mem_singleton.mp member]
  exact first

theorem Conducts.allowed (conducts : traffic.Conducts protocol begun picks ends) {i : Nat} {request : Request}
    {effect : Effect} {next : effect.Answer → Program request.Value}
    (there : traffic.calls[i]? = some ⟨request, .perform effect next⟩) (picked : picks request) :
    protocol.allows (protocol.after begun (traffic.pastOf i)) effect :=
  (Program.follows_perform.mp (conducts i _ there picked).2).1

theorem Conducts.ended (conducts : traffic.Conducts protocol begun picks ends) {i : Nat} {request : Request}
    {value : request.Value} (there : traffic.Returns i request value) (picked : picks request) :
    ends request (protocol.after begun (traffic.pastOf i)) value :=
  Program.follows_done.mp (conducts i _ there picked).2

end Conducts

end Traffic

end Interleaving

end Larder
