import Larder.Proofs.Interleaving.Traffic
import Larder.Proofs.Store.Jobs
import Larder.Proofs.Store.Listing
import Larder.Proofs.Store.Replacement
import Larder.Proofs.Store.Writes

/-!
# What the log says of an item

In traffic the row of a staged item is the one that was last stored of it, and that can be read off the log
(`standing`). At any time the store answers a listing with the row that the item has by then, and it stores
an update of the item over that row (`Leads.reported`).
-/

namespace Larder

/-! ## One item of the store -/

namespace Memory

variable {m : Memory} {old row item : StagedItem}

theorem sameStaged_iff : sameStaged old item = true ↔ item.id = old.id ∧ item.jobId = old.jobId := by
  simp [sameStaged]

theorem sameStaged_congr (same : sameStaged old item = true) : sameStaged item = sameStaged old := by
  obtain ⟨sameId, sameJob⟩ := sameStaged_iff.mp same
  funext other
  unfold sameStaged
  rw [sameId, sameJob]

theorem find?_listStaged (alone : m.staged.filter (sameStaged old) = [row]) :
    (m.listStaged old.jobId).find? (·.id == old.id) = some row := by
  have perm := (m.listStaged_perm old.jobId).filter (·.id == old.id)
  rw [List.filter_filter] at perm
  have only : (m.listStaged old.jobId).filter (·.id == old.id) = [row] :=
    List.perm_singleton.mp (perm.trans (.of_eq alone))
  rw [← List.head?_filter, only]
  rfl

theorem updateStaged_alone (alone : m.staged.filter (sameStaged old) = [row])
    (same : sameStaged old item = true) :
    (m.updateStaged item).1 = .ok (editedRow item row) ∧
      (m.updateStaged item).2.staged.filter (sameStaged old) = [editedRow item row] := by
  have found : m.staged.find? (sameStaged item) = some row := by
    rw [sameStaged_congr same, ← List.head?_filter, alone]
    rfl
  have picked : sameStaged item row = true := List.find?_some found
  unfold updateStaged
  rw [found]
  refine ⟨rfl, ?_⟩
  rw [← sameStaged_congr same] at alone ⊢
  have stable : ∀ x, sameStaged item x = true →
      sameStaged item x = true ∧ sameStaged item (editedRow item x) = true := fun _ picks => ⟨picks, picks⟩
  dsimp only
  rw [filter_replaceFirst stable, alone]
  unfold replaceFirst
  rw [if_pos picked]

theorem updateStaged_other (other : sameStaged old item = false) :
    (m.updateStaged item).2.staged.filter (sameStaged old) = m.staged.filter (sameStaged old) := by
  have unseen (x : StagedItem) (picked : sameStaged item x = true) :
      sameStaged old x = false ∧ sameStaged old (editedRow item x) = false := by
    refine and_self_iff.mpr ?_
    by_contra also
    rw [Bool.not_eq_false] at also
    obtain ⟨sameId, sameJob⟩ := sameStaged_iff.mp picked
    obtain ⟨alsoId, alsoJob⟩ := sameStaged_iff.mp also
    rw [sameStaged_iff.mpr ⟨sameId.symm.trans alsoId, sameJob.symm.trans alsoJob⟩] at other
    cases other
  rcases updateStaged_cases m item with done | done
  · rw [done]
  · rw [done]
    exact filter_replaceFirst_of_ne unseen m.staged

theorem insertStaged_other (other : sameStaged old item = false) :
    (m.insertStaged item).2.staged.filter (sameStaged old) = m.staged.filter (sameStaged old) := by
  rcases insertStaged_cases m item with done | ⟨_, done⟩
  · rw [done]
  · rw [done]
    simp [other]

theorem insertJob_staged (m : Memory) (job : Job) : (m.insertJob job).2.staged = m.staged := by
  unfold insertJob
  split <;> rfl

theorem deleteItem_staged (m : Memory) (id : Uuid) : (m.deleteItem id).2.staged = m.staged := by
  unfold deleteItem
  split <;> rfl

end Memory

namespace Interleaving

variable {old row : StagedItem} {effect : Effect} {answer : effect.Answer}

def Inserts (old : StagedItem) : Effect → Prop
  | .store (.insertStaged item) => Memory.sameStaged old item = true
  | _ => False

def Touches (old : StagedItem) : Effect → Prop
  | .store (.insertStaged item) | .store (.updateStaged item) => Memory.sameStaged old item = true
  | _ => False

def stored? (old : StagedItem) : Event → Option StagedItem
  | ⟨.store (.updateStaged item), .ok row⟩ => if Memory.sameStaged old item then some row else none
  | _ => none

def Reports (old row : StagedItem) : Event → Prop
  | ⟨.store (.listStaged jobId), .ok items⟩ =>
      jobId = old.jobId → items.find? (·.id == old.id) = some row
  | ⟨.store (.updateStaged item), .ok changed⟩ =>
      Memory.sameStaged old item = true → changed = Memory.editedRow item row
  | _ => True

theorem touches_of_inserts (inserts : Inserts old effect) : Touches old effect := by
  cases effect with
  | store call =>
      cases call with
      | insertStaged item => exact inserts
      | _ => cases inserts
  | _ => cases inserts

theorem stored?_of_not_touches (untouched : ¬ Touches old effect) : stored? old ⟨effect, answer⟩ = none := by
  cases effect with
  | store call =>
      cases call with
      | updateStaged item =>
          cases answer with
          | ok row => exact if_neg untouched
          | error fault => rfl
      | _ => rfl
  | _ => rfl

theorem stored_advance {m : Memory} (alone : m.staged.filter (Memory.sameStaged old) = [row])
    (answers : m.MayAnswer effect answer) (never : ¬ Inserts old effect) :
    (m.after effect).staged.filter (Memory.sameStaged old) = [(stored? old ⟨effect, answer⟩).getD row] ∧
      Reports old row ⟨effect, answer⟩ := by
  -- Only insertions and updates get to the rows of items.
  have kept (call : StoreCall) (same : (m.perform call).2.staged = m.staged) :
      (m.perform call).2.staged.filter (Memory.sameStaged old) = [row] := by
    rw [same, alone]
  cases effect with
  | store call =>
      obtain rfl : answer = (m.perform call).1 := answers
      cases call with
      | updateStaged item =>
          by_cases same : Memory.sameStaged old item = true
          · obtain ⟨accepted, changed⟩ := Memory.updateStaged_alone alone same
            refine ⟨changed.trans ?_, ?_⟩
            · simp [Memory.perform, accepted, stored?, same]
            · simp [Memory.perform, accepted, Reports]
          · have other : Memory.sameStaged old item = false := Bool.eq_false_iff.mpr same
            have untouched : ¬ Touches old (.store (.updateStaged item)) := same
            rw [stored?_of_not_touches untouched]
            refine ⟨(Memory.updateStaged_other other).trans alone, ?_⟩
            cases (m.perform (.updateStaged item)).1 with
            | ok changed => exact fun also => absurd also same
            | error fault => trivial
      | insertStaged item =>
          exact ⟨(Memory.insertStaged_other (Bool.eq_false_iff.mpr never)).trans alone, trivial⟩
      | listStaged jobId =>
          refine ⟨alone, ?_⟩
          rintro rfl
          exact Memory.find?_listStaged alone
      | upsertItem write => exact ⟨kept _ (Memory.write_staged m write), trivial⟩
      | transition t => exact ⟨kept _ (Memory.transition_staged m t), trivial⟩
      | insertJob job => exact ⟨kept _ (Memory.insertJob_staged m job), trivial⟩
      | deleteItem id => exact ⟨kept _ (Memory.deleteItem_staged m id), trivial⟩
      | deleteAllItems | listItems | getJob => exact ⟨alone, trivial⟩
  | _ => exact ⟨alone, trivial⟩

/-! ## Along the log -/

def standing (old : StagedItem) (log : List (Nat × Event)) : StagedItem :=
  (log.reverse.findSome? fun entry => stored? old entry.2).getD old

def Untouched (old : StagedItem) (log : List (Nat × Event)) : Prop :=
  ∀ entry ∈ log, stored? old entry.2 = none

theorem standing_concat (log : List (Nat × Event)) (entry : Nat × Event) :
    standing old (log ++ [entry]) = (stored? old entry.2).getD (standing old log) := by
  unfold standing
  rw [List.reverse_append, List.reverse_singleton, List.singleton_append, List.findSome?_cons]
  cases stored? old entry.2 <;> rfl

theorem standing_untouched {log : List (Nat × Event)} (untouched : Untouched old log) :
    standing old log = old := by
  unfold standing
  rw [List.findSome?_eq_none_iff.mpr fun entry member => untouched entry (List.mem_reverse.mp member)]
  rfl

theorem standing_append_cons {earlier later : List (Nat × Event)} {entry : Nat × Event}
    (stores : stored? old entry.2 = some row) (untouched : Untouched old later) :
    standing old (earlier ++ entry :: later) = row := by
  have none : later.reverse.findSome? (fun entry => stored? old entry.2) = none :=
    List.findSome?_eq_none_iff.mpr fun entry member => untouched entry (List.mem_reverse.mp member)
  unfold standing
  rw [List.reverse_append, List.reverse_cons, List.append_assoc, List.findSome?_append, none,
    List.singleton_append, List.findSome?_cons, stores]
  rfl

def Reported (old : StagedItem) (log : List (Nat × Event)) : Prop :=
  ∀ earlier entry later, log = earlier ++ entry :: later → Reports old (standing old earlier) entry.2

theorem Reported.concat {log : List (Nat × Event)} {entry : Nat × Event} (reported : Reported old log)
    (reports : Reports old (standing old log) entry.2) : Reported old (log ++ [entry]) := by
  intro earlier other later split
  rcases List.eq_nil_or_concat later with rfl | ⟨later, last, rfl⟩
  · obtain ⟨rfl, same⟩ := List.append_inj' split rfl
    cases same
    exact reports
  · rw [List.concat_eq_append, ← List.cons_append, ← List.append_assoc] at split
    obtain ⟨rfl, _⟩ := List.append_inj' split rfl
    exact reported earlier other later rfl

namespace Traffic

variable {settings : IngestSettings} {admits : Request → Prop} {memory : Memory} {calls : List Call}
  {traffic : Traffic}

theorem Leads.reported (leads : Leads settings admits (start memory calls) traffic)
    (alone : memory.staged.filter (Memory.sameStaged old) = [old])
    (never : ∀ entry ∈ traffic.log, ¬ Inserts old entry.2.1) :
    traffic.memory.staged.filter (Memory.sameStaged old) = [standing old traffic.log] ∧
      Reported old traffic.log := by
  induction leads with
  | refl => exact ⟨alone, fun earlier _ _ split => by cases earlier <;> cases split⟩
  | tail leads last ih =>
      cases last with
      | enter admitted effects => exact ih never
      | advance call answers =>
          rw [List.forall_mem_append, List.forall_mem_singleton] at never
          obtain ⟨stands, reported⟩ := ih never.1
          obtain ⟨stands, reports⟩ := stored_advance stands answers never.2
          refine ⟨?_, reported.concat reports⟩
          rw [standing_concat]
          exact stands

end Traffic

end Interleaving

end Larder
