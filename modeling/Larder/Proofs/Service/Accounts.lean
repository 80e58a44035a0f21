import Larder.Proofs.Intake.Handling

namespace Larder.Service
open Interleaving

/-- The ids of the rows that were written or removed, one for each successful call. -/
def changedIds (events : List Event) : List Uuid :=
  events.flatMap fun
    | ⟨.store (.upsertItem _), .ok row⟩ => [row.id]
    | ⟨.store (.deleteItem id), .ok _⟩ => [id]
    | _ => []

structure Account where
  changed : List Uuid
  batches : List (List Uuid)

namespace Account

def next (account : Account) (effect : Effect) (answer : effect.Answer) : Account :=
  ⟨account.changed ++ changedIds [⟨effect, answer⟩], account.batches ++ effect.batches⟩

def Told (account : Account) : Prop :=
  account.batches = if account.changed = [] then [] else [account.changed]

end Account

def accounting : Protocol Account where
  allows _ _ := True
  next := Account.next

variable {α : Type} {account : Account}

theorem accounting_after (events : List Event) :
    accounting.after account events =
      ⟨account.changed ++ changedIds events, account.batches ++ published events⟩ := by
  induction events generalizing account with
  | nil => simp [Protocol.after, changedIds, published]
  | cons event rest ih =>
      refine (@ih (account.next event.1 event.2)).trans ?_
      simp [Account.next, changedIds, published]

def IsQuiet : Effect → Prop
  | .store (.upsertItem _) | .store (.deleteItem _) | .publish _ => False
  | _ => True

theorem Account.next_quiet {effect : Effect} (quiet : IsQuiet effect) (answer : effect.Answer) :
    account.next effect answer = account := by
  have unchanged : changedIds [⟨effect, answer⟩] = [] := by
    cases effect with
    | store call => cases call <;> first | rfl | cases quiet
    | _ => rfl
  have unpublished : effect.batches = [] := by
    cases effect <;> first | rfl | cases quiet
  unfold next
  rw [unchanged, unpublished, List.append_nil, List.append_nil]

theorem accounts_quiet {operation : Operation α} (uses : operation.Uses IsQuiet) (account : Account) :
    operation.Follows accounting (fun after _ => after = account) (fun after _ => after = account) account :=
  uses.follows (fun _ _ => trivial) fun _ answer quiet => Account.next_quiet quiet answer

/-! ## Along the operations -/

theorem quiet_of_reads {jobId : Uuid} {effect : Effect} (reads : Reads jobId effect) : IsQuiet effect := by
  cases reads <;> trivial

theorem quiet_of_moves {jobId : Uuid} {source target : JobStatus} {effect : Effect}
    (moves : Moves jobId source target effect) : IsQuiet effect := by
  cases moves <;> trivial

theorem quiet_of_creates {effect : Effect} (creates : Creates effect) : IsQuiet effect := by
  cases creates <;> trivial

theorem quiet_of_processes {jobId : Uuid} {effect : Effect} (processes : Processes jobId effect) :
    IsQuiet effect := by
  cases processes <;> trivial

theorem quiet_of_resolves {effect : Effect} (resolves : Resolves effect) : IsQuiet effect := by
  cases resolves
  trivial

theorem quiet_of_edits {jobId : Uuid} {effect : Effect} (edits : Edits jobId effect) : IsQuiet effect := by
  cases edits with
  | read reads => exact quiet_of_reads reads
  | now | update => trivial

theorem writeItem_accounts (ingredientId : Uuid) (quantity : Float) (unit : String)
    (expiresAt : Option Timestamp) (account : Account) :
    (writeItem ingredientId quantity unit expiresAt).Follows accounting
      (fun after row => after = ⟨account.changed ++ [row.id], account.batches⟩)
      (fun after _ => after = account) account := by
  have reads : (Operation.ask .now).Uses IsQuiet := Operation.uses_ask trivial
  have names : (Operation.ask (.newId .pantryItem)).Uses IsQuiet := Operation.uses_ask trivial
  unfold writeItem
  apply (accounts_quiet reads account).bind
  rintro _ now rfl
  apply (accounts_quiet names _).bind
  rintro account id rfl
  apply Operation.follows_store (.upsertItem _) trivial
  · intro row
    simp [accounting, Account.next, changedIds, Effect.batches]
  · intro fault
    simp [accounting, Account.next, changedIds, Effect.batches]

theorem writeAll_accounts (overrides : List Override) (items : List StagedItem) (account : Account) :
    (writeAll overrides items).Follows accounting
      (fun after written => after = ⟨account.changed ++ written.itemIds, account.batches⟩) account := by
  induction items generalizing account with
  | nil => exact Program.follows_pure (by simp)
  | cons item rest ih =>
      unfold writeAll
      dsimp only
      split
      · apply (ih account).bind
        rintro _ written rfl
        exact Program.follows_pure rfl
      · apply (writeItem_accounts _ _ _ none account).run.bind
        intro after result ends
        cases result with
        | error fault =>
            -- The loop stops here, and the ids of the rows so far are returned with the fault.
            obtain rfl : after = account := ends
            exact Program.follows_pure (by simp)
        | ok row =>
            obtain rfl : after = ⟨account.changed ++ [row.id], account.batches⟩ := ends
            apply (ih _).bind
            rintro _ written rfl
            exact Program.follows_pure (by simp)

theorem publish_accounts (ids : List Uuid) (account : Account) {fails : Account → ServiceError → Prop} :
    (publish ids).Follows accounting
      (fun after _ => after = ⟨account.changed, account.batches ++ [ids]⟩) fails account := by
  have asks : (Operation.ask (.publish ids)).Follows accounting
      (fun after _ => after = ⟨account.changed, account.batches ++ [ids]⟩) fails account := by
    apply Operation.follows_ask trivial
    intro answer
    simp [accounting, Account.next, changedIds, Effect.batches]
  unfold publish
  apply asks.bind
  rintro _ _ rfl
  exact Operation.follows_pure rfl

theorem conclude_accounts (jobId : Uuid) (written : Written) :
    (conclude jobId written).Follows accounting (fun after _ => after.Told) (fun after _ => after.Told)
      ⟨written.itemIds, []⟩ := by
  have publishes : (publishWritten written.itemIds).Follows accounting (fun after _ => after.Told)
      (fun after _ => after.Told) ⟨written.itemIds, []⟩ := by
    unfold publishWritten
    split
    · rename_i none
      have none : written.itemIds = [] := List.isEmpty_iff.mp none
      exact Operation.follows_pure (if_pos none).symm
    · rename_i some
      have some : written.itemIds ≠ [] := fun none => some (List.isEmpty_iff.mpr none)
      apply (publish_accounts written.itemIds _).mono
      · rintro _ _ rfl
        exact (if_neg some).symm
      · exact fun _ _ told => told
  unfold conclude
  apply publishes.bind
  intro account _ told
  split
  · exact Operation.follows_throw told
  · have moves := (transition_uses jobId .staged .confirmed none).mono fun _ => quiet_of_moves
    apply ((accounts_quiet moves account).mono (fun _ _ same => same) _).bind
    · rintro _ moved rfl
      split
      · exact Operation.follows_pure told
      · exact Operation.follows_throw told
    · rintro _ _ rfl
      exact told

theorem told_nothing : (⟨[], []⟩ : Account).Told := rfl

theorem told_quiet {operation : Operation α} (uses : operation.Uses IsQuiet) :
    operation.Follows accounting (fun after _ => after = ⟨[], []⟩) (fun after _ => after.Told)
      ⟨[], []⟩ := by
  apply (accounts_quiet uses _).mono
  · exact fun _ _ same => same
  · rintro _ _ rfl
    exact told_nothing

theorem confirmJob_tells (jobId : Uuid) (overrides : List Override) :
    (confirmJob jobId overrides).Follows accounting (fun after _ => after.Told)
      (fun after _ => after.Told) ⟨[], []⟩ := by
  have lists : (Operation.store (.listStaged jobId)).Uses IsQuiet := Operation.uses_store trivial
  unfold confirmJob
  apply (told_quiet ((loadJob_uses jobId).mono fun _ => quiet_of_reads)).bind
  rintro _ job rfl
  apply (told_quiet (requireStaged_uses job "confirm")).bind
  rintro _ _ rfl
  apply (told_quiet lists).bind
  rintro _ items rfl
  apply (told_quiet (Operation.uses_liftM _)).bind
  rintro _ _ rfl
  apply (Operation.follows_lift (writeAll_accounts overrides items ⟨[], []⟩)).bind
  rintro _ written rfl
  exact conclude_accounts jobId written

theorem addItem_tells (settings : IngestSettings) (addition : Addition) :
    (addItem settings addition).Follows accounting (fun after _ => after.Told)
      (fun after _ => after.Told) ⟨[], []⟩ := by
  unfold addItem
  apply (told_quiet (Operation.uses_check _)).bind
  rintro _ _ rfl
  apply (told_quiet (Operation.uses_check _)).bind
  rintro _ _ rfl
  apply (told_quiet (Operation.uses_liftM _)).bind
  rintro _ expiresAt rfl
  apply (told_quiet ((namedIngredient_uses settings addition).mono fun _ => quiet_of_resolves)).bind
  rintro _ ingredientId rfl
  apply ((writeItem_accounts ingredientId _ _ expiresAt ⟨[], []⟩).mono (fun _ _ same => same) _).bind
  · rintro _ row rfl
    apply (publish_accounts [row.id] _).bind
    rintro _ _ rfl
    exact Operation.follows_pure rfl
  · rintro _ _ rfl
    exact told_nothing

theorem deleteItem_tells (id : Uuid) :
    (deleteItem id).Follows accounting (fun after _ => after.Told) (fun after _ => after.Told)
      ⟨[], []⟩ := by
  have removes : (Operation.store (.deleteItem id)).Follows accounting
      (fun after _ => after = ⟨[id], []⟩) (fun after _ => after.Told) ⟨[], []⟩ :=
    Operation.follows_store (.deleteItem id) trivial (fun _ => rfl) (fun _ => rfl)
  unfold deleteItem
  apply removes.bind
  rintro _ _ rfl
  apply (publish_accounts [id] _).mono
  · rintro _ _ rfl
    exact rfl
  · exact fun _ _ told => told

theorem reset_tells :
    reset.Follows accounting (fun after _ => after = ⟨[], [[]]⟩) (fun after _ => after.Told) ⟨[], []⟩ := by
  have removes : (Operation.store .deleteAllItems).Uses IsQuiet := Operation.uses_store trivial
  unfold reset
  apply (told_quiet removes).bind
  rintro _ removed rfl
  apply (publish_accounts [] _).bind
  rintro _ _ rfl
  exact Operation.follows_pure rfl

/-! ## Requests -/

def Tells : (request : Request) → request.Value → Account → Prop
  | .reset, .ok _, account => account = ⟨[], [[]]⟩
  | _, _, account => account.Told

theorem tells_quiet {request : Request} {program : Program request.Value} (uses : program.Uses IsQuiet)
    (quiet : ∀ value, Tells request value ⟨[], []⟩) :
    program.Follows accounting (fun account value => Tells request value account) ⟨[], []⟩ := by
  apply (uses.follows (fun _ _ => trivial) fun _ answer quiet => Account.next_quiet quiet answer).mono
  rintro _ value rfl
  exact quiet value

theorem told_of_ends {account : Account} {result : Except ServiceError α}
    (ends : Operation.Ends (fun after _ => after.Told) (fun after _ => after.Told) account result) :
    account.Told := by
  cases result <;> exact ends

theorem program_tells (settings : IngestSettings) (effects : Nat) (request : Request) :
    (request.program settings effects).Follows accounting (fun account value => Tells request value account)
      ⟨[], []⟩ := by
  cases request with
  | createJob submission =>
      exact tells_quiet ((createJob_uses submission).run.mono fun _ => quiet_of_creates) fun _ => told_nothing
  | submit submission =>
      exact tells_quiet ((submit_uses submission).run.mono fun _ => quiet_of_creates) fun _ => told_nothing
  | process jobId text =>
      exact tells_quiet ((processWithin_uses effects).mono fun _ => quiet_of_processes) fun _ => told_nothing
  | processAlone jobId text =>
      exact tells_quiet ((processJob_uses settings jobId text).mono fun _ => quiet_of_processes)
        fun _ => told_nothing
  | getJob jobId =>
      exact tells_quiet ((getJob_uses jobId).run.mono fun _ => quiet_of_reads) fun _ => told_nothing
  | edit jobId stagedItemId change =>
      exact tells_quiet ((editItem_uses jobId stagedItemId change).run.mono fun _ => quiet_of_edits)
        fun _ => told_nothing
  | listItems =>
      have lists : Service.listItems.Uses IsQuiet := Operation.uses_store trivial
      exact tells_quiet lists.run fun _ => told_nothing
  | confirm jobId overrides => exact (confirmJob_tells jobId overrides).run.mono fun _ _ => told_of_ends
  | addItem addition => exact (addItem_tells settings addition).run.mono fun _ _ => told_of_ends
  | deleteItem id => exact (deleteItem_tells id).run.mono fun _ _ => told_of_ends
  | reset =>
      apply reset_tells.run.mono
      intro account result ends
      cases result <;> exact ends

end Larder.Service
