import Larder.Store.Connection

namespace Larder.Store

def Reply.Succeeds (reply : Reply) : Prop :=
  ∃ rows affected, reply = .rows rows affected

/-- The statement that a demand comes to. A transaction is given up by a rollback. -/
def Demand.message? : Demand → Option Message
  | .connect _ => none
  | .say message => some message
  | .giveUp => some (.simple "ROLLBACK")

/-- A list of statements, the replies to them, the outcome, and what of the list has been sent. -/
inductive Sending : List Message → (Nat → Reply) → Except BackendFault Unit → List Message → Prop
  | finished (replies : Nat → Reply) : Sending [] replies (.ok ()) []
  | failed {replies : Nat → Reply} {fault : BackendFault} (message : Message) (rest : List Message)
      (fails : (replies 0).result = .error fault) : Sending (message :: rest) replies (.error fault) [message]
  | went {replies : Nat → Reply} {rest sent : List Message} {outcome : Except BackendFault Unit}
      (message : Message) (succeeds : (replies 0).Succeeds)
      (later : Sending rest (fun n => replies (n + 1)) outcome sent) :
      Sending (message :: rest) replies outcome (message :: sent)

/-- Whether a transaction is given up: a statement behind its begin is refused by a server that is there. -/
def GivesUp (sent : List Message) (outcome : Except BackendFault Unit) : Prop :=
  1 < sent.length ∧ ∃ text, outcome = .error (.database text)

theorem Reply.succeeds_or_fails (reply : Reply) :
    (reply.Succeeds ∧ ∃ result, reply.result = .ok result) ∨ ∃ fault, reply.result = .error fault := by
  cases reply with
  | rows rows affected => exact .inl ⟨⟨rows, affected, rfl⟩, _, rfl⟩
  | error text => exact .inr ⟨_, rfl⟩
  | lost => exact .inr ⟨_, rfl⟩

theorem Reply.fault_cases {reply : Reply} {fault : BackendFault} (fails : reply.result = .error fault) :
    fault = .connectionLost ∨ ∃ text, fault = .database text := by
  cases reply with
  | rows => cases fails
  | error text =>
      cases fails
      exact .inr ⟨text, rfl⟩
  | lost =>
      cases fails
      exact .inl rfl

/-! ## What has been sent -/

namespace Sending

variable {messages sent : List Message} {replies : Nat → Reply} {outcome : Except BackendFault Unit}

theorem isPrefix (sending : Sending messages replies outcome sent) : sent <+: messages := by
  induction sending with
  | finished => exact List.prefix_refl []
  | failed message rest fails => exact ⟨rest, rfl⟩
  | went message succeeds later ih => exact List.cons_prefix_cons.mpr ⟨rfl, ih⟩

theorem getElem?_eq_some (sending : Sending messages replies outcome sent) {n : Nat} {message : Message}
    (found : sent[n]? = some message) : messages[n]? = some message := by
  obtain ⟨rest, joined⟩ := sending.isPrefix
  obtain ⟨inside, _⟩ := List.getElem?_eq_some_iff.mp found
  rw [← joined, List.getElem?_append_left inside, found]

theorem succeeds_before (sending : Sending messages replies outcome sent) {i : Nat} (before : i + 1 < sent.length) :
    (replies i).Succeeds := by
  induction sending generalizing i with
  | finished => cases before
  | failed message rest fails => exact absurd before (by simp)
  | went message succeeds later ih =>
      cases i with
      | zero => exact succeeds
      | succ i => exact ih (by simpa using before)

theorem ok_iff (sending : Sending messages replies outcome sent) :
    outcome = .ok () ↔ sent = messages ∧ ∀ i < messages.length, (replies i).Succeeds := by
  induction sending with
  | finished => exact iff_of_true rfl ⟨rfl, fun i below => absurd below (Nat.not_lt_zero i)⟩
  | failed message rest fails =>
      refine iff_of_false (fun same => nomatch same) fun ⟨_, all⟩ => ?_
      obtain ⟨rows, affected, reply⟩ := all 0 (Nat.zero_lt_succ _)
      rw [reply] at fails
      cases fails
  | went message succeeds later ih =>
      rw [ih, List.cons.injEq, List.length_cons]
      constructor
      · rintro ⟨same, all⟩
        refine ⟨⟨rfl, same⟩, fun i below => ?_⟩
        cases i with
        | zero => exact succeeds
        | succ i => exact all i (by omega)
      · rintro ⟨⟨_, same⟩, all⟩
        exact ⟨same, fun i below => all (i + 1) (by omega)⟩

theorem last_fails (sending : Sending messages replies outcome sent) {fault : BackendFault}
    (failed : outcome = .error fault) : ∃ last, sent.length = last + 1 ∧ (replies last).result = .error fault := by
  induction sending with
  | finished => cases failed
  | failed message rest fails =>
      cases failed
      exact ⟨0, rfl, fails⟩
  | went message succeeds later ih =>
      obtain ⟨last, length, fails⟩ := ih failed
      exact ⟨last + 1, by rw [List.length_cons, length], fails⟩

theorem ok_iff_last {front : List Message} {last : Message} (fresh : last ∉ front)
    (sending : Sending (front ++ [last]) replies outcome sent) :
    outcome = .ok () ↔ ∃ n, sent[n]? = some last ∧ (replies n).Succeeds := by
  rw [sending.ok_iff]
  constructor
  · rintro ⟨rfl, all⟩
    exact ⟨front.length, by simp, all front.length (by simp)⟩
  · rintro ⟨n, found, succeeds⟩
    obtain ⟨inside, _⟩ := List.getElem?_eq_some_iff.mp found
    have shorter : sent.length ≤ (front ++ [last]).length := sending.isPrefix.length_le
    have place : front.length ≤ n := by
      apply Nat.le_of_not_lt
      intro before
      have listed := sending.getElem?_eq_some found
      rw [List.getElem?_append_left before] at listed
      exact fresh (List.mem_of_getElem? listed)
    rw [List.length_append, List.length_singleton] at shorter
    have whole : sent = front ++ [last] :=
      sending.isPrefix.eq_of_length (by rw [List.length_append, List.length_singleton]; omega)
    refine ⟨whole, fun i below => ?_⟩
    rw [List.length_append, List.length_singleton] at below
    obtain rfl | earlier : i = n ∨ i < n := by omega
    · exact succeeds
    · exact sending.succeeds_before (by omega)

end Sending

/-! ## Transactions -/

namespace Conversation

theorem run_sayAll_cons (message : Message) (rest : List Message) :
    (sayAll (message :: rest)).run = .ask (.say message) fun reply =>
      match reply.result with
      | .ok _ => (sayAll rest).run
      | .error fault => .done (.error fault) := by
  change Dialogue.ask _ _ = _
  congr
  funext reply
  cases reply <;> rfl

theorem sayAll_sends (messages : List Message) (replies : Nat → Reply) :
    ∃ sent, Sending messages replies ((sayAll messages).run.run replies).1 sent ∧
      ((sayAll messages).run.run replies).2 = sent.map .say := by
  induction messages generalizing replies with
  | nil => exact ⟨[], .finished replies, rfl⟩
  | cons message rest ih =>
      rw [run_sayAll_cons, Dialogue.run_ask]
      obtain ⟨succeeds, result, read⟩ | ⟨fault, read⟩ := (replies 0).succeeds_or_fails
      · obtain ⟨sent, sending, demands⟩ := ih fun n => replies (n + 1)
        rw [read]
        exact ⟨message :: sent, .went message succeeds sending, by rw [demands, List.map_cons]⟩
      · rw [read]
        exact ⟨[message], .failed message rest read, rfl⟩

def ending : Except BackendFault Unit → Dialogue Demand Reply (Except BackendFault Unit)
  | .ok () => .done (.ok ())
  | .error .connectionLost => .done (.error .connectionLost)
  | .error fault => .ask .giveUp fun _ => .done (.error fault)

theorem run_transaction (messages : List Message) :
    (transaction messages).run = .ask (.say (.simple "BEGIN")) fun reply =>
      match reply.result with
      | .ok _ => (sayAll (messages ++ [.simple "COMMIT"])).run.bind ending
      | .error fault => .done (.error fault) := by
  change Dialogue.ask _ _ = _
  congr
  funext reply
  cases reply with
  | error | lost => rfl
  | rows rows affected =>
      refine (Dialogue.bind_assoc (sayAll (messages ++ [.simple "COMMIT"])).run
        (fun outcome => .done (Except.ok outcome)) _).trans ?_
      congr

theorem run_bind_ending (dialogue : Dialogue Demand Reply (Except BackendFault Unit)) (replies : Nat → Reply) :
    ((dialogue.bind ending).run replies).1 = (dialogue.run replies).1 ∧
      ∃ given, ((dialogue.bind ending).run replies).2 = (dialogue.run replies).2 ++ given ∧
        given = match (dialogue.run replies).1 with
          | .ok () | .error .connectionLost => []
          | .error _ => [.giveUp] := by
  induction dialogue generalizing replies with
  | done outcome =>
      cases outcome with
      | ok => exact ⟨rfl, _, rfl, rfl⟩
      | error fault => cases fault <;> exact ⟨rfl, _, rfl, rfl⟩
  | ask demand next ih =>
      obtain ⟨same, given, demands, shape⟩ := ih (replies 0) fun n => replies (n + 1)
      exact ⟨same, given, congrArg (demand :: ·) demands, shape⟩

theorem transaction_sends (messages : List Message) (replies : Nat → Reply) :
    ∃ sent rollback,
      Sending (.simple "BEGIN" :: (messages ++ [.simple "COMMIT"])) replies
        ((transaction messages).run.run replies).1 sent ∧
      ((transaction messages).run.run replies).2 = sent.map .say ++ rollback ∧
      (GivesUp sent ((transaction messages).run.run replies).1 ∧ rollback = [.giveUp] ∨
        ¬ GivesUp sent ((transaction messages).run.run replies).1 ∧ rollback = []) := by
  rw [run_transaction, Dialogue.run_ask]
  obtain ⟨succeeds, result, read⟩ | ⟨fault, read⟩ := (replies 0).succeeds_or_fails
  · rw [read]
    obtain ⟨sent, sending, demands⟩ := sayAll_sends (messages ++ [.simple "COMMIT"]) fun n => replies (n + 1)
    obtain ⟨same, given, demands', shape⟩ :=
      run_bind_ending (sayAll (messages ++ [.simple "COMMIT"])).run fun n => replies (n + 1)
    dsimp only
    rw [same, demands', demands]
    refine ⟨_, given, .went _ succeeds sending, rfl, ?_⟩
    cases outcome : ((sayAll (messages ++ [.simple "COMMIT"])).run.run fun n => replies (n + 1)).1 with
    | ok =>
        rw [outcome] at shape
        exact .inr ⟨fun ⟨_, _, refused⟩ => (nomatch refused), shape⟩
    | error fault =>
        rw [outcome] at shape
        obtain ⟨last, length, fails⟩ := sending.last_fails outcome
        obtain rfl | ⟨text, rfl⟩ := Reply.fault_cases fails
        · exact .inr ⟨fun ⟨_, _, refused⟩ => (nomatch refused), shape⟩
        · exact .inl ⟨⟨by rw [List.length_cons, length]; omega, text, rfl⟩, shape⟩
  · rw [read]
    exact ⟨_, [], .failed _ _ read, rfl, .inr ⟨fun ⟨more, _⟩ => absurd more (by decide), rfl⟩⟩

end Conversation

/-! ## Scripts -/

def IsSplit (script : String) (pieces : List String) : Prop :=
  pieces ≠ [] ∧ ";".intercalate pieces = script ∧ ∀ piece ∈ pieces, ';' ∉ piece.toList

theorem parts_eq_splitOn (separator : Char) (chars : List Char) :
    Text.parts separator chars = chars.splitOn separator := by
  induction chars with
  | nil => rfl
  | cons c rest ih =>
      rw [Text.parts, List.splitOn_cons_eq_if_modifyHead, ih]
      by_cases same : c = separator
      · rw [if_pos same, if_pos (beq_iff_eq.mpr same)]
      · rw [if_neg same, if_neg (mt beq_iff_eq.mp same)]
        obtain ⟨first, others, found⟩ := List.exists_cons_of_ne_nil (List.splitOn_ne_nil separator rest)
        rw [found]
        rfl

theorem not_mem_of_mem_splitOn {separator : Char} {chars piece : List Char}
    (member : piece ∈ chars.splitOn separator) : separator ∉ piece := by
  induction chars generalizing piece with
  | nil =>
      rw [List.mem_singleton.mp member]
      exact List.not_mem_nil
  | cons c rest ih =>
      rw [List.splitOn_cons_eq_if_modifyHead] at member
      split at member
      · obtain rfl | later := List.mem_cons.mp member
        · exact List.not_mem_nil
        · exact ih later
      · rename_i other
        obtain ⟨first, others, found⟩ := List.exists_cons_of_ne_nil (List.splitOn_ne_nil separator rest)
        rw [found] at member ih
        obtain rfl | later := List.mem_cons.mp member
        · have differs : separator ≠ c := fun same => other (beq_iff_eq.mpr same.symm)
          exact List.not_mem_cons_of_ne_of_not_mem differs (ih List.mem_cons_self)
        · exact ih (List.mem_cons_of_mem _ later)

theorem scriptStatements_eq (script : String) : ∃ pieces, IsSplit script pieces ∧
    scriptStatements script = (pieces.map Text.trim).filter (· != "") := by
  refine ⟨(Text.parts ';' script.toList).map String.ofList, ⟨?_, ?_, ?_⟩, ?_⟩
  · rw [Ne, List.map_eq_nil_iff, parts_eq_splitOn]
    exact List.splitOn_ne_nil ';' script.toList
  · apply String.toList_injective
    have shown : String.toList ∘ String.ofList = id := funext fun chars => String.toList_ofList
    rw [String.toList_intercalate, List.map_map, shown, List.map_id, parts_eq_splitOn]
    exact List.intercalate_splitOn ';'
  · rw [List.forall_mem_map]
    intro part member
    rw [parts_eq_splitOn] at member
    rw [String.toList_ofList]
    exact not_mem_of_mem_splitOn member
  · rw [scriptStatements, List.map_map]
    rfl

/-! ## The schema -/

def lockQuery : Message :=
  .prepared "SELECT pg_advisory_xact_lock($1)" [.integer 7265001]

def opening (pieces : List String) : List Message :=
  .simple "BEGIN" :: lockQuery :: ((pieces.map Text.trim).filter (· != "")).map (.prepared · [])

def bootstrap (pieces : List String) : List Message :=
  opening pieces ++ [.simple "COMMIT"]

theorem commit_not_mem_opening (pieces : List String) : .simple "COMMIT" ∉ opening pieces := by
  simp [opening, lockQuery]

theorem bootstrap_schema : ∃ pieces, IsSplit schema pieces ∧
    .simple "BEGIN" :: (Conversation.schemaMessages ++ [.simple "COMMIT"]) = bootstrap pieces := by
  obtain ⟨pieces, isSplit, statements⟩ := scriptStatements_eq schema
  refine ⟨pieces, isSplit, ?_⟩
  rw [Conversation.schemaMessages, statements]
  rfl

theorem lockQuery_before {pieces : List String} {n : Nat} {text : String}
    (found : (bootstrap pieces)[n]? = some (.prepared text [])) : 1 < n := by
  match n with
  | 0 => simp [bootstrap, opening] at found
  | 1 => simp [bootstrap, opening, lockQuery] at found
  | n + 2 => omega

theorem getElem?_of_rollback {own rollback : List Message} (rolled : rollback = [] ∨ rollback = [.simple "ROLLBACK"])
    {n : Nat} {message : Message} (other : message ≠ .simple "ROLLBACK") :
    (own ++ rollback)[n]? = some message ↔ own[n]? = some message := by
  have absent : message ∉ rollback := by
    obtain rfl | rfl := rolled
    · exact List.not_mem_nil
    · exact fun member => other (List.mem_singleton.mp member)
  rw [List.getElem?_append]
  split
  · rfl
  · rename_i beyond
    rw [List.getElem?_eq_none (Nat.le_of_not_lt beyond)]
    exact iff_of_false (fun found => absent (List.mem_of_getElem? found)) (fun found => nomatch found)

theorem ensureSchema_sends (replies : Nat → Reply) :
    ∃ pieces own rollback, IsSplit schema pieces ∧
      Sending (bootstrap pieces) replies (Conversation.ensureSchema.run.run replies).1 own ∧
      (Conversation.ensureSchema.run.run replies).2.filterMap Demand.message? = own ++ rollback ∧
      (GivesUp own (Conversation.ensureSchema.run.run replies).1 ∧ rollback = [.simple "ROLLBACK"] ∨
        ¬ GivesUp own (Conversation.ensureSchema.run.run replies).1 ∧ rollback = []) := by
  obtain ⟨pieces, isSplit, all⟩ := bootstrap_schema
  obtain ⟨own, given, sending, demands, givenUp⟩ :=
    Conversation.transaction_sends Conversation.schemaMessages replies
  rw [all] at sending
  refine ⟨pieces, own, given.filterMap Demand.message?, isSplit, sending, ?_, ?_⟩
  · rw [Conversation.ensureSchema, demands, List.filterMap_append, List.filterMap_map]
    congr 1
    exact List.filterMap_some
  · obtain ⟨gives, rfl⟩ | ⟨keeps, rfl⟩ := givenUp
    · exact .inl ⟨gives, rfl⟩
    · exact .inr ⟨keeps, rfl⟩

theorem ensureSchema_atomic (replies : Nat → Reply) :
    let outcome := (Conversation.ensureSchema.run.run replies).1
    let sent := (Conversation.ensureSchema.run.run replies).2.filterMap Demand.message?
    ∃ pieces own rollback, IsSplit schema pieces ∧
      own <+: bootstrap pieces ∧ sent = own ++ rollback ∧
      (GivesUp own outcome ∧ rollback = [.simple "ROLLBACK"] ∨ ¬ GivesUp own outcome ∧ rollback = []) ∧
      (∀ i, i + 1 < own.length → (replies i).Succeeds) ∧
      (outcome = .ok () → own = bootstrap pieces) ∧
      (∀ fault, outcome = .error fault →
        ∃ last, own.length = last + 1 ∧ (replies last).result = .error fault) ∧
      (∀ n, sent[n]? = some (.simple "COMMIT") → ∀ i < n, (replies i).Succeeds) ∧
      (∀ n text, sent[n]? = some (.prepared text []) →
        ∃ i < n, sent[i]? = some lockQuery ∧ (replies i).Succeeds) ∧
      (outcome = .ok () ↔ ∃ n, sent[n]? = some (.simple "COMMIT") ∧ (replies n).Succeeds) := by
  intro outcome sent
  obtain ⟨pieces, own, rollback, isSplit, sending, said, givenUp⟩ := ensureSchema_sends replies
  change sent = own ++ rollback at said
  have rolled : rollback = [] ∨ rollback = [.simple "ROLLBACK"] :=
    givenUp.elim (fun gives => .inr gives.2) fun keeps => .inl keeps.2
  have commit (n : Nat) : sent[n]? = some (.simple "COMMIT") ↔ own[n]? = some (.simple "COMMIT") := by
    rw [said]
    exact getElem?_of_rollback rolled (by simp)
  have before {n : Nat} {message : Message} (found : own[n]? = some message) (i : Nat) (earlier : i < n) :
      (replies i).Succeeds := by
    obtain ⟨inside, _⟩ := List.getElem?_eq_some_iff.mp found
    exact sending.succeeds_before (by omega)
  refine ⟨pieces, own, rollback, isSplit, sending.isPrefix, said, givenUp, fun i => sending.succeeds_before,
    fun succeeds => (sending.ok_iff.mp succeeds).1, fun fault => sending.last_fails, ?_, ?_, ?_⟩
  · intro n found
    exact before ((commit n).mp found)
  · intro n text found
    rw [said, getElem?_of_rollback rolled (by simp)] at found
    have behindLock := lockQuery_before (sending.getElem?_eq_some found)
    obtain ⟨inside, _⟩ := List.getElem?_eq_some_iff.mp found
    refine ⟨1, behindLock, ?_, before found 1 behindLock⟩
    rw [said, getElem?_of_rollback rolled (by simp [lockQuery]), List.getElem?_eq_getElem (by omega),
      sending.isPrefix.getElem]
    rfl
  · simp only [commit]
    exact sending.ok_iff_last (commit_not_mem_opening pieces)

end Larder.Store
