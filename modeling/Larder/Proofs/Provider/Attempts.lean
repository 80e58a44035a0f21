import Larder.Provider.Extraction

namespace Larder.Provider

inductive Rejected : Reply → ProviderError → Prop
  | unread {body : List UInt8} {value : Json} {fault : ProviderError} (parsed : Json.parse body = .ok value)
      (unread : candidatesOfReply value = .error fault) : Rejected (.response 200 body) fault

inductive Settles : Reply → Except ProviderError (List Candidate) → Prop
  | read {body : List UInt8} {value : Json} {candidates : List Candidate}
      (parsed : Json.parse body = .ok value) (read : candidatesOfReply value = .ok candidates) :
      Settles (.response 200 body) (.ok candidates)
  | refused {status : Nat} (body : List UInt8) (other : status ≠ 200) :
      Settles (.response status body) (.error
        (.status status (String.ofList ((Text.Utf8.decodeLossy body).toList.take 512))))
  | garbled {body : List UInt8} {fault : DecodeError} (unparsed : Json.parse body = .error fault) :
      Settles (.response 200 body) (.error (.transport .unreadable))
  | lost (fault : TransportFault) : Settles (.failure fault) (.error (.transport fault))

def IsRejected (reply : Reply) : Prop :=
  ∃ fault, Rejected reply fault

/-! ## Single replies -/

theorem judge_of_rejected {reply : Reply} {fault : ProviderError} (rejected : Rejected reply fault) :
    judge reply = .rejected fault := by
  cases rejected with
  | unread parsed unread =>
      unfold judge acceptedBody
      simp only [List.contains_cons, beq_self_eq_true, Bool.true_or, if_true, parsed, unread]

theorem judge_of_settles {reply : Reply} {outcome : Except ProviderError (List Candidate)}
    (settles : Settles reply outcome) : judge reply = .final outcome := by
  cases settles with
  | read parsed read =>
      unfold judge acceptedBody
      simp only [List.contains_cons, beq_self_eq_true, Bool.true_or, if_true, parsed, read]
  | refused body other =>
      unfold judge acceptedBody
      simp only [List.contains_cons, List.contains_nil, beq_eq_false_iff_ne.mpr other, Bool.or_self,
        Bool.false_eq_true, if_false]
      rfl
  | garbled unparsed =>
      unfold judge acceptedBody
      simp only [List.contains_cons, beq_self_eq_true, Bool.true_or, if_true, unparsed]
  | lost fault => rfl

theorem settles_or_rejected (reply : Reply) : (∃ outcome, Settles reply outcome) ∨ IsRejected reply := by
  cases reply with
  | failure fault => exact .inl ⟨_, .lost fault⟩
  | response status body =>
      by_cases accepted : status = 200
      · subst accepted
        cases parsed : Json.parse body with
        | error fault => exact .inl ⟨_, .garbled parsed⟩
        | ok value =>
            cases read : candidatesOfReply value with
            | ok candidates => exact .inl ⟨_, .read parsed read⟩
            | error fault => exact .inr ⟨fault, .unread parsed read⟩
      · exact .inl ⟨_, .refused body accepted⟩

theorem Settles.unique {reply : Reply} {outcome other : Except ProviderError (List Candidate)}
    (settles : Settles reply outcome) (also : Settles reply other) : other = outcome :=
  Verdict.final.inj ((judge_of_settles also).symm.trans (judge_of_settles settles))

theorem Settles.not_isRejected {reply : Reply} {outcome : Except ProviderError (List Candidate)}
    (settles : Settles reply outcome) : ¬ IsRejected reply := by
  rintro ⟨fault, rejected⟩
  cases (judge_of_settles settles).symm.trans (judge_of_rejected rejected)

/-! ## Sequences of replies -/

variable {request : Request} {replies : Nat → Reply}

theorem run_attempts_of_settles {outcome : Except ProviderError (List Candidate)} {more k : Nat}
    (within : k ≤ more) (before : ∀ j < k, IsRejected (replies j)) (settles : Settles (replies k) outcome) :
    (attempts request more).run replies = (outcome, List.replicate (k + 1) request) := by
  -- Behind a rejected reply stands the same exchange with one attempt less and the later replies.
  induction k generalizing more replies with
  | zero =>
      have final := judge_of_settles settles
      cases more with
      | zero => simp [attempts, attempt, final]
      | succ more => simp [attempts, attempt, final]
  | succ k ih =>
      obtain ⟨more, rfl⟩ : ∃ rest, more = rest + 1 := ⟨more - 1, by omega⟩
      obtain ⟨fault, rejected⟩ := before 0 (Nat.zero_lt_succ k)
      have fewer : k ≤ more := Nat.le_of_succ_le_succ within
      have later := ih fewer (fun j lower => before (j + 1) (by omega)) settles
      simp [attempts, attempt, judge_of_rejected rejected, later, List.replicate_succ]

theorem run_attempts_of_rejected {fault : ProviderError} {more : Nat}
    (before : ∀ j < more, IsRejected (replies j)) (last : Rejected (replies more) fault) :
    (attempts request more).run replies = (.error fault, List.replicate (more + 1) request) := by
  induction more generalizing replies with
  | zero => simp [attempts, attempt, judge_of_rejected last]
  | succ more ih =>
      obtain ⟨_, rejected⟩ := before 0 (Nat.zero_lt_succ more)
      have later := ih (fun j lower => before (j + 1) (by omega)) last
      simp [attempts, attempt, judge_of_rejected rejected, later, List.replicate_succ]

theorem address_of_not_isOk {apiBase path : String} (unreached : (address apiBase path).isOk = false) :
    address apiBase path = .error (.transport .unsendable) := by
  unfold address at unreached ⊢
  split at unreached
  next url parsed =>
    split at unreached
    next reachable => cases unreached
    next unreachable => rw [if_neg unreachable]
  next => rfl

theorem extractionRequest_eq {extractor : ExtractorConfig} {headers : Http.Headers} {url : Url}
    (authorized : authorizedHeaders extractor.apiKey extractor.defaultHeaders = .ok headers)
    (addressed : address extractor.apiBase extractor.path = .ok url) (text : String) :
    extractionRequest extractor text = .ok (post url headers (extractionBody extractor text)) := by
  unfold extractionRequest
  rw [authorized, addressed]
  rfl

/-- What an extraction sends and returns: nothing but the fault of its header fields or else of its
address; or one request until a reply settles the exchange, three times at most. -/
theorem run_extract (extractor : ExtractorConfig) (text : String) (replies : Nat → Reply) :
    (∀ fault, authorizedHeaders extractor.apiKey extractor.defaultHeaders = .error fault →
      (extract extractor text).run replies = (.error fault, [])) ∧
    (∀ headers fault, authorizedHeaders extractor.apiKey extractor.defaultHeaders = .ok headers →
      address extractor.apiBase extractor.path = .error fault →
      (extract extractor text).run replies = (.error fault, [])) ∧
    (∀ headers url, authorizedHeaders extractor.apiKey extractor.defaultHeaders = .ok headers →
      address extractor.apiBase extractor.path = .ok url →
      let request := post url headers (extractionBody extractor text)
      (∀ k < 3, (∀ j < k, IsRejected (replies j)) → ¬ IsRejected (replies k) →
        ∃ outcome, Settles (replies k) outcome ∧ (∀ other, Settles (replies k) other → other = outcome) ∧
          (extract extractor text).run replies = (outcome, List.replicate (k + 1) request)) ∧
      ((∀ k < 3, IsRejected (replies k)) →
        ∃ fault, Rejected (replies 2) fault ∧
          (extract extractor text).run replies = (.error fault, List.replicate 3 request))) := by
  refine ⟨?_, ?_, ?_⟩
  · intro fault unauthorized
    unfold extract extractionRequest
    rw [unauthorized]
    rfl
  · intro headers fault authorized misaddressed
    unfold extract extractionRequest
    rw [authorized, misaddressed]
    rfl
  · intro headers url authorized addressed request
    have exchange : extract extractor text = attempts request 2 := by
      unfold extract
      rw [extractionRequest_eq authorized addressed]
      rfl
    rw [exchange]
    constructor
    · intro k within before kept
      obtain ⟨outcome, settles⟩ := (settles_or_rejected (replies k)).resolve_right kept
      exact ⟨outcome, settles, fun _ => settles.unique, run_attempts_of_settles (by omega) before settles⟩
    · intro all
      obtain ⟨fault, rejected⟩ := all 2 (by omega)
      exact ⟨fault, rejected, run_attempts_of_rejected (fun j lower => all j (by omega)) rejected⟩

/-! ## Some replies -/

namespace Samples

def extractor : ExtractorConfig :=
  ⟨"provider", "http://localhost", "key", "/v1/chat/completions", "model", none, 1000, []⟩

def nothing : Reply := .response 200 [0x7B, 0x7D]

def busy : Reply := .response 429 [0x73, 0x6C, 0x6F, 0x77]

theorem nothing_rejected : Rejected nothing (.response "Extractor response is missing JSON content.") :=
  .unread rfl rfl

theorem busy_settles : Settles busy (.error (.status 429 "slow")) :=
  .refused [0x73, 0x6C, 0x6F, 0x77] (by decide)

theorem exists_url : ∃ url, address extractor.apiBase extractor.path = .ok url := by
  have sound : (address extractor.apiBase extractor.path).isOk = true := by decide +kernel
  cases addressed : address extractor.apiBase extractor.path with
  | error fault => rw [addressed] at sound; cases sound
  | ok url => exact ⟨url, rfl⟩

end Samples

open Samples in
theorem run_extract_samples :
    (extract { extractor with apiKey := "\n", apiBase := "localhost" } "milk").run (fun _ => busy) =
      (.error .headerValue, []) ∧
    (extract { extractor with apiBase := "localhost" } "milk").run (fun _ => busy) =
      (.error (.transport .unsendable), []) ∧
    ∃ request,
      (extract extractor "milk").run (fun n => if n = 0 then nothing else busy) =
        (.error (.status 429 "slow"), [request, request]) ∧
      (extract extractor "milk").run (fun _ => nothing) =
        (.error (.response "Extractor response is missing JSON content."), [request, request, request]) := by
  refine ⟨?_, ?_, ?_⟩
  · exact (run_extract _ "milk" _).1 .headerValue rfl
  · have unreached : (address "localhost" extractor.path).isOk = false := by decide +kernel
    exact (run_extract _ "milk" _).2.1 [("authorization", "Bearer key")] _ rfl (address_of_not_isOk unreached)
  · obtain ⟨url, addressed⟩ := exists_url
    have authorized : authorizedHeaders extractor.apiKey extractor.defaultHeaders =
        .ok [("authorization", "Bearer key")] := rfl
    have settled := ((run_extract extractor "milk" fun n => if n = 0 then nothing else busy).2.2 _ url
      authorized addressed).1 1 (by omega)
      (fun j lower => ⟨_, by rw [if_pos (by omega)]; exact nothing_rejected⟩)
      busy_settles.not_isRejected
    have exhausted := ((run_extract extractor "milk" fun _ => nothing).2.2 _ url authorized addressed).2
      fun _ _ => ⟨_, nothing_rejected⟩
    obtain ⟨outcome, settles, _, runs⟩ := settled
    obtain ⟨fault, rejected, runsOut⟩ := exhausted
    have sameOutcome := busy_settles.unique settles
    have sameFault := Verdict.rejected.inj
      ((judge_of_rejected rejected).symm.trans (judge_of_rejected nothing_rejected))
    refine ⟨post url [("authorization", "Bearer key")] (extractionBody extractor "milk"), ?_, ?_⟩
    · rw [runs, sameOutcome]
      rfl
    · rw [runsOut, sameFault]
      rfl

end Larder.Provider
