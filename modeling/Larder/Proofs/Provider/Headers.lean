import Larder.Proofs.Json.Reading
import Larder.Proofs.Named
import Larder.Proofs.Text.Order
import Larder.Provider.Exchange

namespace Larder.Provider

def spelled (key : String) : String :=
  String.ofList (key.toList.map Char.toLower)

def IsField (member : String × Json) : Prop :=
  ∃ text, member.2 = .text text ∧ (Http.headerName? member.1).isSome ∧ Http.isHeaderValue text

def AllFields (members : Named Json) : Prop :=
  ∀ member ∈ members, IsField member

inductive Faulty : String × Json → ProviderError → Prop
  | kind {key : String} {value : Json} (other : ∀ text, value ≠ .text text) :
      Faulty (key, value)
        (.configuration ("Default header " ++ Text.quoted key ++ " must have a string value."))
  | name {key text : String} (invalid : Http.headerName? key = none) : Faulty (key, .text text) .headerName
  | value {key text : String} (valid : (Http.headerName? key).isSome) (invalid : ¬ Http.isHeaderValue text) :
      Faulty (key, .text text) .headerValue

def FirstFault (members : Named Json) (fault : ProviderError) : Prop :=
  ∃ before member after, members = before ++ member :: after ∧ AllFields before ∧ Faulty member fault

def IsLastValue (members : Named Json) (name value : String) : Prop :=
  ∃ before key after, members = before ++ (key, .text value) :: after ∧ spelled key = name ∧
    ∀ later ∈ after, spelled later.1 ≠ name

variable {member : String × Json} {members : Named Json} {headers : Http.Headers} {fault : ProviderError}

/-! ## Single members -/

theorem headerName?_eq (key : String) :
    Http.headerName? key = if (Http.headerName? key).isSome then some (spelled key) else none := by
  unfold Http.headerName?
  dsimp only
  split <;> rfl

theorem isField_or_faulty (member : String × Json) : IsField member ∨ ∃ fault, Faulty member fault := by
  obtain ⟨key, value⟩ := member
  by_cases kind : ∃ text, value = .text text
  · obtain ⟨text, rfl⟩ := kind
    cases name : Http.headerName? key with
    | none => exact .inr ⟨_, .name name⟩
    | some found =>
        have valid : (Http.headerName? key).isSome := by rw [name]; rfl
        by_cases sound : Http.isHeaderValue text
        · exact .inl ⟨text, rfl, valid, sound⟩
        · exact .inr ⟨_, .value valid sound⟩
  · exact .inr ⟨_, .kind fun text same => kind ⟨text, same⟩⟩

theorem addHeaders_field (headers : Http.Headers) (members : Named Json) (field : IsField member) :
    ∃ text, member.2 = .text text ∧
      addHeaders headers (member :: members) = addHeaders (headers.put (spelled member.1) text) members := by
  obtain ⟨key, value⟩ := member
  obtain ⟨text, rfl, valid, sound⟩ := field
  refine ⟨text, rfl, ?_⟩
  rw [addHeaders, headerName?_eq, if_pos valid]
  exact if_pos sound

theorem addHeaders_faulty (faulty : Faulty member fault) :
    addHeaders headers (member :: members) = .error fault := by
  cases faulty with
  | kind other =>
      unfold addHeaders
      split
      next text => exact absurd rfl (other text)
      next => rfl
  | name invalid => rw [addHeaders, invalid]
  | value valid invalid =>
      rw [addHeaders, headerName?_eq, if_pos valid]
      exact if_neg invalid

/-! ## All members -/

theorem isLastValue_cons {text name value : String} (kind : member.2 = .text text) :
    IsLastValue (member :: members) name value ↔
      IsLastValue members name value ∨
        spelled member.1 = name ∧ text = value ∧ ∀ later ∈ members, spelled later.1 ≠ name := by
  constructor
  · rintro ⟨before, key, after, split, spells, last⟩
    cases before with
    | nil =>
        obtain ⟨rfl, rfl⟩ := List.cons.inj split
        exact .inr ⟨spells, (Json.text.inj kind).symm, last⟩
    | cons first before =>
        obtain ⟨rfl, rfl⟩ := List.cons.inj split
        exact .inl ⟨before, key, after, rfl, spells, last⟩
  · rintro (⟨before, key, after, rfl, spells, last⟩ | ⟨spells, rfl, last⟩)
    · exact ⟨member :: before, key, after, rfl, spells, last⟩
    · exact ⟨[], member.1, members, by rw [← kind]; rfl, spells, last⟩

theorem allFields_or_firstFault (members : Named Json) :
    AllFields members ∨ ∃ fault, FirstFault members fault := by
  induction members with
  | nil => exact .inl (List.forall_mem_nil _)
  | cons member rest ih =>
      obtain field | ⟨fault, faulty⟩ := isField_or_faulty member
      · obtain fields | ⟨fault, before, faulty, after, rfl, fields, found⟩ := ih
        · exact .inl (List.forall_mem_cons.mpr ⟨field, fields⟩)
        · exact .inr ⟨fault, member :: before, faulty, after, rfl,
            List.forall_mem_cons.mpr ⟨field, fields⟩, found⟩
      · exact .inr ⟨fault, [], member, rest, rfl, List.forall_mem_nil _, faulty⟩

theorem addHeaders_firstFault (found : FirstFault members fault) :
    addHeaders headers members = .error fault := by
  obtain ⟨before, member, after, rfl, fields, faulty⟩ := found
  induction before generalizing headers with
  | nil => exact addHeaders_faulty faulty
  | cons first before ih =>
      obtain ⟨field, fields⟩ := List.forall_mem_cons.mp fields
      obtain ⟨text, _, step⟩ := addHeaders_field headers (before ++ member :: after) field
      exact step.trans (ih fields)

theorem addHeaders_fields (fields : AllFields members) (ascending : headers.Ascending) :
    ∃ result, addHeaders headers members = .ok result ∧ result.Ascending ∧
      ∀ name value, (name, value) ∈ result ↔ IsLastValue members name value ∨
        (name, value) ∈ headers ∧ ∀ member ∈ members, spelled member.1 ≠ name := by
  induction members generalizing headers with
  | nil =>
      refine ⟨headers, rfl, ascending, fun name value => ?_⟩
      simp [IsLastValue]
  | cons member rest ih =>
      obtain ⟨field, fields⟩ := List.forall_mem_cons.mp fields
      obtain ⟨text, kind, step⟩ := addHeaders_field headers rest field
      obtain ⟨result, added, sorted, holds⟩ :=
        ih fields (Named.ascending_put (spelled member.1) text ascending)
      refine ⟨result, step.trans added, sorted, fun name value => ?_⟩
      rw [holds, isLastValue_cons kind, Named.mem_put ascending, List.forall_mem_cons]
      grind

theorem ascending_of_members {context : Json.Context} {tree : Json.Tree} {read : Named Json}
    (decoded : Json.Decoder.members context tree = .ok read) : read.Ascending := by
  unfold Json.Decoder.members at decoded
  split at decoded
  next list ending =>
    obtain ⟨object, decoded, kept⟩ := Json.bind_eq_ok_iff.mp decoded
    rw [Json.Decoder.json] at decoded
    obtain ⟨inner, _, decoded⟩ := Json.bind_eq_ok_iff.mp decoded
    obtain ⟨entries, _, decoded⟩ := Json.bind_eq_ok_iff.mp decoded
    split at decoded
    next =>
      cases decoded
      cases kept
      exact Named.ascending_ofList entries
    next => cases decoded
  next => cases decoded

/-! ## With the key of the caller -/

def bearer (apiKey : String) : String :=
  "Bearer " ++ apiKey

/-- The fields that members and a key make: every name once, with its last value. -/
def Collects (apiKey : String) (members : Named Json) (headers : Http.Headers) : Prop :=
  headers.Ascending ∧ ∀ name value, (name, value) ∈ headers ↔
    if name = "authorization" then value = bearer apiKey else IsLastValue members name value

variable {apiKey : String}

theorem authorizedHeaders_eq (apiKey : String) (members : Named Json) :
    authorizedHeaders apiKey members = (addHeaders [] members).bind fun headers =>
      if Http.isHeaderValue (bearer apiKey) then .ok (headers.put "authorization" (bearer apiKey))
      else .error .headerValue :=
  rfl

theorem authorizedHeaders_firstFault (apiKey : String) (found : FirstFault members fault) :
    authorizedHeaders apiKey members = .error fault := by
  rw [authorizedHeaders_eq, addHeaders_firstFault found]
  rfl

theorem authorizedHeaders_of_not_isHeaderValue (fields : AllFields members)
    (unsound : ¬ Http.isHeaderValue (bearer apiKey)) :
    authorizedHeaders apiKey members = .error .headerValue := by
  obtain ⟨result, added, _⟩ := addHeaders_fields fields List.Pairwise.nil
  rw [authorizedHeaders_eq, added]
  exact if_neg unsound

theorem authorizedHeaders_of_isHeaderValue (fields : AllFields members)
    (sound : Http.isHeaderValue (bearer apiKey)) :
    ∃ headers, authorizedHeaders apiKey members = .ok headers ∧ Collects apiKey members headers := by
  obtain ⟨result, added, sorted, holds⟩ := addHeaders_fields fields List.Pairwise.nil
  refine ⟨result.put "authorization" (bearer apiKey), ?_, Named.ascending_put _ _ sorted, fun name value => ?_⟩
  · rw [authorizedHeaders_eq, added]
    exact if_pos sound
  · rw [Named.mem_put sorted, holds]
    split <;> simp_all

theorem Collects.unique {other : Http.Headers} (collects : Collects apiKey members headers)
    (collects' : Collects apiKey members other) : headers = other :=
  collects.1.ext collects'.1 fun (name, value) => (collects.2 name value).trans (collects'.2 name value).symm

theorem FirstFault.not_allFields (found : FirstFault members fault) : ¬ AllFields members := by
  intro fields
  obtain ⟨result, added, _⟩ := addHeaders_fields fields List.Pairwise.nil
  cases added.symm.trans (addHeaders_firstFault found)

/-- The header fields that come of configured members, which stand in the order of the bytes of their
names, and of the key. -/
theorem authorizedHeaders_fields (apiKey : String) (members : Named Json) :
    ((authorizedHeaders apiKey members).isOk ↔ AllFields members ∧ Http.isHeaderValue (bearer apiKey)) ∧
    (∀ headers, authorizedHeaders apiKey members = .ok headers ↔
      (AllFields members ∧ Http.isHeaderValue (bearer apiKey)) ∧ Collects apiKey members headers) ∧
    (∀ fault, authorizedHeaders apiKey members = .error fault ↔
      FirstFault members fault ∨
        AllFields members ∧ ¬ Http.isHeaderValue (bearer apiKey) ∧ fault = .headerValue) ∧
    ∀ context tree read, Json.Decoder.members context tree = .ok read →
      read.Pairwise fun a b => Text.Utf8.encode a.1 < Text.Utf8.encode b.1 := by
  have inOrder (context : Json.Context) (tree : Json.Tree) (read : Named Json)
      (decoded : Json.Decoder.members context tree = .ok read) :
      read.Pairwise fun a b => Text.Utf8.encode a.1 < Text.Utf8.encode b.1 :=
    (ascending_of_members decoded).imp fun below => (Text.Utf8.encode_lt_iff _ _).mpr below
  obtain fields | ⟨found, first⟩ := allFields_or_firstFault members
  · have noFault (fault : ProviderError) : ¬ FirstFault members fault := fun first => first.not_allFields fields
    by_cases sound : Http.isHeaderValue (bearer apiKey)
    · obtain ⟨result, outcome, collects⟩ := authorizedHeaders_of_isHeaderValue fields sound
      rw [outcome]
      refine ⟨?_, ?_, ?_, inOrder⟩
      · simp [Except.isOk, Except.toBool, fields, sound]
      · intro headers
        rw [Except.ok.injEq]
        exact ⟨fun same => ⟨⟨fields, sound⟩, same ▸ collects⟩, fun ⟨_, other⟩ => collects.unique other⟩
      · simp [noFault, sound]
    · rw [authorizedHeaders_of_not_isHeaderValue fields sound]
      refine ⟨?_, ?_, ?_, inOrder⟩
      · simp [Except.isOk, Except.toBool, sound]
      · simp [sound]
      · simp [noFault, fields, sound, eq_comm]
  · have broken := first.not_allFields
    rw [authorizedHeaders_firstFault apiKey first]
    refine ⟨?_, ?_, ?_, inOrder⟩
    · simp [Except.isOk, Except.toBool, broken]
    · simp [broken]
    · intro fault
      simp only [broken, false_and, or_false, Except.error.injEq]
      refine ⟨fun same => same ▸ first, fun other => ?_⟩
      have outcome := authorizedHeaders_firstFault apiKey other
      rw [authorizedHeaders_firstFault apiKey first] at outcome
      exact Except.error.inj outcome

example : authorizedHeaders "key"
      [("AUTHORIZATION", .text "none"), ("X-Trace", .text "1"), ("x-trace", .text "2")] =
    .ok [("authorization", "Bearer key"), ("x-trace", "2")] := by rfl

end Larder.Provider
