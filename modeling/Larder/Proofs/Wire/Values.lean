import Larder.Proofs.Json.Records
import Larder.Proofs.Json.Written
import Larder.Proofs.Text.Identifiers
import Larder.Wire.Ingestion

namespace Larder.Json

/-- Reads a tree as a value wherever so many levels may still be entered. -/
def Yields {α : Type} (read : Decoder α) (levels : Nat) (tree : Tree) (value : α) : Prop :=
  ∀ context : Context, levels ≤ context.levels → read context tree = .ok value

theorem decodeText_render {α : Type} {read : Decoder α} {levels : Nat} {json : Json} {value : α}
    (legible : Legible json) (yields : Yields read levels (Tree.ofJson json) value) (shallow : levels ≤ 127) :
    decodeText read (render json) = .ok value := by
  rw [decodeText_of_spells read legible.spells]
  exact yields Context.text shallow

theorem exists_enter {levels : Nat} {context : Context} (deep : levels + 1 ≤ context.levels) :
    ∃ inner, context.enter = .ok inner ∧ levels ≤ inner.levels := by
  obtain ⟨remaining, surplus⟩ := context
  cases remaining with
  | zero => cases deep
  | succ inner => exact ⟨⟨inner, surplus⟩, rfl, Nat.le_of_succ_le_succ deep⟩

/-! ## Single values -/

theorem yields_text (text : String) : Yields Decoder.text 0 (.text (some text)) text :=
  fun _ _ => rfl

theorem yields_bool (value : Bool) : Yields Decoder.bool 0 (.bool value) value :=
  fun _ _ => rfl

theorem ReadsBack.ofDouble {value : Float} (same : ReadsBack value) : Json.ofDouble value = .ofFloat value :=
  if_pos same.spells.2

theorem yields_double {value : Float} (same : ReadsBack value) :
    Yields Decoder.float 0 (Tree.ofJson (.ofDouble value)) value := by
  rw [same.ofDouble]
  exact fun _ _ => rfl

theorem yields_uuid (id : Uuid) : Yields Decoder.uuid 0 (.text (some id.toText)) id := by
  intro context _
  unfold Decoder.uuid
  simp only [Uuid.parse?_toText]

theorem yields_status (status : JobStatus) : Yields JobStatus.decode 0 (.text (some status.name)) status := by
  intro context _
  cases status <;> rfl

theorem yields_list {α : Type} {read : Decoder α} {levels : Nat} {encode : α → Tree} {values : List α}
    (each : ∀ value ∈ values, Yields read levels (encode value) value) :
    Yields (Decoder.list read) (levels + 1) (.list (values.map encode) .closed) values := by
  intro context deep
  obtain ⟨inner, enters, deepInside⟩ := exists_enter deep
  have items : Decoder.items (read inner) (values.map encode) = .ok values := by
    induction values with
    | nil => rfl
    | cons value values ih =>
        obtain ⟨first, rest⟩ := List.forall_mem_cons.mp each
        rw [List.map_cons, Decoder.items, first inner deepInside, ih rest]
        rfl
  exact bind_eq_ok_iff.mpr ⟨inner, enters, bind_eq_ok_iff.mpr ⟨values, items, rfl⟩⟩

/-! ## Records -/

namespace Record

variable {α β : Type} {context : Context} {members : List (Option String × Tree)} {record : Record α}
  {value : α} {levels : Nat}

theorem yields (fresh : record.IsFresh) (admits : record.Admits members)
    (fills : ∀ context : Context, levels ≤ context.levels → Fills context members record value) :
    Yields record.decode (levels + 1) (.object members .closed) value := by
  intro context deep
  obtain ⟨inner, enters, deepInside⟩ := exists_enter deep
  exact (decode_object_iff fresh enters).mpr ⟨fills inner deepInside, admits⟩

theorem admits_of_names (known : ∀ name ∈ members.map (·.1), name ∈ record.names.map some) :
    record.Admits members := by
  intro member listed
  obtain ⟨name, field, named⟩ := List.mem_map.mp (known member.1 (List.mem_map_of_mem listed))
  exact ⟨name, named.symm, .inl field⟩

theorem Fills.give {earlier : Record (β → α)} {build : β → α} {name : String} {read : Decoder β}
    {absent : Option β} {tree : Tree} {own : β} (before : Fills context members earlier build)
    (decoded : read context tree = .ok own) (only : valuesOf name members = [tree]) (made : build own = value) :
    Fills context members (.field earlier name read absent none) value :=
  made ▸ .given before only decoded

theorem Fills.optional {earlier : Record (Option β → α)} {build : Option β → α} {name : String}
    {read : Decoder β} {given : Option β} {encode : β → Tree} (before : Fills context members earlier build)
    (values : valuesOf name members = (given.map encode).toList)
    (each : ∀ own ∈ given, encode own ≠ .null ∧ read context (encode own) = .ok own)
    (made : build given = value) :
    Fills context members (.field earlier name (Decoder.optional read) (some none) none) value := by
  subst made
  cases given with
  | none => exact .absent none before values
  | some own =>
      obtain ⟨solid, decoded⟩ := each own rfl
      have reads : Decoder.optional read context (encode own) = (read context (encode own)).map some := by
        generalize encode own = tree at solid
        cases tree with
        | null => exact absurd rfl solid
        | _ => rfl
      refine .given before values ?_
      rw [reads, decoded]
      rfl

end Record

end Larder.Json

namespace Larder
open Json (Yields Legible ReadsBack Tree)
open Json.Record (Fills)

/-! ## Candidates and ingredients -/

namespace Candidate

theorem legible_toJson {candidate : Candidate} (quantity : ReadsBack candidate.quantity)
    (confidence : ReadsBack candidate.confidence) : Legible candidate.toJson := by
  unfold toJson
  rw [quantity.ofDouble, confidence.ofDouble]
  refine .object ?_
  simp only [List.forall_mem_cons, List.not_mem_nil, false_imp_iff, implies_true, and_true]
  exact ⟨.text _, .text _, .real quantity, .text _, .real confidence⟩

theorem isFresh_record : record.IsFresh := by
  simp [record, Json.Record.required, Json.Record.optional, Json.Record.IsFresh, Json.Record.names]

theorem yields_toJson {candidate : Candidate} (quantity : ReadsBack candidate.quantity)
    (confidence : ReadsBack candidate.confidence) :
    Yields decode 1 (Tree.ofJson candidate.toJson) candidate := by
  refine Json.Record.yields isFresh_record (Json.Record.admits_of_names ?_) fun context _ => ?_
  · simp [Tree.ofMembers, record, Json.Record.names, Json.Record.required, Json.Record.optional]
  · have zero : 0 ≤ context.levels := Nat.zero_le _
    exact .give (.give (.give (.give (.give (.done Candidate.mk)
      (Json.yields_text candidate.rawText context zero) rfl rfl)
      (Json.yields_text candidate.name context zero) rfl rfl)
      (Json.yields_double quantity context zero) rfl rfl)
      (Json.yields_text candidate.unit context zero) rfl rfl)
      (Json.yields_double confidence context zero) rfl rfl

end Candidate

namespace Ingredient

theorem isFresh_record : record.IsFresh := by
  simp [record, Json.Record.required, Json.Record.IsFresh, Json.Record.names]

theorem yields_toJson (ingredient : Ingredient) :
    Yields decode 1 (Tree.ofJson ingredient.toJson) ingredient := by
  refine Json.Record.yields isFresh_record (Json.Record.admits_of_names ?_) fun context _ => ?_
  · simp [Tree.ofMembers, record, Json.Record.names, Json.Record.required]
  · have zero : 0 ≤ context.levels := Nat.zero_le _
    exact .give (.give (.done Ingredient.mk)
      (Json.yields_uuid ingredient.id context zero) rfl rfl)
      (Json.yields_text ingredient.name context zero) rfl rfl

end Ingredient

namespace Resolution

theorem legible_toJson {resolution : Resolution} (confidence : ReadsBack resolution.confidence) :
    Legible resolution.toJson := by
  unfold toJson Ingredient.toJson
  rw [confidence.ofDouble]
  refine .object ?_
  simp only [List.forall_mem_cons, List.not_mem_nil, false_imp_iff, implies_true, and_true]
  refine ⟨.object ?_, .real confidence, .bool _⟩
  simp only [List.forall_mem_cons, List.not_mem_nil, false_imp_iff, implies_true, and_true]
  exact ⟨.text _, .text _⟩

theorem isFresh_record : record.IsFresh := by
  simp [record, Json.Record.required, Json.Record.optional, Json.Record.IsFresh, Json.Record.names]

theorem yields_toJson {resolution : Resolution} (confidence : ReadsBack resolution.confidence) :
    Yields decode 2 (Tree.ofJson resolution.toJson) resolution := by
  refine Json.Record.yields isFresh_record (Json.Record.admits_of_names ?_) fun context deep => ?_
  · simp [Tree.ofMembers, record, Json.Record.names, Json.Record.required, Json.Record.optional]
  · have zero : 0 ≤ context.levels := Nat.zero_le _
    exact .give (.give (.give (.done Resolution.mk)
      (Ingredient.yields_toJson resolution.ingredient context deep) rfl rfl)
      (Json.yields_double confidence context zero) rfl rfl)
      (Json.yields_bool resolution.created context zero) rfl rfl

end Resolution

/-! ## Receipts and confirmations -/

namespace Receipt

theorem legible_toJson (receipt : Receipt) : Legible receipt.toJson := by
  refine .object ?_
  simp only [List.forall_mem_cons, List.not_mem_nil, false_imp_iff, implies_true, and_true]
  exact ⟨.text _, .text _⟩

theorem isFresh_record : record.IsFresh := by
  simp [record, Json.Record.required, Json.Record.IsFresh, Json.Record.names]

theorem yields_toJson (receipt : Receipt) : Yields decode 1 (Tree.ofJson receipt.toJson) receipt := by
  refine Json.Record.yields isFresh_record (Json.Record.admits_of_names ?_) fun context _ => ?_
  · simp [Tree.ofMembers, record, Json.Record.names, Json.Record.required]
  · have zero : 0 ≤ context.levels := Nat.zero_le _
    exact .give (.give (.done Receipt.mk)
      (Json.yields_uuid receipt.jobId context zero) rfl rfl)
      (Json.yields_status receipt.status context zero) rfl rfl

end Receipt

namespace Confirmation

theorem legible_toJson (confirmation : Confirmation) : Legible confirmation.toJson := by
  have ids (listed : List Uuid) : Legible (.list (listed.map .ofUuid)) :=
    .list (List.forall_mem_map.mpr fun _ _ => .text _)
  refine .object ?_
  simp only [List.forall_mem_cons, List.not_mem_nil, false_imp_iff, implies_true, and_true]
  exact ⟨.text _, .text _, ids _, ids _⟩

theorem isFresh_record : record.IsFresh := by
  simp [record, Json.Record.required, Json.Record.IsFresh, Json.Record.names]

theorem yields_ids (ids : List Uuid) :
    Yields (Json.Decoder.list Json.Decoder.uuid) 1 (Tree.ofJson (.list (ids.map .ofUuid))) ids := by
  rw [Tree.ofJson, Json.ofItems_eq, List.map_map]
  exact Json.yields_list fun id _ => Json.yields_uuid id

theorem yields_toJson (confirmation : Confirmation) :
    Yields decode 2 (Tree.ofJson confirmation.toJson) confirmation := by
  refine Json.Record.yields isFresh_record (Json.Record.admits_of_names ?_) fun context deep => ?_
  · simp [Tree.ofMembers, record, Json.Record.names, Json.Record.required]
  · have zero : 0 ≤ context.levels := Nat.zero_le _
    exact .give (.give (.give (.give (.done Confirmation.mk)
      (Json.yields_uuid confirmation.jobId context zero) rfl rfl)
      (Json.yields_status confirmation.status context zero) rfl rfl)
      (yields_ids confirmation.itemIds context deep) rfl rfl)
      (yields_ids confirmation.skipped context deep) rfl rfl

end Confirmation

end Larder
