import Larder.Proofs.Json.Parts
import Larder.Proofs.Wire.Overrides

namespace Larder.Json

/-- Whether the texts of objects, each made of parts, are read alike without a `null` for one of the optional
values, and with plain members beside the known ones. -/
structure IsLenient {α : Type} (read : Decoder α) (optional known : List String) : Prop where
  parts : ∀ {text lead rest : String} {value : α}, decodeText read text = .ok value → IsBlank lead →
    text = lead ++ "\x7b" ++ rest → ∃ parts, IsObjectText text parts
  leave_out : ∀ {text shorter : String} {before after : List MemberText} {part : MemberText} {value : α},
    IsObjectText text (before ++ part :: after) → IsObjectText shorter (before ++ after) →
    (∃ name ∈ optional, part.content = some name) → part.tree = .null →
    decodeText read text = .ok value → decodeText read shorter = .ok value
  put_in : ∀ {text longer : String} {before extra after : List MemberText} {value : α},
    IsObjectText text (before ++ after) → IsObjectText longer (before ++ extra ++ after) →
    (∀ part ∈ extra, ∃ name, part.content = some name ∧ name ∉ known ∧ IsPlain part.tree) →
    decodeText read text = .ok value → decodeText read longer = .ok value

theorem decodeText_of_isObjectText {α : Type} (read : Decoder α) {text : String} {parts : List MemberText}
    (isText : IsObjectText text parts) :
    decodeText read text = read Context.text (.object (parts.map (·.entry)) .closed) :=
  decodeText_of_spells read isText.spells

theorem IsLenient.of_objects {α : Type} {read : Decoder α} {optional known : List String}
    (leaves : ∀ {before after : List (Option String × Tree)} {name : String} {value : α}, name ∈ optional →
      read Context.text (.object (before ++ (some name, .null) :: after) .closed) = .ok value →
      read Context.text (.object (before ++ after) .closed) = .ok value)
    (puts : ∀ {before extra after : List (Option String × Tree)} {value : α}, AreBeside known extra →
      read Context.text (.object (before ++ after) .closed) = .ok value →
      read Context.text (.object (before ++ extra ++ after) .closed) = .ok value) :
    IsLenient read optional known where
  parts := exists_isObjectText
  leave_out := by
    intro text shorter before after part value isText isShorter isOptional null decoded
    obtain ⟨name, listed, named⟩ := isOptional
    have entry : part.entry = (some name, .null) := Prod.ext named null
    rw [decodeText_of_isObjectText read isText, List.map_append, List.map_cons, entry] at decoded
    rw [decodeText_of_isObjectText read isShorter, List.map_append]
    exact leaves listed decoded
  put_in := by
    intro text longer before extra after value isText isLonger foreign decoded
    rw [decodeText_of_isObjectText read isText, List.map_append] at decoded
    rw [decodeText_of_isObjectText read isLonger, List.map_append, List.map_append]
    exact puts (List.forall_mem_map.mpr foreign) decoded

theorem enter_text : Context.text.enter = .ok ⟨126, some .malformed⟩ := rfl

end Larder.Json

namespace Larder
open Json (ReadsBack MemberText IsObjectText IsLenient decodeText render)

theorem Edit.isLenient : IsLenient Edit.decode Edit.fieldNames Edit.fieldNames :=
  .of_objects (fun _ decoded => decode_leave_out Json.enter_text decoded)
    (fun beside decoded => decode_put_in Json.enter_text beside decoded)

theorem Override.isLenient : IsLenient Override.decode Edit.fieldNames Override.fieldNames :=
  .of_objects (fun field decoded => decode_leave_out Json.enter_text
      (ne_of_mem_of_not_mem (Edit.mem_names_iff.mpr field) itemField_not_mem) decoded)
    (fun beside decoded => decode_put_in Json.enter_text beside decoded)

/-- Reading undoes writing for every value that goes over the wire with finite numbers, given that these are
read as they were printed; and edits and overrides are read alike whatever does not count in their texts. -/
theorem decodeText_render_wire {numbers : Float → Prop}
    (printed : ∀ x, numbers x → x.isFinite → ReadsBack x) :
    (∀ edit : Edit, (∀ x ∈ edit.quantity, numbers x ∧ x.isFinite) →
      decodeText Edit.decode (render edit.toJson) = .ok edit) ∧
    (∀ given : Override, (∀ x ∈ given.edit.quantity, numbers x ∧ x.isFinite) →
      decodeText Override.decode (render given.toJson) = .ok given) ∧
    (∀ overrides : List Override, (∀ given ∈ overrides, ∀ x ∈ given.edit.quantity, numbers x ∧ x.isFinite) →
      decodeText Override.decodeAll (render (Override.requestJson overrides)) = .ok overrides) ∧
    (∀ confirmation : Confirmation,
      decodeText Confirmation.decode (render confirmation.toJson) = .ok confirmation) ∧
    (∀ receipt : Receipt, decodeText Receipt.decode (render receipt.toJson) = .ok receipt) ∧
    (∀ candidate : Candidate, (numbers candidate.quantity ∧ candidate.quantity.isFinite) →
        (numbers candidate.confidence ∧ candidate.confidence.isFinite) →
      decodeText Candidate.decode (render candidate.toJson) = .ok candidate) ∧
    (∀ resolution : Resolution, (numbers resolution.confidence ∧ resolution.confidence.isFinite) →
      decodeText Resolution.decode (render resolution.toJson) = .ok resolution) ∧
    IsLenient Edit.decode Edit.fieldNames Edit.fieldNames ∧
    IsLenient Override.decode Edit.fieldNames Override.fieldNames := by
  have readsBack {x : Float} (known : numbers x ∧ x.isFinite) : ReadsBack x := printed x known.1 known.2
  refine ⟨fun edit finite => ?_, fun given finite => ?_, fun overrides finite => ?_, fun confirmation => ?_,
    fun receipt => ?_, fun candidate finiteQuantity finiteConfidence => ?_, fun resolution finite => ?_,
    Edit.isLenient, Override.isLenient⟩
  · have quantity : ∀ x ∈ edit.quantity, ReadsBack x := fun x given => readsBack (finite x given)
    exact Json.decodeText_render (Edit.legible_toJson quantity) (Edit.yields_toJson quantity) (by decide)
  · have quantity : ∀ x ∈ given.edit.quantity, ReadsBack x := fun x there => readsBack (finite x there)
    exact Json.decodeText_render (Override.legible_toJson quantity)
      (Override.yields_toJson quantity) (by decide)
  · have quantities : ∀ given ∈ overrides, ∀ x ∈ given.edit.quantity, ReadsBack x :=
      fun given listed x there => readsBack (finite given listed x there)
    exact Json.decodeText_render (Override.legible_requestJson quantities)
      (Override.yields_requestJson quantities) (by decide)
  · exact Json.decodeText_render confirmation.legible_toJson confirmation.yields_toJson (by decide)
  · exact Json.decodeText_render receipt.legible_toJson receipt.yields_toJson (by decide)
  · have quantity := readsBack finiteQuantity
    have confidence := readsBack finiteConfidence
    exact Json.decodeText_render (Candidate.legible_toJson quantity confidence)
      (Candidate.yields_toJson quantity confidence) (by decide)
  · have confidence := readsBack finite
    exact Json.decodeText_render (Resolution.legible_toJson confidence)
      (Resolution.yields_toJson confidence) (by decide)

namespace Samples

def twoKilograms : Override :=
  ⟨⟨7⟩, ⟨none, some 2.0, some "kg"⟩⟩

def itemPart : MemberText :=
  ⟨"\"staged_item_id\"", some "staged_item_id", " \"00000000-0000-0000-0000-000000000007\"",
    .text (some "00000000-0000-0000-0000-000000000007")⟩

def nullPart : MemberText :=
  ⟨"\"unit\"", some "unit", "null", .null⟩

def notePart : MemberText :=
  ⟨"\"note\"", some "note", "\"fresh\"", .text (some "fresh")⟩

def objectText (parts : List MemberText) : String :=
  "\x7b" ++ ",".intercalate (parts.map (·.written)) ++ "\x7d"

theorem isObjectText_objectText {parts : List MemberText} (sound : ∀ part ∈ parts, part.IsSound) :
    IsObjectText (objectText parts) parts :=
  ⟨sound, "", "", "", rfl, rfl, rfl, by simp [objectText]⟩

end Samples

open Samples in
theorem decodeText_render_wire_samples :
    ReadsBack 2.0 ∧
    decodeText Override.decode (render twoKilograms.toJson) = .ok twoKilograms ∧
    decodeText Candidate.decode (render (Candidate.toJson ⟨"2 milk", "milk", 2.0, "", 2.0⟩)) =
      .ok ⟨"2 milk", "milk", 2.0, "", 2.0⟩ ∧
    decodeText Override.decode (objectText [itemPart, nullPart]) = .ok ⟨⟨7⟩, .none⟩ ∧
    decodeText Override.decode (objectText [itemPart]) = .ok ⟨⟨7⟩, .none⟩ ∧
    decodeText Override.decode (objectText [itemPart, notePart]) = .ok ⟨⟨7⟩, .none⟩ := by
  have two : ReadsBack 2.0 := rfl
  have finite : (2.0 : Float).isFinite := two.spells.2
  have printed : ∀ x : Float, x = 2.0 → x.isFinite → ReadsBack x := fun x same _ => same ▸ two
  obtain ⟨_, overrides, _, _, _, candidates, _, _, lenient⟩ := decodeText_render_wire printed
  obtain ⟨item, null, note⟩ : itemPart.IsSound ∧ nullPart.IsSound ∧ notePart.IsSound :=
    ⟨⟨rfl, rfl⟩, ⟨rfl, rfl⟩, ⟨rfl, rfl⟩⟩
  have full : IsObjectText (objectText [itemPart, nullPart]) ([itemPart] ++ nullPart :: []) :=
    isObjectText_objectText (List.forall_mem_cons.mpr ⟨item, List.forall_mem_singleton.mpr null⟩)
  have short : IsObjectText (objectText [itemPart]) ([itemPart] ++ []) :=
    isObjectText_objectText (List.forall_mem_singleton.mpr item)
  have long : IsObjectText (objectText [itemPart, notePart]) ([itemPart] ++ [notePart] ++ []) :=
    isObjectText_objectText (List.forall_mem_cons.mpr ⟨item, List.forall_mem_singleton.mpr note⟩)
  have read : decodeText Override.decode (objectText [itemPart, nullPart]) = .ok ⟨⟨7⟩, .none⟩ := rfl
  have shorter : decodeText Override.decode (objectText [itemPart]) = .ok ⟨⟨7⟩, .none⟩ :=
    lenient.leave_out full short ⟨"unit", by decide, rfl⟩ rfl read
  refine ⟨two, ?_, candidates _ ⟨rfl, finite⟩ ⟨rfl, finite⟩, read, shorter, ?_⟩
  · exact overrides twoKilograms fun x given => Option.some.inj given ▸ ⟨rfl, finite⟩
  · exact lenient.put_in short long (List.forall_mem_singleton.mpr ⟨"note", rfl, by decide, .text _⟩) shorter

end Larder
