import Larder.Proofs.Json.Surplus
import Larder.Proofs.Json.Written
import Larder.Provider.Extraction

namespace Larder.Provider
open Json (Legible render)

def enveloped (text : String) : Json :=
  .object [("choices", .list [.object [("message", .object [("content", .text text)])]])]

theorem spokenText?_enveloped (text : String) : spokenText? (enveloped text) = some text := rfl

theorem candidatesOfReply_of_spoken {reply : Json} {text : String} (spoken : spokenText? reply = some text) :
    candidatesOfReply reply = candidatesOfText text := by
  unfold candidatesOfReply
  rw [spoken]

theorem steady_decodeItems : Json.Steady Candidate.decodeItems := by
  have candidate : Candidate.record.IsSteady :=
    ⟨⟨⟨⟨⟨trivial, Json.steady_text⟩, Json.steady_text⟩, Json.steady_float⟩, Json.steady_text⟩, Json.steady_float⟩
  exact Json.Record.IsSteady.decode ⟨trivial, Json.steady_list candidate.decode⟩

/-- A reply has the same candidates, or none, if a conversation says its text; and where something is said,
that alone decides. -/
theorem candidatesOfReply_enveloped :
    (∀ reply, Legible reply → (reply.get? "items").isSome → spokenText? reply = none →
      (∃ candidates, candidatesOfReply reply = .ok candidates ∧
        candidatesOfReply (enveloped (render reply)) = .ok candidates) ∨
      ∃ fault fault', candidatesOfReply reply = .error fault ∧
        candidatesOfReply (enveloped (render reply)) = .error fault') ∧
    ∀ reply other text, spokenText? reply = some text → spokenText? other = some text →
      candidatesOfReply reply = candidatesOfReply other := by
  constructor
  · intro reply legible items silent
    obtain ⟨listed, there⟩ := Option.isSome_iff_exists.mp items
    have same := steady_decodeItems 127 .malformed .invalidLength (Json.Tree.ofJson reply)
    rw [candidatesOfReply_of_spoken (spokenText?_enveloped _)]
    unfold candidatesOfReply candidatesOfText
    rw [silent, there, Json.decodeText_of_spells _ legible.spells]
    unfold Json.decodeValue Json.Context.text Json.Context.value
    dsimp only
    cases fromValue : Candidate.decodeItems ⟨127, some .invalidLength⟩ (Json.Tree.ofJson reply) with
    | error fault =>
        cases fromText : Candidate.decodeItems ⟨127, some .malformed⟩ (Json.Tree.ofJson reply) with
        | error fault' => exact .inr ⟨_, _, rfl, rfl⟩
        | ok candidates => rw [fromValue, fromText] at same; cases same
    | ok candidates =>
        cases fromText : Candidate.decodeItems ⟨127, some .malformed⟩ (Json.Tree.ofJson reply) with
        | error fault' => rw [fromValue, fromText] at same; cases same
        | ok candidates' =>
            rw [fromValue, fromText] at same
            obtain rfl := Option.some.inj same
            exact .inl ⟨candidates', rfl, rfl⟩
  · intro reply other text spoken alsoSpoken
    rw [candidatesOfReply_of_spoken spoken, candidatesOfReply_of_spoken alsoSpoken]

namespace Samples

def milk : Json :=
  .object [("items", .list [
    .object [("name", .text "milk"), ("quantity", .number (.real 2.0)), ("raw_text", .text "2 milk")]])]

theorem milk_legible : Legible milk := by
  refine .object (List.forall_mem_singleton.mpr (.list (List.forall_mem_singleton.mpr (.object ?_))))
  rw [List.forall_mem_cons, List.forall_mem_cons, List.forall_mem_singleton]
  exact ⟨.text _, .real rfl, .text _⟩

def conversation : Json :=
  .object [("choices", .list [.object [("finish_reason", .text "stop"),
    ("message", .object [("content", .text "milk")])]])]

end Samples

open Samples in
theorem candidatesOfReply_enveloped_samples :
    Legible milk ∧ (milk.get? "items").isSome ∧ spokenText? milk = none ∧
      candidatesOfReply milk = .ok [⟨"2 milk", "milk", 2.0, "", 0.0⟩] ∧
      candidatesOfReply (enveloped (render milk)) = .ok [⟨"2 milk", "milk", 2.0, "", 0.0⟩] ∧
      spokenText? conversation = some "milk" ∧
      candidatesOfReply conversation = candidatesOfReply (enveloped "milk") := by
  have read : candidatesOfReply milk = .ok [⟨"2 milk", "milk", 2.0, "", 0.0⟩] := rfl
  refine ⟨milk_legible, rfl, rfl, read, ?_, rfl, ?_⟩
  · rcases candidatesOfReply_enveloped.1 milk milk_legible rfl rfl with ⟨found, here, there⟩ | ⟨_, _, here, _⟩
    · rw [there, ← here, read]
    · cases read.symm.trans here
  · exact candidatesOfReply_enveloped.2 conversation (enveloped "milk") "milk" rfl rfl

end Larder.Provider
