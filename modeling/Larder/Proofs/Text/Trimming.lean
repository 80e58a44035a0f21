import Larder.Text.Blank
import Mathlib.Data.List.DropRight

namespace Larder.Text

def IsTrimmed (text : String) : Prop :=
  (∀ c ∈ text.toList.head?, isBlank c = false) ∧ ∀ c ∈ text.toList.getLast?, isBlank c = false

theorem trimChars_eq (chars : List Char) :
    trimChars chars = (chars.dropWhile isBlank).rdropWhile isBlank := rfl

theorem head_trimChars {chars : List Char} {c : Char} (first : c ∈ (trimChars chars).head?) :
    isBlank c = false := by
  obtain ⟨rest, joined⟩ : trimChars chars <+: chars.dropWhile isBlank :=
    List.rdropWhile_prefix isBlank _
  have kept : (chars.dropWhile isBlank).head? = some c := by
    rw [← joined, List.head?_append, Option.mem_def.mp first, Option.some_or]
  have notDropped := List.head?_dropWhile_not isBlank chars
  rw [kept] at notDropped
  exact notDropped

theorem getLast_trimChars {chars : List Char} {c : Char} (last : c ∈ (trimChars chars).getLast?) :
    isBlank c = false := by
  have notDropped := List.head?_dropWhile_not isBlank (chars.dropWhile isBlank).reverse
  rw [trimChars, List.getLast?_reverse] at last
  rw [Option.mem_def.mp last] at notDropped
  exact notDropped

theorem trim_isTrimmed (text : String) : IsTrimmed (trim text) := by
  constructor
  · intro c first
    rw [trim_toList] at first
    exact head_trimChars first
  · intro c last
    rw [trim_toList] at last
    exact getLast_trimChars last

theorem trimChars_eq_self {chars : List Char} (first : ∀ c ∈ chars.head?, isBlank c = false)
    (last : ∀ c ∈ chars.getLast?, isBlank c = false) : trimChars chars = chars := by
  have front : chars.dropWhile isBlank = chars := by
    cases chars with
    | nil => rfl
    | cons c rest => exact List.dropWhile_cons_of_neg (by simp [first c rfl])
  rw [trimChars_eq, front, List.rdropWhile_eq_self_iff]
  intro nonempty
  simp [last _ (List.getLast?_eq_some_getLast nonempty)]

theorem trim_eq_self {text : String} (trimmed : IsTrimmed text) : trim text = text := by
  apply String.toList_injective
  rw [trim_toList]
  exact trimChars_eq_self trimmed.1 trimmed.2

theorem isTrimmed_iff {text : String} : IsTrimmed text ↔ trim text = text :=
  ⟨trim_eq_self, fun same => same ▸ trim_isTrimmed text⟩

@[simp] theorem trim_trim (text : String) : trim (trim text) = trim text :=
  trim_eq_self (trim_isTrimmed text)

theorem trimChars_eq_nil_iff {chars : List Char} : trimChars chars = [] ↔ ∀ c ∈ chars, isBlank c = true := by
  rw [trimChars_eq, List.rdropWhile_eq_nil_iff, ← List.dropWhile_eq_nil_iff, List.dropWhile_idempotent,
    List.dropWhile_eq_nil_iff]

theorem isBlankText_eq_false_iff {text : String} :
    isBlankText text = false ↔ ∃ c ∈ text.toList, isBlank c = false := by
  have empty : trim text = "" ↔ ∀ c ∈ text.toList, isBlank c = true := by
    rw [← String.toList_inj, trim_toList, String.toList_empty]
    exact trimChars_eq_nil_iff
  rw [isBlankText, beq_eq_false_iff_ne, Ne, empty]
  simp

theorem trimChars_infix (chars : List Char) : trimChars chars <:+: chars :=
  (List.rdropWhile_prefix isBlank _).isInfix.trans (List.dropWhile_suffix isBlank).isInfix

/-! ## One character at the end -/

theorem dropTrailing_toList (c : Char) (text : String) :
    (dropTrailing c text).toList = text.toList.rdropWhile (· == c) := by
  simp [dropTrailing, List.rdropWhile]

theorem dropTrailing_prefix (c : Char) (text : String) :
    (dropTrailing c text).toList <+: text.toList := by
  rw [dropTrailing_toList]
  exact List.rdropWhile_prefix _ _

theorem exists_dropTrailing (c : Char) (text : String) :
    ∃ count, text.toList = (dropTrailing c text).toList ++ List.replicate count c := by
  have dropped : text.toList.rtakeWhile (· == c) =
      List.replicate (text.toList.rtakeWhile (· == c)).length c := by
    apply List.eq_replicate_of_mem
    intro d member
    simpa using List.mem_rtakeWhile_imp member
  refine ⟨(text.toList.rtakeWhile (· == c)).length, ?_⟩
  rw [dropTrailing_toList, ← dropped, List.rdropWhile_append_rtakeWhile]

theorem getLast_dropTrailing (c : Char) (text : String) :
    (dropTrailing c text).toList.getLast? ≠ some c := by
  intro last
  rw [dropTrailing_toList] at last
  have nonempty : text.toList.rdropWhile (· == c) ≠ [] := by
    intro empty
    rw [empty] at last
    cases last
  rw [List.getLast?_eq_some_getLast nonempty] at last
  exact List.rdropWhile_last_not _ _ nonempty (by simpa using last)

theorem dropTrailing_eq_self {c : Char} {text : String} (other : text.toList.getLast? ≠ some c) :
    dropTrailing c text = text := by
  apply String.toList_injective
  rw [dropTrailing_toList, List.rdropWhile_eq_self_iff]
  intro nonempty
  rw [List.getLast?_eq_some_getLast nonempty] at other
  simpa using other

end Larder.Text
