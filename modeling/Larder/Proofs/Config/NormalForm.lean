import Larder.Config.File
import Larder.Proofs.Text.Trimming
import Larder.Proofs.Text.Utf8

/-!
# What is loaded

A configuration that is loaded passes its checks, and its log level is trimmed. Its base addresses are
the given ones without the blanks around them and without the slashes that then stand at the end
(`IsBaseOf`). The blanks go first. Where a blank stands before those slashes it is left over, at the end
of an address that a second round would change: of two rounds the second does nothing exactly if the
first has left both addresses trimmed (`ofBytes_loads`).
-/

namespace Larder.Config

structure IsBaseOf (given base : String) : Prop where
  cut : ∃ slashes, (Text.trim given).toList = base.toList ++ List.replicate slashes '/'
  noSlash : base.toList.getLast? ≠ some '/'
  noBlankInFront : ∀ c ∈ base.toList.head?, Text.isBlank c = false

/-! ## Base addresses -/

theorem isBaseOf_normalizeBase (given : String) : IsBaseOf given (normalizeBase given) := by
  constructor
  case cut => exact Text.exists_dropTrailing '/' (Text.trim given)
  case noSlash => exact Text.getLast_dropTrailing '/' (Text.trim given)
  case noBlankInFront =>
    intro c first
    obtain ⟨rest, joined⟩ := Text.dropTrailing_prefix '/' (Text.trim given)
    apply (Text.trim_isTrimmed given).1
    rw [← joined, List.head?_append, Option.mem_def]
    change (normalizeBase given).toList.head?.or _ = _
    rw [Option.mem_def.mp first, Option.some_or]

theorem trim_of_normalizeBase {base : String} (same : normalizeBase base = base) :
    Text.trim base = base := by
  have cut : (normalizeBase base).toList <+: (Text.trim base).toList :=
    Text.dropTrailing_prefix '/' (Text.trim base)
  have within : (Text.trim base).toList <:+: base.toList := by
    rw [Text.trim_toList]
    exact Text.trimChars_infix base.toList
  rw [same] at cut
  apply String.toList_injective
  exact within.eq_of_length_le cut.length_le

theorem normalizeBase_eq_self_iff {base : String} (noSlash : base.toList.getLast? ≠ some '/') :
    normalizeBase base = base ↔ Text.IsTrimmed base := by
  constructor
  · intro same
    exact Text.isTrimmed_iff.mpr (trim_of_normalizeBase same)
  · intro trimmed
    unfold normalizeBase
    rw [Text.trim_eq_self trimmed, Text.dropTrailing_eq_self noSlash]

/-! ## Log levels -/

theorem normalizeLogLevel_isTrimmed (level : String) : Text.IsTrimmed (normalizeLogLevel level) := by
  unfold normalizeLogLevel
  dsimp only
  split
  · exact Text.isTrimmed_iff.mpr (by decide)
  · exact Text.trim_isTrimmed level

theorem normalizeLogLevel_ne_empty (level : String) : normalizeLogLevel level ≠ "" := by
  unfold normalizeLogLevel
  dsimp only
  split
  · decide
  · rename_i notEmpty
    simpa using notEmpty

theorem normalizeLogLevel_eq_self {level : String} (trimmed : Text.IsTrimmed level)
    (notEmpty : level ≠ "") : normalizeLogLevel level = level := by
  unfold normalizeLogLevel
  simp [Text.trim_eq_self trimmed, notEmpty]

/-! ## Configurations -/

theorem normalize_logLevel (config : Config) :
    config.normalize.listen.logLevel = normalizeLogLevel config.listen.logLevel := by
  rw [normalize]

theorem normalize_extractorBase (config : Config) :
    config.normalize.extractor.apiBase = normalizeBase config.extractor.apiBase := by
  rw [normalize]

theorem normalize_resolverBase (config : Config) :
    config.normalize.resolver.apiBase = normalizeBase config.resolver.apiBase := by
  rw [normalize]

theorem normalize_eq_self_iff {config : Config} :
    config.normalize = config ↔ normalizeLogLevel config.listen.logLevel = config.listen.logLevel ∧
      normalizeBase config.extractor.apiBase = config.extractor.apiBase ∧
      normalizeBase config.resolver.apiBase = config.resolver.apiBase := by
  obtain ⟨⟨httpBind, logLevel⟩, database, extractor, resolver, ingest⟩ := config
  obtain ⟨providerId, apiBase, apiKey, path, model, temperature, timeout, headers⟩ := extractor
  obtain ⟨resolverBase, resolverPath, resolverTimeout, resolverHeaders⟩ := resolver
  simp [normalize]

theorem exists_given {bytes : List UInt8} {config : Config} (loaded : ofBytes bytes = .ok config) :
    ∃ text given, Text.Utf8.decode? bytes = some text ∧ parse text = .ok given ∧
      config = given.normalize ∧ config.validate = .ok () := by
  unfold ofBytes at loaded
  split at loaded
  · cases loaded
  · rename_i text decoded
    unfold ofText at loaded
    split at loaded
    · cases loaded
    · rename_i given parsed
      dsimp only at loaded
      split at loaded
      · cases loaded
      · rename_i valid
        cases loaded
        exact ⟨text, given, decoded, parsed, rfl, valid⟩

/-- A configuration that is loaded is valid, and nothing of it would change if it were normalized again, but
for base addresses of which the first round has left a blank at the end. -/
theorem ofBytes_loads {bytes : List UInt8} {config : Config} (loaded : ofBytes bytes = .ok config) :
    config.validate = .ok () ∧
      (∃ text given, Text.Utf8.decode? bytes = some text ∧ parse text = .ok given ∧
        IsBaseOf given.extractor.apiBase config.extractor.apiBase ∧
        IsBaseOf given.resolver.apiBase config.resolver.apiBase) ∧
      (Text.IsTrimmed config.listen.logLevel ∧ config.listen.logLevel ≠ "") ∧
      (config.normalize = config ↔
        Text.IsTrimmed config.extractor.apiBase ∧ Text.IsTrimmed config.resolver.apiBase) := by
  obtain ⟨text, given, decoded, parsed, rfl, valid⟩ := exists_given loaded
  have extractor := isBaseOf_normalizeBase given.extractor.apiBase
  have resolver := isBaseOf_normalizeBase given.resolver.apiBase
  have trimmed := normalizeLogLevel_isTrimmed given.listen.logLevel
  have notEmpty := normalizeLogLevel_ne_empty given.listen.logLevel
  have sameLevel := normalizeLogLevel_eq_self trimmed notEmpty
  rw [normalize_eq_self_iff, normalize_logLevel, normalize_extractorBase, normalize_resolverBase]
  refine ⟨valid, ⟨text, given, decoded, parsed, extractor, resolver⟩, ⟨trimmed, notEmpty⟩, ?_⟩
  rw [and_iff_right sameLevel]
  exact and_congr (normalizeBase_eq_self_iff extractor.noSlash) (normalizeBase_eq_self_iff resolver.noSlash)

theorem ofBytes_encode (text : String) : ofBytes (Text.Utf8.encode text) = ofText text := by
  rw [ofBytes, Text.Utf8.decode?_encode]

theorem exists_of_view {α : Type} {outcome : Except ConfigError Config} {view : Config → α} {seen : α}
    (viewed : outcome.toOption.map view = some seen) : ∃ config, outcome = .ok config ∧ view config = seen := by
  cases outcome with
  | error fault => cases viewed
  | ok config => exact ⟨config, rfl, Option.some.inj viewed⟩

/-! ## A file -/

namespace Sample

def file : String :=
  "[service]\nhttp_bind=\"a:1\"\n[storage.postgres]\ndsn=\"d\"\npool_max_conns=1\n" ++
  "[providers.extractor]\nprovider_id=\"p\"\napi_base=\"https://models /\"\napi_key=\"k\"\n" ++
  "path=\"/\"\nmodel=\"m\"\ntimeout_ms=1\n" ++
  "[providers.resolver]\napi_base=\" http://r// \"\ntimeout_ms=1\n"

def bases (outcome : Except ConfigError Config) : Option (String × String) :=
  outcome.toOption.map fun config => (config.extractor.apiBase, config.resolver.apiBase)

theorem bases_file : bases (ofText file) = some ("https://models ", "http://r") := by
  decide +kernel

theorem file_loads : ∃ config, ofBytes (Text.Utf8.encode file) = .ok config ∧
    config.extractor.apiBase = "https://models " ∧ config.resolver.apiBase = "http://r" := by
  obtain ⟨config, loaded, seen⟩ := exists_of_view bases_file
  obtain ⟨extractor, resolver⟩ := Prod.mk.inj seen
  exact ⟨config, (ofBytes_encode file).trans loaded, extractor, resolver⟩

end Sample

open Sample in
theorem ofBytes_loads_file : ∃ config, ofBytes (Text.Utf8.encode file) = .ok config ∧
    config.validate = .ok () ∧ Text.IsTrimmed config.listen.logLevel ∧ Text.IsTrimmed config.resolver.apiBase ∧
    config.normalize ≠ config := by
  obtain ⟨config, loaded, extractor, resolver⟩ := file_loads
  obtain ⟨valid, _, ⟨trimmed, _⟩, again⟩ := ofBytes_loads loaded
  rw [extractor, resolver] at again
  have whole : Text.IsTrimmed config.resolver.apiBase := by
    rw [resolver]
    exact Text.isTrimmed_iff.mpr (by decide)
  refine ⟨config, loaded, valid, trimmed, whole, fun same => ?_⟩
  exact absurd (Text.isTrimmed_iff.mp (again.mp same).1) (by decide)

open Sample in
/-- A blank before the last slash is still there when the slash has gone. -/
theorem ofBytes_leaves_blank : ¬ ∀ (bytes : List UInt8) (config : Config), ofBytes bytes = .ok config →
    config.validate = .ok () ∧ config.normalize = config := by
  intro normal
  obtain ⟨config, loaded, extractor, _⟩ := file_loads
  obtain ⟨-, same⟩ := normal _ config loaded
  obtain ⟨-, kept, -⟩ := normalize_eq_self_iff.mp same
  rw [extractor] at kept
  exact absurd kept (by decide)

end Larder.Config
