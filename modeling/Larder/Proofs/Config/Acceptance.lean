import Larder.Config.Validity
import Larder.Proofs.Decimal.Rational
import Larder.Proofs.Text.Trimming

/-!
# What is accepted

A configuration is valid exactly if it is `Acceptable`, and otherwise the first requirement that it does not
meet is reported, in an `order` that does not depend on the configuration (`validate_reports`). What it takes
to meet a requirement is said by the value alone: a text has a character that is not blank, a number is one
of the rational numbers from zero to its limit.
-/

namespace Larder

def Check.violation (check : Check) : Violation :=
  ⟨check.setting, check.requirement⟩

inductive SettingValue
  | text (value : String)
  | count (value : Nat)
  | number (value : Option Float)

namespace Config

def value (config : Config) : Setting → SettingValue
  | .httpBind => .text config.listen.httpBind
  | .dsn => .text config.database.dsn
  | .poolMaxConns => .count config.database.poolMaxConns
  | .extractorApiBase => .text config.extractor.apiBase
  | .extractorApiKey => .text config.extractor.apiKey
  | .extractorModel => .text config.extractor.model
  | .extractorTimeout => .count config.extractor.timeout
  | .extractorTemperature => .number config.extractor.temperature
  | .resolverApiBase => .text config.resolver.apiBase
  | .resolverPath => .text config.resolver.path
  | .resolverTimeout => .count config.resolver.timeout
  | .reviewThreshold => .number (some config.ingest.reviewThreshold)
  | .processTimeout => .count config.ingest.processTimeout
  | .extractTimeout => .count config.ingest.extractTimeout
  | .resolveTimeout => .count config.ingest.resolveTimeout

def HasContent (text : String) : Prop :=
  ∃ c ∈ text.toList, Text.isBlank c = false

def IsUpTo (limit : ℚ) (value : Float) : Prop :=
  ∃ x, Decimal.rational? value = some x ∧ 0 ≤ x ∧ x ≤ limit

def Meets (processTimeout : Nat) : Requirement → SettingValue → Prop
  | .nonEmpty, .text text => HasContent text
  | .positive, .count count => 0 < count
  | .rooted, .text text => ∃ rest, text.toList = '/' :: rest
  | .atMostTwo, .number given => ∀ value, given = some value → IsUpTo 2 value
  | .atMostOne, .number given => ∀ value, given = some value → IsUpTo 1 value
  | .withinProcessing, .count count => count ≤ processTimeout
  | _, _ => False

def order : List Violation := [
  ⟨.httpBind, .nonEmpty⟩, ⟨.dsn, .nonEmpty⟩, ⟨.poolMaxConns, .positive⟩,
  ⟨.extractorApiBase, .nonEmpty⟩, ⟨.extractorApiKey, .nonEmpty⟩, ⟨.extractorModel, .nonEmpty⟩,
  ⟨.extractorTimeout, .positive⟩, ⟨.extractorTemperature, .atMostTwo⟩,
  ⟨.resolverApiBase, .nonEmpty⟩, ⟨.resolverPath, .rooted⟩, ⟨.resolverTimeout, .positive⟩,
  ⟨.reviewThreshold, .atMostOne⟩, ⟨.processTimeout, .positive⟩, ⟨.extractTimeout, .positive⟩,
  ⟨.resolveTimeout, .positive⟩, ⟨.extractTimeout, .withinProcessing⟩, ⟨.resolveTimeout, .withinProcessing⟩]

def Satisfies (config : Config) (violation : Violation) : Prop :=
  Meets config.ingest.processTimeout violation.requirement (config.value violation.setting)

def FirstViolated (config : Config) (violation : Violation) : Prop :=
  ∃ before after, order = before ++ violation :: after ∧ (∀ earlier ∈ before, config.Satisfies earlier) ∧
    ¬ config.Satisfies violation

structure Acceptable (config : Config) : Prop where
  httpBind : HasContent config.listen.httpBind
  dsn : HasContent config.database.dsn
  poolMaxConns : 0 < config.database.poolMaxConns
  extractorApiBase : HasContent config.extractor.apiBase
  extractorApiKey : HasContent config.extractor.apiKey
  extractorModel : HasContent config.extractor.model
  extractorTimeout : 0 < config.extractor.timeout
  extractorTemperature : ∀ value, config.extractor.temperature = some value → IsUpTo 2 value
  resolverApiBase : HasContent config.resolver.apiBase
  resolverPath : ∃ rest, config.resolver.path.toList = '/' :: rest
  resolverTimeout : 0 < config.resolver.timeout
  reviewThreshold : IsUpTo 1 config.ingest.reviewThreshold
  processTimeout : 0 < config.ingest.processTimeout
  extractTimeout : 0 < config.ingest.extractTimeout
  resolveTimeout : 0 < config.ingest.resolveTimeout
  extractWithin : config.ingest.extractTimeout ≤ config.ingest.processTimeout
  resolveWithin : config.ingest.resolveTimeout ≤ config.ingest.processTimeout

theorem acceptable_iff {config : Config} :
    config.Acceptable ↔ ∀ violation ∈ order, config.Satisfies violation := by
  simp only [order, List.forall_mem_cons, List.not_mem_nil, false_imp_iff, implies_true, and_true]
  constructor
  · intro h
    exact ⟨h.httpBind, h.dsn, h.poolMaxConns, h.extractorApiBase, h.extractorApiKey, h.extractorModel,
      h.extractorTimeout, h.extractorTemperature, h.resolverApiBase, h.resolverPath, h.resolverTimeout,
      fun _ same => Option.some.inj same ▸ h.reviewThreshold, h.processTimeout, h.extractTimeout,
      h.resolveTimeout, h.extractWithin, h.resolveWithin⟩
  · rintro ⟨httpBind, dsn, poolMaxConns, extractorApiBase, extractorApiKey, extractorModel, extractorTimeout,
      extractorTemperature, resolverApiBase, resolverPath, resolverTimeout, reviewThreshold, processTimeout,
      extractTimeout, resolveTimeout, extractWithin, resolveWithin⟩
    exact ⟨httpBind, dsn, poolMaxConns, extractorApiBase, extractorApiKey, extractorModel, extractorTimeout,
      extractorTemperature, resolverApiBase, resolverPath, resolverTimeout, reviewThreshold _ rfl,
      processTimeout, extractTimeout, resolveTimeout, extractWithin, resolveWithin⟩

/-! ## Checks -/

theorem isPresent_iff {text : String} : (!Text.isBlankText text) = true ↔ HasContent text := by
  rw [Bool.not_eq_true']
  exact Text.isBlankText_eq_false_iff

theorem isRooted_iff {text : String} :
    (text.toList.head? == some '/') = true ↔ ∃ rest, text.toList = '/' :: rest := by
  rw [beq_iff_eq]
  exact List.head?_eq_some_iff

theorem isWithin_iff {limit value : Float} {x : ℚ} (known : Decimal.rational? limit = some x) :
    isWithin limit value = true ↔ IsUpTo x value := by
  have tests : isWithin limit value = true ↔ value.isFinite = true ∧ 0.0 ≤ value ∧ value ≤ limit := by
    simp [isWithin, and_assoc]
  rw [tests]
  constructor
  · rintro ⟨finite, above, below⟩
    obtain ⟨y, number⟩ := (Decimal.isFinite_iff_rational value).mp finite
    exact ⟨y, number, (Decimal.le_iff_rational Decimal.rational_zero number).mp above,
      (Decimal.le_iff_rational number known).mp below⟩
  · rintro ⟨y, number, above, below⟩
    exact ⟨(Decimal.isFinite_iff_rational value).mpr ⟨y, number⟩,
      (Decimal.le_iff_rational Decimal.rational_zero number).mpr above,
      (Decimal.le_iff_rational number known).mpr below⟩

theorem all_isWithin_iff {limit : Float} {x : ℚ} (known : Decimal.rational? limit = some x)
    {given : Option Float} :
    given.all (isWithin limit) = true ↔ ∀ value, given = some value → IsUpTo x value := by
  rw [Option.all_eq_true]
  exact forall₂_congr fun value _ => isWithin_iff known

theorem checks_violation (config : Config) : config.checks.map Check.violation = order := rfl

theorem holds_iff {config : Config} {check : Check} (member : check ∈ config.checks) :
    check.holds = true ↔ config.Satisfies check.violation := by
  have threshold : isWithin 1.0 config.ingest.reviewThreshold = true ↔
      config.Satisfies ⟨.reviewThreshold, .atMostOne⟩ := by
    rw [isWithin_iff Decimal.rational_one]
    exact ⟨fun within _ same => Option.some.inj same ▸ within, fun within => within _ rfl⟩
  simp only [checks, ExtractorConfig.checks, ResolverConfig.checks, IngestSettings.checks, List.cons_append,
    List.nil_append, List.mem_cons, List.not_mem_nil, or_false] at member
  rcases member with rfl | rfl | rfl | rfl | rfl | rfl | rfl | rfl | rfl | rfl | rfl | rfl | rfl | rfl | rfl |
    rfl | rfl
  all_goals dsimp only
  · exact isPresent_iff
  · exact isPresent_iff
  · exact decide_eq_true_iff
  · exact isPresent_iff
  · exact isPresent_iff
  · exact isPresent_iff
  · exact decide_eq_true_iff
  · exact all_isWithin_iff Decimal.rational_two
  · exact isPresent_iff
  · exact isRooted_iff
  · exact decide_eq_true_iff
  · exact threshold
  all_goals exact decide_eq_true_iff

/-! ## The first requirement that is not met -/

theorem validate_eq_ok_iff {config : Config} :
    config.validate = .ok () ↔ ∀ check ∈ config.checks, check.holds = true := by
  unfold validate
  split
  · rename_i check found
    have fails : check.holds = false := by simpa using List.find?_some found
    refine iff_of_false (fun accepted => nomatch accepted) fun holds => ?_
    exact absurd (holds check (List.mem_of_find?_eq_some found)) (by simp [fails])
  · rename_i none
    exact iff_of_true rfl (by simpa using none)

theorem validate_eq_error_iff {config : Config} {violation : Violation} :
    config.validate = .error violation ↔
      ∃ check, config.checks.find? (fun check => !check.holds) = some check ∧ check.violation = violation := by
  unfold validate
  split
  · rename_i check found
    simp [found, Check.violation]
  · rename_i none
    simp [none]

theorem acceptable_iff_holds {config : Config} :
    config.Acceptable ↔ ∀ check ∈ config.checks, check.holds = true := by
  rw [acceptable_iff, ← checks_violation config, List.forall_mem_map]
  exact forall₂_congr fun check member => (holds_iff member).symm

theorem firstViolated_iff {config : Config} {violation : Violation} :
    config.FirstViolated violation ↔
      ∃ check, config.checks.find? (fun check => !check.holds) = some check ∧ check.violation = violation := by
  constructor
  · rintro ⟨before, after, joined, met, unmet⟩
    rw [← checks_violation config] at joined
    obtain ⟨front, back, split, rfl, later⟩ := List.map_eq_append_iff.mp joined
    obtain ⟨check, rest, rfl, rfl, rfl⟩ := List.map_eq_cons_iff.mp later
    refine ⟨check, List.find?_eq_some_iff_append.mpr ⟨?_, front, rest, split, ?_⟩, rfl⟩
    · have member : check ∈ config.checks := split ▸ List.mem_append_right _ List.mem_cons_self
      have fails : ¬ check.holds = true := fun holds => unmet ((holds_iff member).mp holds)
      simpa using fails
    · intro earlier inFront
      have member : earlier ∈ config.checks := split ▸ List.mem_append_left _ inFront
      have holds := (holds_iff member).mpr (met _ (List.mem_map_of_mem inFront))
      simp [holds]
  · rintro ⟨check, found, rfl⟩
    obtain ⟨fails, front, rest, split, passed⟩ := List.find?_eq_some_iff_append.mp found
    have joined : order = front.map Check.violation ++ check.violation :: rest.map Check.violation := by
      rw [← checks_violation config, split, List.map_append, List.map_cons]
    refine ⟨front.map Check.violation, rest.map Check.violation, joined, List.forall_mem_map.mpr ?_, ?_⟩
    · intro earlier inFront
      have member : earlier ∈ config.checks := split ▸ List.mem_append_left _ inFront
      exact (holds_iff member).mp (by simpa using passed earlier inFront)
    · have member : check ∈ config.checks := split ▸ List.mem_append_right _ List.mem_cons_self
      rw [← holds_iff member]
      simpa using fails

theorem validate_reports (config : Config) :
    (config.validate = .ok () ↔ config.Acceptable) ∧
      ∀ violation, config.validate = .error violation ↔ config.FirstViolated violation := by
  constructor
  · rw [validate_eq_ok_iff, acceptable_iff_holds]
  · intro violation
    rw [validate_eq_error_iff, firstViolated_iff]

example : order.map (·.setting.name) = [
    "service.http_bind", "storage.postgres.dsn", "storage.postgres.pool_max_conns",
    "providers.extractor.api_base", "providers.extractor.api_key", "providers.extractor.model",
    "providers.extractor.timeout_ms", "providers.extractor.temperature", "providers.resolver.api_base",
    "providers.resolver.path", "providers.resolver.timeout_ms", "ingest.review_threshold",
    "ingest.process_timeout_ms", "ingest.extract_timeout_ms", "ingest.resolve_timeout_ms",
    "ingest.extract_timeout_ms", "ingest.resolve_timeout_ms"] := rfl

end Config

end Larder
