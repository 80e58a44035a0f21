import Larder.Config.Basic
import Larder.Text.Blank

/-!
What a configuration must satisfy, and its normal form.

`Config.checks` lists every requirement in the order in which they are reported; `Config.validate`
answers the first that does not hold. Normalizing trims both base addresses, takes the slashes off
their ends, and trims the log level.
-/

namespace Larder

inductive Setting
  | httpBind
  | dsn
  | poolMaxConns
  | extractorApiBase
  | extractorApiKey
  | extractorModel
  | extractorTimeout
  | extractorTemperature
  | resolverApiBase
  | resolverPath
  | resolverTimeout
  | reviewThreshold
  | processTimeout
  | extractTimeout
  | resolveTimeout
deriving DecidableEq, Repr

def Setting.name : Setting → String
  | .httpBind => "service.http_bind"
  | .dsn => "storage.postgres.dsn"
  | .poolMaxConns => "storage.postgres.pool_max_conns"
  | .extractorApiBase => "providers.extractor.api_base"
  | .extractorApiKey => "providers.extractor.api_key"
  | .extractorModel => "providers.extractor.model"
  | .extractorTimeout => "providers.extractor.timeout_ms"
  | .extractorTemperature => "providers.extractor.temperature"
  | .resolverApiBase => "providers.resolver.api_base"
  | .resolverPath => "providers.resolver.path"
  | .resolverTimeout => "providers.resolver.timeout_ms"
  | .reviewThreshold => "ingest.review_threshold"
  | .processTimeout => "ingest.process_timeout_ms"
  | .extractTimeout => "ingest.extract_timeout_ms"
  | .resolveTimeout => "ingest.resolve_timeout_ms"

inductive Requirement
  | nonEmpty
  | positive
  | rooted
  | atMostTwo
  | atMostOne
  | withinProcessing
deriving DecidableEq, Repr

def Requirement.detail : Requirement → String
  | .nonEmpty => "must be non-empty."
  | .positive => "must be greater than zero."
  | .rooted => "must start with '/'."
  | .atMostTwo => "must be a finite number in the range 0.0-2.0."
  | .atMostOne => "must be a finite number in the range 0.0-1.0."
  | .withinProcessing => "must not exceed ingest.process_timeout_ms."

structure Check where
  setting : Setting
  requirement : Requirement
  holds : Bool

structure Violation where
  setting : Setting
  requirement : Requirement
deriving DecidableEq, Repr

def Violation.message (violation : Violation) : String :=
  violation.setting.name ++ " " ++ violation.requirement.detail

def isWithin (limit value : Float) : Bool :=
  value.isFinite && 0.0 ≤ value && value ≤ limit

def ExtractorConfig.checks (extractor : ExtractorConfig) : List Check := [
  ⟨.extractorApiBase, .nonEmpty, !Text.isBlankText extractor.apiBase⟩,
  ⟨.extractorApiKey, .nonEmpty, !Text.isBlankText extractor.apiKey⟩,
  ⟨.extractorModel, .nonEmpty, !Text.isBlankText extractor.model⟩,
  ⟨.extractorTimeout, .positive, 0 < extractor.timeout⟩,
  ⟨.extractorTemperature, .atMostTwo, extractor.temperature.all (isWithin 2.0)⟩]

def ResolverConfig.checks (resolver : ResolverConfig) : List Check := [
  ⟨.resolverApiBase, .nonEmpty, !Text.isBlankText resolver.apiBase⟩,
  ⟨.resolverPath, .rooted, resolver.path.toList.head? == some '/'⟩,
  ⟨.resolverTimeout, .positive, 0 < resolver.timeout⟩]

def IngestSettings.checks (ingest : IngestSettings) : List Check := [
  ⟨.reviewThreshold, .atMostOne, isWithin 1.0 ingest.reviewThreshold⟩,
  ⟨.processTimeout, .positive, 0 < ingest.processTimeout⟩,
  ⟨.extractTimeout, .positive, 0 < ingest.extractTimeout⟩,
  ⟨.resolveTimeout, .positive, 0 < ingest.resolveTimeout⟩,
  ⟨.extractTimeout, .withinProcessing, ingest.extractTimeout ≤ ingest.processTimeout⟩,
  ⟨.resolveTimeout, .withinProcessing, ingest.resolveTimeout ≤ ingest.processTimeout⟩]

namespace Config

/-- All requirements on a configuration, in the order in which they are reported. -/
def checks (config : Config) : List Check :=
  [⟨.httpBind, .nonEmpty, !Text.isBlankText config.listen.httpBind⟩,
    ⟨.dsn, .nonEmpty, !Text.isBlankText config.database.dsn⟩,
    ⟨.poolMaxConns, .positive, 0 < config.database.poolMaxConns⟩] ++
    config.extractor.checks ++ config.resolver.checks ++ config.ingest.checks

def validate (config : Config) : Except Violation Unit :=
  match config.checks.find? fun check => !check.holds with
  | some check => .error ⟨check.setting, check.requirement⟩
  | none => .ok ()

def normalizeBase (apiBase : String) : String :=
  Text.dropTrailing '/' (Text.trim apiBase)

def normalizeLogLevel (logLevel : String) : String :=
  let trimmed := Text.trim logLevel
  if trimmed == "" then ListenConfig.defaultLogLevel else trimmed

def normalize (config : Config) : Config :=
  { config with
    listen := { config.listen with logLevel := normalizeLogLevel config.listen.logLevel }
    extractor := { config.extractor with apiBase := normalizeBase config.extractor.apiBase }
    resolver := { config.resolver with apiBase := normalizeBase config.resolver.apiBase } }

end Config

end Larder
