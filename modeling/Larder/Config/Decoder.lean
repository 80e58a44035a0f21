import Larder.Config.Basic
import Larder.Decimal.Single
import Larder.Json.Decoder

namespace Larder

open Json (Decoder Record)
open Json.Decoder (text unsigned)

/-- A value of single precision; a whole number is rounded once, without becoming a double first. -/
def Json.Decoder.single : Decoder Float
  | _, .number (some (.whole value)) =>
      if Decoder.isWord value then .ok (Decimal.singleOfInt value) else .error .invalidType
  | context, tree => (Decoder.float context tree).map Decimal.toSingle

def ListenConfig.decode : Decoder ListenConfig :=
  ((Record.done ListenConfig.mk).required "http_bind" text
    |>.optional "log_level" text ListenConfig.defaultLogLevel).decode

def DatabaseConfig.decode : Decoder DatabaseConfig :=
  ((Record.done id).required "postgres"
    ((Record.done DatabaseConfig.mk).required "dsn" text
      |>.required "pool_max_conns" (unsigned 32)).decode).decode

def ExtractorConfig.decode : Decoder ExtractorConfig :=
  ((Record.done ExtractorConfig.mk).required "provider_id" text
    |>.required "api_base" text
    |>.required "api_key" text
    |>.required "path" text
    |>.required "model" text
    |>.optional "temperature" (Decoder.optional Decoder.single) none
    |>.required "timeout_ms" (unsigned 64)
    |>.optional "default_headers" Decoder.members []).decode

def ResolverConfig.decode : Decoder ResolverConfig :=
  ((Record.done ResolverConfig.mk).required "api_base" text
    |>.optional "path" text ResolverConfig.defaultPath
    |>.required "timeout_ms" (unsigned 64)
    |>.optional "default_headers" Decoder.members []).decode

def Config.decodeProviders : Decoder (ExtractorConfig × ResolverConfig) :=
  ((Record.done Prod.mk).required "extractor" ExtractorConfig.decode
    |>.required "resolver" ResolverConfig.decode).decode

def IngestSettings.decode : Decoder IngestSettings :=
  ((Record.done IngestSettings.mk).optional "review_threshold" Decoder.float default.reviewThreshold
    |>.optional "process_timeout_ms" (unsigned 64) default.processTimeout
    |>.optional "extract_timeout_ms" (unsigned 64) default.extractTimeout
    |>.optional "resolve_timeout_ms" (unsigned 64) default.resolveTimeout).decode

def Config.decode : Decoder Config :=
  ((Record.done fun listen database providers ingest =>
      Config.mk listen database providers.1 providers.2 ingest).required "service" ListenConfig.decode
    |>.required "storage" DatabaseConfig.decode
    |>.required "providers" Config.decodeProviders
    |>.optional "ingest" IngestSettings.decode .default).decode

end Larder
