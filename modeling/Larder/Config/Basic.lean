import Larder.Json.Basic
import Larder.Service.Settings

/-!
The configuration of the service.

Whole numbers are unsigned words: the size of the connection pool has 32 bits, time spans in
milliseconds have 64. The temperature is a value of single precision.
-/

namespace Larder

structure ListenConfig where
  httpBind : String
  logLevel : String

structure DatabaseConfig where
  dsn : String
  poolMaxConns : Nat

/-- The language model that extracts candidates from a text. A temperature that is not set is left out
of requests. -/
structure ExtractorConfig where
  providerId : String
  apiBase : String
  apiKey : String
  path : String
  model : String
  temperature : Option Float
  timeout : Nat
  defaultHeaders : Named Json

structure ResolverConfig where
  apiBase : String
  path : String
  timeout : Nat
  defaultHeaders : Named Json

structure Config where
  listen : ListenConfig
  database : DatabaseConfig
  extractor : ExtractorConfig
  resolver : ResolverConfig
  ingest : IngestSettings

def ListenConfig.defaultLogLevel : String := "info"

def ResolverConfig.defaultPath : String := "/ingredients/resolve"

end Larder
