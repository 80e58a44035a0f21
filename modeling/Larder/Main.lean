import Larder.CommandLine
import Larder.Startup
import Larder.Store.Address

open Larder

def readConfig (path : String) : IO (Except ConfigError Config) := do
  try
    return Config.ofBytes (← IO.FS.readBinFile path).toList
  catch _ => return .error .unreadable

def reportFailure (fault : StartupError) : IO UInt32 := do
  IO.eprintln ("Error: " ++ fault.message)
  return 1

def startService (path : String) : IO UInt32 := do
  match StartupPlan.ofFile path (← readConfig path) with
  | .error fault => reportFailure fault
  | .ok plan =>
      match Store.Address.parse plan.config.database.dsn with
      | .error fault => reportFailure (.database fault)
      | .ok _ => reportFailure (.database .connectionLost)

def main (arguments : List String) : IO UInt32 := do
  match CommandLine.parse arguments with
  | .help =>
      IO.print CommandLine.helpText
      return 0
  | .version =>
      IO.print CommandLine.versionText
      return 0
  | .refused fault =>
      IO.eprintln fault.message
      return 2
  | .serve path => startService path
