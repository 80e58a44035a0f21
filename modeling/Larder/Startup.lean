import Larder.Config.File
import Larder.Net.Address
import Larder.Store.Call

/-!
Starting the service.

The configuration is read first, then the address to listen at; then the database is connected to and
gets its tables, and at last the address is taken. The first of these that fails ends the start.
-/

namespace Larder

inductive StartupError
  | config (path : String) (fault : ConfigError)
  | listenAddress
  | database (fault : BackendFault)
  | addressInUse
  | addressUnavailable
deriving DecidableEq, Repr

def StartupError.message : StartupError → String
  | .config path fault => fault.message path
  | .listenAddress => "invalid socket address syntax"
  | .database fault => fault.message
  | .addressInUse => "Address already in use (os error 98)"
  | .addressUnavailable => "Cannot assign requested address (os error 99)"

structure StartupPlan where
  config : Config
  listen : Net.SocketAddress

def StartupPlan.ofFile (path : String) (file : Except ConfigError Config) :
    Except StartupError StartupPlan :=
  match file with
  | .error fault => .error (.config path fault)
  | .ok config =>
      match Net.SocketAddress.parse? config.listen.httpBind with
      | none => .error .listenAddress
      | some listen => .ok ⟨config, listen⟩

end Larder
