import Larder.Simulation.Postgres
import Larder.Startup
import Larder.Store.Address

namespace Larder.Simulation

def onDatabase (script : ServerScript) (dsn : String) (steps : String → Store.Conversation Unit) :
    Except BackendFault Unit × ServerRecord :=
  match Store.Address.parse dsn with
  | .error fault => (.error fault, .empty)
  | .ok address => script.serve (steps address.databaseName).run .empty

def openDatabase (script : ServerScript) (dsn : String) : Except BackendFault Unit × ServerRecord :=
  onDatabase script dsn Store.Conversation.connect

def connectDatabase (script : ServerScript) (dsn : String) :
    Except BackendFault Unit × ServerRecord :=
  onDatabase script dsn startUp

def throwAway {α : Type} (script : ServerScript) (dsn : String) (steps : Store.Throwaway.Steps α) :
    Except Store.ThrowawayError α × ServerRecord :=
  match Store.Address.parse dsn with
  | .error fault => (.error (.address fault), .empty)
  | .ok _ => script.serve steps.run .empty

/-- Starts the service from a configuration file, where nothing can be listened at: one port is in use
already, and all others are not this machine's. -/
def launch (script : ServerScript) (busyPort : Nat) (path : String)
    (file : Except ConfigError Config) : StartupError × ServerRecord :=
  match StartupPlan.ofFile path file with
  | .error fault => (fault, .empty)
  | .ok plan =>
      match connectDatabase script plan.config.database.dsn with
      | (.error fault, record) => (.database fault, record)
      | (.ok (), record) =>
          (if plan.listen.port = busyPort then .addressInUse else .addressUnavailable, record)

end Larder.Simulation
