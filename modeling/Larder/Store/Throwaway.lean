import Larder.Store.Connection

namespace Larder.Store

inductive ThrowawayError
  | address (fault : BackendFault)
  | noAdministration
  | notCreated (fault : BackendFault)
  | cleanupUnreachable (fault : BackendFault)
  | notDropped (fault : BackendFault)
  | store (fault : StoreError)
  | body (message : String)
deriving DecidableEq, Repr

def ThrowawayError.message : ThrowawayError → String
  | .address fault => "Failed to parse PANTRY_PG_DSN: " ++ fault.message ++ "."
  | .noAdministration => "Failed to connect to an admin database"
  | .notCreated fault => "Failed to create test database: " ++ fault.message ++ "."
  | .cleanupUnreachable fault =>
      "Failed to connect to admin database for cleanup: " ++ fault.message ++ "."
  | .notDropped fault => "Failed to drop test database: " ++ fault.message ++ "."
  | .store fault => fault.message
  | .body message => message

/-- A throwaway database, and the server's own one over which it was created. -/
structure Throwaway where
  name : String
  administration : String
deriving DecidableEq, Repr

namespace Throwaway

abbrev Steps (α : Type) := ExceptT ThrowawayError (Dialogue Demand Reply) α

def within {α : Type} (meaning : BackendFault → ThrowawayError) (conversation : Conversation α) :
    Steps α := do
  match ← ExceptT.lift conversation.run with
  | .ok value => return value
  | .error fault => throw (meaning fault)

def administrations : List String := ["postgres", "template1"]

def connectFirst : List String → Steps String
  | [] => throw .noAdministration
  | database :: rest => do
      match ← ExceptT.lift (Conversation.connect database).run with
      | .ok () => return database
      | .error _ => connectFirst rest

def identifier (name : String) : String :=
  "\"" ++ name ++ "\""

def create (digits : String) : Steps Throwaway := do
  let administration ← connectFirst administrations
  let name := "pantry_test_" ++ digits
  within .notCreated (Conversation.say (.simple ("CREATE DATABASE " ++ identifier name)))
  return ⟨name, administration⟩

def disconnection : String :=
  "SELECT pg_terminate_backend(pid)\nFROM pg_stat_activity\n" ++
    "WHERE datname = $1 AND pid <> pg_backend_pid()"

def cleanup (database : Throwaway) : Steps Unit := do
  within .cleanupUnreachable (Conversation.connect database.administration)
  let _ ← ExceptT.lift (Dialogue.question (.say (.prepared disconnection [.text database.name])))
  within .notDropped
    (Conversation.say (.prepared ("DROP DATABASE IF EXISTS " ++ identifier database.name) []))

def dispose (database : Throwaway) : Steps Unit := do
  match ← ExceptT.lift database.cleanup.run with
  | .ok () => return ()
  | .error fault =>
      let _ ← ExceptT.lift database.cleanup.run
      throw fault

def release (database : Throwaway) : Steps Unit := do
  let _ ← ExceptT.lift database.cleanup.run
  return ()

def connect (database : Throwaway) : Steps Unit :=
  within (fun fault => .store (.backend fault)) (Conversation.connect database.name)

def bootstrap (database : Throwaway) : Steps Unit := do
  database.connect
  within (fun fault => .store (.backend fault)) Conversation.ensureSchema

/-- Does something with a new database that has the tables, and drops it. An error in what is done
counts before one in dropping it. -/
def use {α : Type} (digits : String) (body : Throwaway → Steps α) : Steps α := do
  let database ← create digits
  let outcome ← ExceptT.lift (do database.bootstrap; body database : Steps α).run
  let disposal ← ExceptT.lift database.dispose.run
  match outcome, disposal with
  | .ok value, .ok () => return value
  | .ok _, .error fault => throw fault
  | .error fault, _ => throw fault

/-- Counts the items of the pantry. The connection that created the tables is still being handed back,
so that a second one is opened. -/
def countItems (database : Throwaway) : Steps Nat := do
  database.connect
  match ← ExceptT.lift (Conversation.call .listItems) with
  | .ok items => return items.length
  | .error fault => throw (.store fault)

end Throwaway

end Larder.Store
