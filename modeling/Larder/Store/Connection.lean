import Larder.Dialogue
import Larder.Store.Query

/-!
Conversations with a database server.

A conversation opens connections and sends statements over the one it opened last. `ensureSchema`
creates the tables in one transaction. The transaction holds a lock first, so that of two programs
which start at once one waits for the other; an error ends it, and what it did is taken back.
-/

namespace Larder.Store

open Sql

/-- A statement as it is sent: by its text alone, or prepared with parameters. -/
inductive Message
  | simple (text : String)
  | prepared (text : String) (parameters : List Value)

/-- What is asked of a server. An open transaction that is given up is taken back before the next
demand, not at once. -/
inductive Demand
  | connect (database : String)
  | say (message : Message)
  | giveUp

abbrev Conversation (α : Type) := ExceptT BackendFault (Dialogue Demand Reply) α

namespace Conversation

def demand (demand : Demand) : Conversation (List Row × Nat) := do
  let reply ← ExceptT.lift (Dialogue.question demand)
  match reply.result with
  | .ok result => return result
  | .error fault => throw fault

def connect (database : String) : Conversation Unit := do
  let _ ← demand (.connect database)

def say (message : Message) : Conversation Unit := do
  let _ ← demand (.say message)

def sayAll : List Message → Conversation Unit
  | [] => return ()
  | message :: rest => do
      say message
      sayAll rest

/-- Sends a store call; the inner outcome is the call's own. -/
def call (call : StoreCall) : Dialogue Demand Reply call.Answer := do
  let reply ← Dialogue.question (.say (.prepared call.statement.text call.parameters))
  return call.answerOf reply

/-- Sends statements as one transaction. When one of them fails, all are taken back, unless the server
is gone. -/
def transaction (messages : List Message) : Conversation Unit := do
  say (.simple "BEGIN")
  match ← ExceptT.lift (sayAll (messages ++ [.simple "COMMIT"])).run with
  | .ok () => return ()
  | .error .connectionLost => throw .connectionLost
  | .error fault =>
      let _ ← ExceptT.lift (Dialogue.question .giveUp)
      throw fault

def schemaLock : Int := 7265001

def schemaMessages : List Message :=
  .prepared "SELECT pg_advisory_xact_lock($1)" [.integer schemaLock] ::
    (scriptStatements schema).map (.prepared · [])

def ensureSchema : Conversation Unit :=
  transaction schemaMessages

end Conversation

end Larder.Store
