import Larder.Http.Router
import Larder.Store.Throwaway

/-!
A scripted database server, and the service on it.

The server replies to a statement by the first entry of its script whose pattern occurs in the text,
and keeps a record of the connections and of what was sent over each. A transaction that is given up
is rolled back when the next demand comes; when the server refuses even that, the connection is of no
more use, and another one is opened for the next statement.
-/

namespace Larder.Simulation

open Store

/-- What a server does: its replies by pattern, the databases to which it refuses connections, and the
number of the connection from which on it refuses all. -/
structure ServerScript where
  replies : List (String × Store.Reply)
  refused : List String
  refusedFrom : Option Nat

/-- The state of the latest connection: whether a transaction on it was given up, or it is closed. -/
inductive Link
  | ready
  | givenUp
  | closed
deriving DecidableEq

/-- What a server has seen: how many connections were tried, and those it accepted, latest first, with
the statements sent over each, latest first. -/
structure ServerRecord where
  tried : Nat
  connections : List (String × List Message)
  link : Link

def ServerRecord.empty : ServerRecord := ⟨0, [], .ready⟩

def messageText : Message → String
  | .simple text | .prepared text _ => text

def ServerScript.reply (script : ServerScript) (message : Message) : Store.Reply :=
  match script.replies.find? fun (pattern, _) => Text.occursIn pattern (messageText message) with
  | some (_, reply) => reply
  | none => .rows [] 0

def ServerScript.dial (script : ServerScript) (database : String) (record : ServerRecord) :
    Store.Reply × ServerRecord :=
  let tried := record.tried + 1
  if script.refused.contains database || script.refusedFrom.any (· ≤ tried) then
    (.error "no such database", { record with tried })
  else (.rows [] 0, ⟨tried, (database, []) :: record.connections, .ready⟩)

def ServerScript.deliver (script : ServerScript) (message : Message) (record : ServerRecord) :
    Store.Reply × ServerRecord :=
  match record.connections with
  | [] => (.lost, record)
  | (database, messages) :: others =>
      (script.reply message,
        { record with connections := (database, message :: messages) :: others })

def ServerScript.settle (script : ServerScript) (record : ServerRecord) : ServerRecord :=
  match record.link with
  | .givenUp =>
      let (reply, record) := script.deliver (.simple "ROLLBACK") record
      { record with link := if reply.result.isOk then .ready else .closed }
  | _ => record

/-- Takes a message over the latest connection, or over a new one if that is closed. -/
def ServerScript.convey (script : ServerScript) (message : Message) (record : ServerRecord) :
    Store.Reply × ServerRecord :=
  match record.link, record.connections with
  | .closed, (database, _) :: _ =>
      let (reply, record) := script.dial database record
      if reply.result.isOk then script.deliver message record else (reply, record)
  | _, _ => script.deliver message record

def ServerScript.respond (script : ServerScript) (record : ServerRecord) (demand : Demand) :
    Store.Reply × ServerRecord :=
  match demand with
  | .connect database => script.dial database (script.settle record)
  | .say message => script.convey message (script.settle record)
  | .giveUp => (.rows [] 0, { record with link := .givenUp })

def ServerScript.serve {α : Type} (script : ServerScript) (dialogue : Dialogue Demand Store.Reply α)
    (record : ServerRecord) : α × ServerRecord :=
  dialogue.play script.respond record

def dictionaryUrl : String := "http://127.0.0.1:1/ingredients/resolve"

/-- A service program as a dialogue with the database server. Every new id is `id` and the time is
always `now`; nobody listens at the providers' addresses, and nothing goes on in the background. -/
def converse (id : Uuid) (now : Timestamp) {α : Type} : Program α → Dialogue Demand Store.Reply α
  | .done value => .done value
  | .perform (.store call) next =>
      .ask (.say (.prepared call.statement.text call.parameters)) fun reply =>
        converse id now (next (call.answerOf reply))
  | .perform (.extract _ _) next =>
      converse id now (next (.answered (.error (.transport .unreachable))))
  | .perform (.resolve _ _) next =>
      converse id now (next (.answered (.error (.transport (.noListener dictionaryUrl)))))
  | .perform (.publish _) next => converse id now (next (.ok ()))
  | .perform (.process _ _) next => converse id now (next ())
  | .perform .now next => converse id now (next now)
  | .perform (.newId _) next => converse id now (next id)

def serveRequest (script : ServerScript) (settings : IngestSettings) (id : Uuid) (now : Timestamp)
    (request : Http.Request) (record : ServerRecord) : Http.Response × ServerRecord :=
  script.serve (converse id now (Http.handle settings request)) record

def startUp (database : String) : Conversation Unit := do
  Conversation.connect database
  Conversation.ensureSchema

end Larder.Simulation
