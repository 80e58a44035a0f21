import Larder.Provider.Extraction
import Larder.Provider.Resolution
import Larder.Simulation.Script

/-!
Scripted servers on which the providers' clients are run.

A server answers at once, or holds a request until the client gives up, or closes the connection. It
waits in vain for the rest of a request that is shorter than announced. The time that an exchange takes
is the sum of what its requests take.
-/

namespace Larder.Simulation

open Provider (Exchange)

inductive Treatment
  | respond (status : Nat) (body : List UInt8)
  | hold
  | await
  | hangUp
  | refuse

/-- The client's view of a response. The statuses for a change of protocol, for no content and for no
change have no body. Any other status below 200 announces a further response, which does not come, and
a status has three digits. -/
def responseReply (status : Nat) (body : List UInt8) : Provider.Reply :=
  if status = 101 ∨ status = 204 ∨ status = 304 then .response status []
  else if 200 ≤ status ∧ status < 1000 then .response status body
  else .failure .interrupted

def Treatment.reply : Treatment → Provider.Reply
  | .respond status body => responseReply status body
  | .hold | .await => .failure .timedOut
  | .hangUp => .failure .interrupted
  | .refuse => .failure .unreachable

def Treatment.duration (patience : Nat) : Treatment → Nat
  | .hold | .await => patience
  | _ => 0

def Treatment.arrives : Treatment → Bool
  | .refuse | .await => false
  | _ => true

/-- A server: how it treats requests, by the number of those that arrived before. -/
abbrev Server := Nat → Provider.Request → Treatment

def Server.treat (server : Server) (arrived : Nat) (request : Provider.Request) : Treatment :=
  match server arrived request with
  | .refuse => .refuse
  | treatment => if request.arrival = .stuck then .await else treatment

def Server.play {α : Type} (server : Server) (patience : Nat) :
    Nat → Exchange α → Reply α
  | _, .done outcome => ⟨.millis 0, outcome, []⟩
  | arrived, .ask request next =>
      let treatment := server.treat arrived request
      let rest := play server patience (if treatment.arrives then arrived + 1 else arrived)
        (next treatment.reply)
      let latency :=
        match rest.latency with
        | .millis count => .millis (treatment.duration patience + count)
        | .never => .never
      ⟨latency, rest.outcome,
        if treatment.arrives then request :: rest.requests else rest.requests⟩

def Providers.served (extractor : ExtractorConfig) (resolver : ResolverConfig)
    (extractorServer resolverServer : Server) : Providers :=
  ⟨fun _ arrived text =>
      extractorServer.play extractor.timeout arrived (Provider.extract extractor text),
    fun _ arrived name =>
      resolverServer.play resolver.timeout arrived (Provider.resolve resolver name)⟩

end Larder.Simulation
