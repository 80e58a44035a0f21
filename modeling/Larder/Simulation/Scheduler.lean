import Larder.Simulation.World

/-!
Running programs together on the virtual clock.

A program runs until it waits for a provider. It is woken when the answer is there, when the budget of
the call is used up, or, in the background, when the budget for the whole job is. An answer that
comes at the last moment counts; a job's own budget counts only once the program waits again.

Tasks run in the order in which they became ready. Those that are woken at one instant become so in the
order in which the appointments were made, and time passes only when no task is ready. A program that
is waited for runs before all tasks that are woken at its instant.
-/

namespace Larder.Simulation

def Waiting.resume? {α : Type} (call : Waiting α) (time : Nat) : Option (Program α) :=
  if call.answer.any (·.time ≤ time) then some call.answered
  else if call.budget.time ≤ time then some call.timedOut
  else none

def Waiting.timers {α : Type} (call : Waiting α) : List Timer :=
  call.answer.toList ++ [call.budget]

def Task.timers (task : Task) : List Timer :=
  match task.progress with
  | .fresh _ => []
  | .started deadline call => call.timers ++ [deadline]

def World.settle (script : Script) (world : World) (jobId : Uuid)
    (outcome : Except ServiceError Nat) : World :=
  (world.run script (Service.settle jobId outcome)).2

def World.keep (script : Script) (world : World) (jobId : Uuid) (deadline : Timer)
    (call : Waiting (Except ServiceError Nat)) : World :=
  if deadline.time ≤ world.clock then
    world.settle script jobId (.error (Service.processTimedOut script.settings))
  else { world with asleep := world.asleep ++ [⟨jobId, .started deadline call⟩] }

def World.runTask (script : Script) (world : World) (task : Task) : World :=
  match task.progress with
  | .fresh text =>
      match world.run script (Service.processJob script.settings task.jobId text).run with
      | (.finished outcome, world) => world.settle script task.jobId outcome
      | (.waiting call, world) =>
          let deadline : Timer := ⟨world.clock + script.settings.processTimeout, world.appointments⟩
          let world := { world with appointments := world.appointments + 1 }
          world.keep script task.jobId deadline call
  | .started deadline call =>
      match call.resume? world.clock with
      | none => world.keep script task.jobId deadline call
      | some program =>
          match world.run script program with
          | (.finished outcome, world) => world.settle script task.jobId outcome
          | (.waiting call, world) => world.keep script task.jobId deadline call

def World.runReady (script : Script) (world : World) : World :=
  world.ready.foldl (World.runTask script) { world with ready := [] }

def Task.due? (task : Task) (time : Nat) : Option Nat :=
  ((task.timers.filter (·.time ≤ time)).map (·.place)).min?

def dueTasks (tasks : List Task) (time : Nat) : List Task :=
  let keyed := tasks.filterMap fun task => (task.due? time).map (·, task)
  (keyed.mergeSort fun a b => a.1 ≤ b.1).map (·.2)

def World.wakeAt (world : World) (time : Nat) : World :=
  { world with
    clock := time
    ready := world.ready ++ dueTasks world.asleep time
    asleep := world.asleep.filter fun task => (task.due? time).isNone }

def World.nextWake? (world : World) : Option Nat :=
  ((world.asleep.flatMap Task.timers).map (·.time)).min?

/-- Lets time pass up to `target`. A task is woken at a bounded number of times, since each of them
ends a wait for one of its calls, so `fuel` steps suffice when it is at least the time to pass. -/
def World.passUntil (script : Script) (target : Nat) : Nat → World → World
  | 0, world => { world with clock := max world.clock target }
  | fuel + 1, world =>
      let world := world.runReady script
      match world.nextWake? with
      | some time =>
          if time ≤ target then
            passUntil script target fuel (world.wakeAt (max (world.clock + 1) time))
          else { world with clock := target }
      | none => { world with clock := target }

def World.advance (script : Script) (millis : Nat) (world : World) : World :=
  world.passUntil script (world.clock + millis) (millis + 2)

def World.finish {α : Type} (script : Script) :
    Nat → World → Halted α → Option α × World
  | _, world, .finished value => (some value, world)
  | 0, world, .waiting _ => (none, world)
  | fuel + 1, world, .waiting call =>
      match call.resume? world.clock with
      | some program =>
          let (halted, world) := world.run script program
          finish script fuel world halted
      | none =>
          let world := world.runReady script
          match ((call.timers.map (·.time)) ++ world.nextWake?.toList).min? with
          | some time =>
              finish script fuel (world.wakeAt (max (world.clock + 1) time)) (.waiting call)
          | none => (none, world)

def World.complete {α : Type} (script : Script) (world : World) (program : Program α) :
    Option α × World :=
  let (halted, world) := world.run script program
  world.finish script 1000000 halted

end Larder.Simulation
