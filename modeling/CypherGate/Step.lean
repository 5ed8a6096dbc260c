import CypherGate.Connection.Batch
import CypherGate.Tool
/-!
# Steps of a client

Everything that a client can do with the database link, and runs of such steps. The database may
behave differently from step to step.
-/
namespace CypherGate

inductive Step where
  | tool (tool : Tool) (args : Arguments)
  | request (request : Request)
  /-- A query without a guard, on a session of its own. -/
  | fetch (query : String) (parameters : List (String × Value))
  | connect
  | close
  /-- A session whose user fails. -/
  | abandon (cause : Fault)
  | together (calls : List Connection.Call)

inductive StepResult where
  | text (s : String)
  | answer (a : Answer)
  | records (rows : List PlainRow) (summary : Option Summary)
  | connected (driver : Nat)
  | closed
  | together (results : List (Option (Except Failure Unit)))

namespace Step

def fetchRecords (query : String) (parameters : List (String × Value)) : Action StepResult := do
  let (rows, summary) ← Connection.withSession (Connection.fetch query parameters)
  return .records (← Request.plainRows rows) summary

def runTogether (calls : List Connection.Call) : Action StepResult := fun site link =>
  let batch := Connection.runTogether (fun _ => site) link calls
  ⟨.ok (.together (batch.results calls)), batch.link, batch.events.map Prod.snd⟩

def action (guard : Guard) : Step → Action StepResult
  | .tool t args => StepResult.text <$> t.call guard args
  | .request r => StepResult.answer <$> r.run guard
  | .fetch query parameters => fetchRecords query parameters
  | .connect => StepResult.connected <$> Connection.connect
  | .close => do
    Connection.close
    return .closed
  | .abandon cause => Connection.withSession (Action.fail (.fault cause))
  | .together calls => runTogether calls

def run (step : Step) (guard : Guard) (site : Site) (link : Link) : Outcome StepResult :=
  (step.action guard).run site link

/-- The link after a run of steps, and all events of it. -/
def runAll (guard : Guard) (link : Link) : List (Site × Step) → Link × List Event
  | [] => (link, [])
  | (site, step) :: rest =>
    let outcome := step.run guard site link
    let (last, events) := runAll guard outcome.link rest
    (last, outcome.events ++ events)

end Step

end CypherGate
