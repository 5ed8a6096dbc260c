import CypherGate.Log
import CypherGate.Settings.Load
/-!
# Serving

The server is created, serves on its transport until that ends, and the driver is closed once,
however serving ends.
-/
namespace CypherGate

inductive ServerStep where
  /-- The server is created, with the tools on a database and the procedures allowed by settings. -/
  | created (name : String) (endpoint : Endpoint) (extraProcedures : List String)
  | listening (host : String) (port : Int) (logLevel : String)
  | serving (transport : Transport)
  | closed
  deriving DecidableEq, Repr

namespace Settings

def addedProcedures (s : Settings) : List String :=
  s.policy.procedures.drop Guard.Policy.standard.procedures.length

def startMessage (s : Settings) : String :=
  match s.transport with
  | .stdio => "Starting Neo4j MCP server (stdio transport)"
  | .sse =>
    "Starting Neo4j MCP server (SSE transport on " ++ s.host ++ ":" ++ decimalText s.port ++ ")"

def startRecord (s : Settings) : LogRecord := ⟨.info, .commandLine, s.startMessage⟩

def steps (s : Settings) : List ServerStep :=
  let listening := match s.transport with
    | .stdio => []
    | .sse => [ServerStep.listening s.host s.port (lowerCase s.logLevel)]
  [.created s.serverName s.endpoint s.addedProcedures] ++ listening ++
    [.serving s.transport, .closed]

end Settings

end CypherGate
