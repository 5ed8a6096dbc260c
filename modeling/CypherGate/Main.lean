import CypherGate.CommandLine
import CypherGate.Serve
/-!
# The program

Reads arguments, environment and the file of variables, and either reports what is wrong with them or
starts up. The transport and the database driver are not part of this library: whoever embeds it
supplies them for the steps of `Settings.steps`.
-/
namespace CypherGate.Main

def readEnvironment : IO (List (String × String)) := do
  let names := Setting.all.flatMap fun setting => [setting.name, upperCase setting.name]
  let values ← names.mapM fun name => do return (name, ← IO.getEnv name)
  return values.filterMap fun (name, value) => value.map fun v => (name, v)

def readFile : IO (Option String) :=
  try some <$> IO.FS.readFile ".env" catch _ => return none

def usage : String :=
  "Usage: neo4j-readonly-mcp [OPTIONS]\n\nRead-only Neo4j MCP server.\n\nOptions:\n" ++
    String.join (CommandLine.options.map fun (name, _) => "  " ++ name ++ " VALUE\n") ++
    "  -h, --help\n"

def tell (file : Option String) : CommandLine.Conclusion → IO Unit
  | .help => IO.print usage
  | .misuse => IO.eprint usage
  | .failed (.invalid problems) => IO.eprint (CommandLine.report file problems)
  | .failed failure => IO.eprintln failure.message
  | .noLevel name => IO.eprintln name.message
  | .serve settings =>
    let record := settings.startRecord
    IO.eprintln s!"{record.source.logger}  {record.level.name}  {record.message}"

end CypherGate.Main

def main (args : List String) : IO UInt32 := do
  let file ← CypherGate.Main.readFile
  let conclusion := CypherGate.CommandLine.conclude args (← CypherGate.Main.readEnvironment) file
  CypherGate.Main.tell file conclusion
  return (CypherGate.CommandLine.exitCode conclusion).toUInt32
