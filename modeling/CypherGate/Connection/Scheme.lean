import CypherGate.Fault
import CypherGate.Url.Authority
/-!
# Database URLs that the client library takes

The client library creates drivers for a few schemes only, and takes no user name and no password
from a URL.
-/
namespace CypherGate.Connection

def supportedSchemes : List String := ["bolt", "bolt+ssc", "bolt+s", "neo4j", "neo4j+ssc", "neo4j+s"]

def renamedSchemes : List (String × String) := [("bolt+routing", "neo4j")]

def schemeDefect? (scheme : String) : Option String :=
  if supportedSchemes.contains scheme then none
  else match renamedSchemes.lookup scheme with
    | some current =>
      some ("Uri scheme " ++ quote scheme ++ " has been renamed. Use " ++ quote current)
    | none =>
      some ("URI scheme " ++ quote scheme ++ " is not supported. Supported URI schemes are [" ++
        String.intercalate ", " (supportedSchemes.map quote) ++
        "]. Examples: bolt://host[:port] or neo4j://host[:port][?routing_context]")

def urlDefect? (u : Url) : Option String :=
  if !u.username.isEmpty then some "Username is not supported in the URI"
  else if !u.password.isEmpty then some "Password is not supported in the URI"
  else schemeDefect? (String.ofList u.scheme)

/-- Why the client library creates no driver for a text as URL. -/
def urlFault? (uri : String) : Option Fault :=
  match Url.split uri with
  | .error defect => some (.system .value defect.message)
  | .ok u => (urlDefect? u).map (.client .configuration)

end CypherGate.Connection
