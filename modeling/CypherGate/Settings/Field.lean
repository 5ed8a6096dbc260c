/-!
# The settings by name

Text settings that have a default have it here; lists default to the empty list, the database to the
server's own choice, and the password to nothing at all.
-/
namespace CypherGate

inductive Setting where
  | uri
  | username
  | password
  | database
  | logLevel
  | serverName
  | transport
  | host
  | port
  | extraForbidden
  | extraProcedures
  deriving DecidableEq, Repr

namespace Setting

def all : List Setting :=
  [.uri, .username, .password, .database, .logLevel, .serverName, .transport, .host, .port,
    .extraForbidden, .extraProcedures]

def name : Setting → String
  | .uri => "neo4j_uri"
  | .username => "neo4j_username"
  | .password => "neo4j_password"
  | .database => "neo4j_database"
  | .logLevel => "log_level"
  | .serverName => "server_name"
  | .transport => "mcp_transport"
  | .host => "mcp_host"
  | .port => "mcp_port"
  | .extraForbidden => "extra_forbidden_keywords"
  | .extraProcedures => "extra_allowed_procedures"

/-- Lists are written in JSON wherever a setting is a text. -/
def isList : Setting → Bool
  | .extraForbidden | .extraProcedures => true
  | _ => false

end Setting

def defaultUri : String := "bolt://localhost:7687"

def defaultUsername : String := "neo4j"

def defaultLogLevel : String := "INFO"

def defaultServerName : String := "neo4j-mcp-server"

def defaultHost : String := "127.0.0.1"

def defaultPort : Int := 8000

end CypherGate
