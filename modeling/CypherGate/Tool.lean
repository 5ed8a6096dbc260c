import CypherGate.Json.Writer
import CypherGate.Request.Run
/-!
# The tools

Eleven read-only tools on a graph database. A tool answers with text: a payload as JSON, or the reason
why there is none. Only a payload that cannot be written makes the tool itself fail. The description
tells the calling agent when and how to use the tool.
-/
namespace CypherGate

inductive Tool where
  | query
  | schema
  | testConnection
  | nodeCount
  | relationshipCount
  | databaseInfo
  | indexes
  | constraints
  | sampleData
  | nodeProperties
  | relationshipProperties
  deriving DecidableEq, Repr

structure Parameter where
  name : String
  required : Bool
  deriving DecidableEq, Repr

namespace Tool

def all : List Tool :=
  [.query, .schema, .testConnection, .nodeCount, .relationshipCount, .databaseInfo, .indexes,
    .constraints, .sampleData, .nodeProperties, .relationshipProperties]

def task : Tool → String
  | .query => "query"
  | .schema => "schema"
  | .testConnection => "test_connection"
  | .nodeCount => "node_count"
  | .relationshipCount => "relationship_count"
  | .databaseInfo => "database_info"
  | .indexes => "indexes"
  | .constraints => "constraints"
  | .sampleData => "sample_data"
  | .nodeProperties => "node_properties"
  | .relationshipProperties => "relationship_properties"

def name (tool : Tool) : String := "neo4j_" ++ tool.task

def ofName? (name : String) : Option Tool := all.find? (·.name = name)

def parameters : Tool → List Parameter
  | .query => [⟨"query", true⟩, ⟨"parameters", false⟩]
  | .nodeCount => [⟨"label", false⟩]
  | .relationshipCount => [⟨"type", false⟩]
  | .sampleData => [⟨"label", false⟩, ⟨"relationshipType", false⟩, ⟨"limit", false⟩]
  | .nodeProperties => [⟨"label", true⟩]
  | .relationshipProperties => [⟨"type", true⟩]
  | _ => []

private def propertyNotes : List String :=
  ["", "Property types need the APOC plugin; without it the result lists",
    "property names and frequencies only, with a note saying so.", ""]

private def descriptionLines : Tool → List String
  | .query =>
    ["Execute read-only Cypher queries against the Neo4j database.", "",
      "Only MATCH, RETURN, WITH, UNWIND, SHOW and read-only CALL procedures",
      "(db.labels, db.relationshipTypes, db.propertyKeys, db.schema.*,",
      "apoc.meta.*, gds.*, algo.*) are allowed.  Any query mentioning a",
      "write keyword (CREATE, MERGE, DELETE, SET, REMOVE, DROP, ...) is",
      "rejected, even inside a string literal.", "", "Args:",
      "    query: The Cypher query to execute (read-only operations only).",
      "        Use $name placeholders for values.",
      "    parameters: Optional parameters for the query."]
  | .schema =>
    ["Get the database schema including node labels, relationship types, and property keys."]
  | .testConnection => ["Test the connection to the Neo4j database."]
  | .nodeCount =>
    ["Get the count of nodes by label or total count of all nodes.", "", "Args:",
      "    label: Optional label to count nodes for. If not provided,",
      "        returns total count of all nodes."]
  | .relationshipCount =>
    ["Get the count of relationships by type or total count of all relationships.", "", "Args:",
      "    type: Optional relationship type to count. If not provided,",
      "        returns total count of all relationships."]
  | .databaseInfo =>
    ["Get general database information including version, edition, and basic statistics."]
  | .indexes => ["List all indexes in the database."]
  | .constraints => ["List all constraints in the database."]
  | .sampleData =>
    ["Get sample data from the database for a specific label or relationship type.", "", "Args:",
      "    label: Node label to get sample data for.",
      "    relationshipType: Relationship type to get sample data for.",
      "        Give either label or relationshipType, not both.",
      "    limit: Number of samples to return (default: 5, min: 1, max: 50)."]
  | .nodeProperties =>
    ["Get all properties and their types for a specific node label."] ++ propertyNotes ++
      ["Args:", "    label: Node label to analyze properties for."]
  | .relationshipProperties =>
    ["Get all properties and their types for a specific relationship type."] ++ propertyNotes ++
      ["Args:", "    type: Relationship type to analyze properties for."]

def description (tool : Tool) : String := String.intercalate "\n" tool.descriptionLines

/-- The request of a call. What is not given is null. -/
def request (tool : Tool) (args : Arguments) : Request :=
  let argument (name : String) : Value := (args.lookup name).getD .null
  match tool with
  | .query => .query (argument "query") (argument "parameters")
  | .schema => .schema
  | .testConnection => .testConnection
  | .nodeCount => .nodeCount (argument "label")
  | .relationshipCount => .relationshipCount (argument "type")
  | .databaseInfo => .databaseInfo
  | .indexes => .indexes
  | .constraints => .constraints
  | .sampleData =>
    .sampleData (argument "label") (argument "relationshipType") (argument "limit")
  | .nodeProperties => .nodeProperties (argument "label")
  | .relationshipProperties => .relationshipProperties (argument "type")

end Tool

def Answer.render : Answer → Except Failure String
  | .text s => .ok s
  | .tree t => t.json?.elim (.error (.data .oversized)) .ok

namespace Tool

/-- What is logged when a tool fails. Rejections have been logged where they were decided. -/
def logFailure (tool : Tool) (failure : Failure) : Action Unit :=
  match failure.part? with
  | some .guard => return
  | some _ => Action.log .tools .warning s!"Tool {tool.name} failed: {failure.message}"
  | none => Action.log .tools .error s!"Unexpected failure in tool {tool.name}"

/-- Failures of the request are answered. The payload is rendered after that, and no failure to do so
is answered. -/
def call (guard : Guard) (tool : Tool) (args : Arguments) : Action String :=
  ((tool.request args).run guard).andThen fun
    | .ok answer => Action.ofExcept answer.render
    | .error failure => do
      tool.logFailure failure
      return "Error: " ++ failure.message

end Tool

def serverInstructions : String :=
  "Read-only access to a Neo4j graph database. Only MATCH, RETURN, WITH, " ++
    "UNWIND, SHOW and schema-introspection CALL procedures are allowed."

end CypherGate
