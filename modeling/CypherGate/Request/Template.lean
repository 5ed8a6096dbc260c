import CypherGate.Arguments.Schema
import CypherGate.Identifier
/-!
# The program's own queries

All queries other than those of callers. A caller decides at most a label or a relationship type,
which stands between backquotes, and the number of samples.
-/
namespace CypherGate

inductive Subject where
  | nodes (label : Identifier)
  | relationships (type : Identifier)

inductive Template where
  | labels
  | relationshipTypes
  | propertyKeys
  | ping
  | components
  | totalNodes
  | totalRelationships
  | countNodes (label : Option Identifier)
  | countRelationships (type : Option Identifier)
  | indexes
  | constraints
  | sampleNodes (label : Option Identifier) (limit : SampleLimit)
  | sampleRelationships (type : Identifier) (limit : SampleLimit)
  | typedProperties (subject : Subject)
  | untypedProperties (subject : Subject)

namespace Subject

def entity : Subject → String
  | .nodes _ => "n"
  | .relationships _ => "r"

def pattern : Subject → String
  | .nodes label => "MATCH (n:" ++ label.backquoted ++ ")"
  | .relationships type => "MATCH ()-[r:" ++ type.backquoted ++ "]->()"

end Subject

namespace Template

/-- A colon and a name between backquotes, or nothing. -/
def ofKind (name : Option Identifier) : String :=
  match name with
  | some i => ":" ++ i.backquoted
  | none => ""

def limited (limit : SampleLimit) : String := " LIMIT " ++ decimalText limit.val

def text : Template → String
  | .labels => "CALL db.labels() YIELD label RETURN label"
  | .relationshipTypes =>
    "CALL db.relationshipTypes() YIELD relationshipType RETURN relationshipType"
  | .propertyKeys => "CALL db.propertyKeys() YIELD propertyKey RETURN propertyKey"
  | .ping => "RETURN 'Connection successful' AS message"
  | .components =>
    "CALL dbms.components() YIELD name, versions, edition RETURN name, versions, edition"
  | .totalNodes => "MATCH (n) RETURN count(n) AS nodeCount"
  | .totalRelationships => "MATCH ()-[r]->() RETURN count(r) AS relCount"
  | .countNodes label => "MATCH (n" ++ ofKind label ++ ") RETURN count(n) AS count"
  | .countRelationships type => "MATCH ()-[r" ++ ofKind type ++ "]->() RETURN count(r) AS count"
  | .indexes => "SHOW INDEXES"
  | .constraints => "SHOW CONSTRAINTS"
  | .sampleNodes label limit => "MATCH (n" ++ ofKind label ++ ") RETURN n" ++ limited limit
  | .sampleRelationships type limit =>
    "MATCH (a)-[r:" ++ type.backquoted ++ "]->(b) RETURN a, r, b" ++ limited limit
  | .typedProperties subject =>
    subject.pattern ++ " UNWIND keys(" ++ subject.entity ++ ") AS key RETURN DISTINCT key, " ++
      "       apoc.meta.cypher.type(" ++ subject.entity ++ "[key]) AS type, " ++
      "       count(*) AS frequency ORDER BY frequency DESC, key"
  | .untypedProperties subject =>
    subject.pattern ++ " UNWIND keys(" ++ subject.entity ++ ") AS key " ++
      "RETURN DISTINCT key, count(*) AS frequency ORDER BY frequency DESC, key"

end Template

end CypherGate
