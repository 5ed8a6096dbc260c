import CypherGate.Connection.Driver
import CypherGate.Graph.Description
import CypherGate.Request.Property
import CypherGate.Request.Template
/-!
# Requests

What the tools ask of the database. Arguments, queries and names are checked before anything is
sent; then one session serves the whole request. Null stands for an argument that is not given.
-/
namespace CypherGate

inductive Request where
  | query (query parameters : Value)
  | schema
  | testConnection
  | nodeCount (label : Value)
  | relationshipCount (type : Value)
  | databaseInfo
  | indexes
  | constraints
  | sampleData (label relationshipType limit : Value)
  | nodeProperties (label : Value)
  | relationshipProperties (type : Value)

inductive Answer where
  | text (s : String)
  | tree (t : Tree)

namespace Request

open CypherGate.Connection CypherGate.Action

def readArguments {α : Type} (schema : Arguments → Checked α) (args : Arguments) :
    Except Failure α :=
  if (args.lookup Arguments.reservedName).isSome then .error (.nameInUse Arguments.reservedName)
  else (schema args).mapError .arguments

def accept {α : Type} (checked : Checked α) : Action α := ofExcept (checked.mapError .arguments)

def identifier (role name : String) : Action Identifier :=
  ofExcept ((Identifier.ofName role name).mapError .unsafeName)

def optionalIdentifier (role : String) (name : Option String) : Action (Option Identifier) :=
  match name.filter (· ≠ "") with
  | some name => some <$> identifier role name
  | none => return none

def ofData {α : Type} (result : Except DataError α) : Action α := ofExcept (result.mapError .data)

def plainRows (rows : List Row) : Action (List PlainRow) :=
  ofData ((rows.mapM normalizeRow).mapError .numeral)

def rows (template : Template) : Action (List PlainRow) := do
  let (rows, _) ← fetch template.text []
  plainRows rows

def countRows (template : Template) (name : String) : Action Int := do
  ofData (PlainRow.firstCount (← rows template) name)

/-- The rows of a query, or nothing if the database fails it. -/
def attempt (template : Template) : Action (Option (List PlainRow)) :=
  (some <$> rows template).recover fun
    | .execution cause => do
      log .requests .warning s!"Optional query failed, using fallback: {cause.detail}"
      return none
    | failure => fail failure

/-- The properties of a subject, and whether the database could tell their types. -/
def findProperties (subject : Subject) : Action (List Property × Bool) := do
  match ← attempt (.typedProperties subject) with
  | some rows =>
    let found ← ofData (rows.mapM Property.ofTypedRow)
    return (← ofData (Property.rank found), true)
  | none =>
    let found ← ofData ((← rows (.untypedProperties subject)).mapM Property.ofUntypedRow)
    return (← ofData (Property.rank found), false)

def labelRole : String := "label"

def typeRole : String := "relationship type"

def rowsTree (rows : List PlainRow) : Tree := .list (rows.map .map)

def nameTree (name : Option String) (otherwise : String) : Tree :=
  .str ((name.filter (· ≠ "")).getD otherwise)

def runQuery (guard : Guard) (query parameters : Value) : Action Tree := do
  let args ← accept (QueryArguments.parse [("query", query), ("parameters", parameters)])
  match guard.classify args.query with
  | .rejected refusal =>
    let shown := String.ofList (args.query.toList.take 200)
    log .requests .warning s!"Rejected query ({refusal.reason}): {shown}"
    fail (.rejected refusal)
  | .safe =>
    let (rows, summary) ← withSession (fetch args.query args.parameters)
    let records ← plainRows rows
    return .map [("query", .str args.query),
      ("parameters", (Value.map args.parameters).plain),
      ("records", rowsTree records), ("summary", Summary.tree summary)]

def runSchema : Action Tree := do
  let (labels, types, keys) ← withSession do
    let labels ← rows .labels
    let types ← rows .relationshipTypes
    let keys ← rows .propertyKeys
    return (labels, types, keys)
  return .map [("labels", .list (← ofData (PlainRow.columnOf labels "label"))),
    ("relationshipTypes", .list (← ofData (PlainRow.columnOf types "relationshipType"))),
    ("propertyKeys", .list (← ofData (PlainRow.columnOf keys "propertyKey")))]

/-- The program's own failures are reported as failures of the test. -/
def runTestConnection : Action String :=
  (do
    let _ ← withSession (rows .ping)
    return "Neo4j connection test successful!").recover fun failure =>
      fail (if failure.part?.isSome then .testFailed failure else failure)

def runNodeCount (label : Value) : Action Tree := do
  let label ← accept (Arguments.parseOptionalName "label" [("label", label)])
  let template := Template.countNodes (← optionalIdentifier labelRole label)
  let n ← withSession (countRows template "count")
  return .map [("label", nameTree label "all_nodes"), ("count", .int n),
    ("query", .str template.text)]

def runRelationshipCount (type : Value) : Action Tree := do
  let type ← accept (Arguments.parseOptionalName "type" [("type", type)])
  let template := Template.countRelationships (← optionalIdentifier typeRole type)
  let n ← withSession (countRows template "count")
  return .map [("type", nameTree type "all_relationships"), ("count", .int n),
    ("query", .str template.text)]

def runDatabaseInfo : Action Tree := do
  let (components, nodes, relationships) ← withSession do
    let components ← rows .components
    let nodes ← countRows .totalNodes "nodeCount"
    let relationships ← countRows .totalRelationships "relCount"
    return (components, nodes, relationships)
  let told (name : String) : Tree := ((components.head?.getD []).lookup name).getD .null
  return .map [("name", told "name"), ("versions", told "versions"), ("edition", told "edition"),
    ("statistics", .map [("totalNodes", .int nodes), ("totalRelationships", .int relationships)])]

/-- The query for samples: of nodes unless there is a relationship type and no label. -/
def sampleTemplate (args : SampleArguments) : Action Template := do
  if isNamed args.label then
    return .sampleNodes (← optionalIdentifier labelRole args.label) args.limit
  else match ← optionalIdentifier typeRole args.relationshipType with
    | some type => return .sampleRelationships type args.limit
    | none => return .sampleNodes none args.limit

def runSampleData (label relationshipType limit : Value) : Action Tree := do
  let args ← accept (SampleArguments.parse
    [("label", label), ("relationshipType", relationshipType), ("limit", limit)])
  let template ← sampleTemplate args
  let samples ← withSession (rows template)
  return .map [("query", .str template.text), ("sampleCount", .int samples.length),
    ("samples", rowsTree samples)]

def untypedNote : String := "Property types not available (APOC not installed)"

def propertiesTree (title name : String) (found : List Property × Bool) : Tree :=
  let note := if found.2 then [] else [("note", .str untypedNote)]
  .map ([(title, .str name), ("properties", .list (found.1.map Property.tree))] ++ note)

def runNodeProperties (label : Value) : Action Tree := do
  let label ← accept (Arguments.parseName "label" [("label", label)])
  let subject := Subject.nodes (← identifier labelRole label)
  return propertiesTree "label" label (← withSession (findProperties subject))

def runRelationshipProperties (type : Value) : Action Tree := do
  let type ← accept (Arguments.parseName "type" [("type", type)])
  let subject := Subject.relationships (← identifier typeRole type)
  return propertiesTree "relationshipType" type (← withSession (findProperties subject))

def run (guard : Guard) : Request → Action Answer
  | .query q parameters => Answer.tree <$> runQuery guard q parameters
  | .schema => Answer.tree <$> runSchema
  | .testConnection => Answer.text <$> runTestConnection
  | .nodeCount label => Answer.tree <$> runNodeCount label
  | .relationshipCount type => Answer.tree <$> runRelationshipCount type
  | .databaseInfo => Answer.tree <$> runDatabaseInfo
  | .indexes => do return .tree (.map [("indexes", rowsTree (← withSession (rows .indexes)))])
  | .constraints => do
    return .tree (.map [("constraints", rowsTree (← withSession (rows .constraints)))])
  | .sampleData label relationshipType limit =>
    Answer.tree <$> runSampleData label relationshipType limit
  | .nodeProperties label => Answer.tree <$> runNodeProperties label
  | .relationshipProperties type => Answer.tree <$> runRelationshipProperties type

end Request

end CypherGate
