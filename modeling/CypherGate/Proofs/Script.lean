import CypherGate.Request.Run
import CypherGate.Proofs.Checks
import CypherGate.Proofs.Trace
/-!
# Scripts of requests

What a request means to ask, told from its arguments alone. A script is either a fixed sequence of
queries or a query with a fallback, which is for the case that the database fails the first one. A
request without a script is refused.
-/
namespace CypherGate

/-- The fault that a query meets, at whatever stage. -/
def Database.fault? (db : Database) (q : Query) : Option Fault :=
  (db.reply q.1 q.2).fault.map Prod.snd

inductive Script where
  | inOrder (queries : List Query)
  | withFallback (first second : Query)

namespace Script

def queries : Script → List Query
  | .inOrder qs => qs
  | .withFallback first second => [first, second]

/-- Whether a fault means that the database failed the query and can be asked on. -/
def isFailedQuery (fault : Fault) : Bool := Connection.queryFailure fault matches .execution _

def absorbs : Script → Query → Fault → Prop
  | .inOrder _, _, _ => False
  | .withFallback first _, q, fault => q = first ∧ isFailedQuery fault

/-- Whether the script goes on after a query. -/
def Passes (script : Script) (db : Database) (q : Query) : Prop :=
  ∀ fault, db.fault? q = some fault → script.absorbs q fault

/-- The queries of a run that comes to its end: the fallback is asked only in its case. -/
def path (db : Database) : Script → List Query
  | .inOrder qs => qs
  | .withFallback first second =>
    if (db.fault? first).any isFailedQuery then [first, second] else [first]

theorem path_prefix (script : Script) (db : Database) : script.path db <+: script.queries := by
  cases script with
  | inOrder qs => exact List.prefix_refl qs
  | withFallback first second =>
    simp only [path, queries]
    split
    · exact List.prefix_refl _
    · exact ⟨[second], rfl⟩

end Script

def Template.query (t : Template) : Query := (t.text, [])

namespace Request

def ownScript (templates : List Template) : Script := .inOrder (templates.map Template.query)

def propertyScript (subject : Subject) : Script :=
  .withFallback (Template.typedProperties subject).query (Template.untypedProperties subject).query

def accepted {α : Type} (checked : Checked α) : Except Failure α := checked.mapError .arguments

def named (role name : String) : Except Failure Identifier :=
  (Identifier.ofName role name).mapError .unsafeName

def namedOptional (role : String) (name : Option String) : Except Failure (Option Identifier) :=
  match name.filter (· ≠ "") with
  | some name => some <$> named role name
  | none => return none

def sampled (args : SampleArguments) : Except Failure Template := do
  if isNamed args.label then
    return .sampleNodes (← namedOptional labelRole args.label) args.limit
  else match ← namedOptional typeRole args.relationshipType with
    | some type => return .sampleRelationships type args.limit
    | none => return .sampleNodes none args.limit

/-- The script of a request, if its arguments keep to their schema, its query is safe and its names
are identifiers. -/
def script (guard : Guard) : Request → Except Failure Script
  | .query q parameters => do
    let args ← accepted (QueryArguments.parse [("query", q), ("parameters", parameters)])
    match guard.classify args.query with
    | .rejected refusal => throw (.rejected refusal)
    | .safe => return .inOrder [(args.query, args.parameters)]
  | .schema => return ownScript [.labels, .relationshipTypes, .propertyKeys]
  | .testConnection => return ownScript [.ping]
  | .nodeCount label => do
    let label ← accepted (Arguments.parseOptionalName "label" [("label", label)])
    return ownScript [.countNodes (← namedOptional labelRole label)]
  | .relationshipCount type => do
    let type ← accepted (Arguments.parseOptionalName "type" [("type", type)])
    return ownScript [.countRelationships (← namedOptional typeRole type)]
  | .databaseInfo => return ownScript [.components, .totalNodes, .totalRelationships]
  | .indexes => return ownScript [.indexes]
  | .constraints => return ownScript [.constraints]
  | .sampleData label relationshipType limit => do
    let args ← accepted (SampleArguments.parse
      [("label", label), ("relationshipType", relationshipType), ("limit", limit)])
    return ownScript [← sampled args]
  | .nodeProperties label => do
    let label ← accepted (Arguments.parseName "label" [("label", label)])
    return propertyScript (.nodes (← named labelRole label))
  | .relationshipProperties type => do
    let type ← accepted (Arguments.parseName "type" [("type", type)])
    return propertyScript (.relationships (← named typeRole type))

end Request

end CypherGate
