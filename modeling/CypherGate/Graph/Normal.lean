import CypherGate.Graph.Identity
import CypherGate.Graph.Value
/-!
# Plain form of values

Nodes, relationships, paths and points become maps, tuples and durations lists; all other values
stay as they are. Of a repeated key the last value counts. The one thing that can go wrong is an
element id whose number cannot be read.
-/
namespace CypherGate

def Identity.tree : Identity → Tree
  | .number n => .int n
  | .name elementId => .str elementId

def identityTree (elementId : String) : Except NumeralError Tree :=
  (Identity.ofElementId elementId).map Identity.tree

/-- Labels form a set, listed in the order of their code points. -/
def labelList (labels : List String) : List String :=
  (labels.mergeSort (· ≤ ·)).eraseDups

def nodeTree (identity : Tree) (labels : List String) (properties : List (String × Tree)) : Tree :=
  .map [("identity", identity), ("labels", .list ((labelList labels).map .str)),
    ("properties", .map properties)]

def relationshipTree (identity start finish : Tree) (kind : String)
    (properties : List (String × Tree)) : Tree :=
  .map [("identity", identity), ("start", start), ("end", finish), ("type", .str kind),
    ("properties", .map properties)]

def segmentTree (start relationship finish : Tree) : Tree :=
  .map [("start", start), ("relationship", relationship), ("end", finish)]

def pathTree (start finish : Tree) (segments : List Tree) : Tree :=
  .map [("start", start), ("end", finish), ("segments", .list segments)]

def pointTree (srid : Int) (coordinates : List Binary64) : Tree :=
  .map (("srid", .int srid) :: ["x", "y", "z"].zip (coordinates.map .float))

def lastNode (start : Tree) (steps : List (Tree × Tree)) : Tree :=
  (steps.getLast?.map Prod.snd).getD start

def segments (start : Tree) : List (Tree × Tree) → List Tree
  | [] => []
  | (r, n) :: rest => segmentTree start r n :: segments n rest

mutual
def normalize : Value → Except NumeralError Tree
  | .null => .ok .null
  | .bool b => .ok (.bool b)
  | .int n => .ok (.int n)
  | .float x => .ok (.float x)
  | .str s => .ok (.str s)
  | .other s => .ok (.other s)
  | .list items => do return .list (← normalizeItems items)
  | .tuple items => do return .list (← normalizeItems items)
  | .map entries => do return .map (collapse (← normalizeEntries entries))
  | .duration months days seconds nanoseconds =>
    .ok (.list [.int months, .int days, .int seconds, .int nanoseconds])
  | .point srid coordinates => .ok (pointTree srid coordinates)
  | .node n => normalizeNode n
  | .relationship r => normalizeRelationship r
  | .path ⟨start, steps⟩ => do
    let first ← normalizeNode start
    let rest ← normalizeSteps steps
    return pathTree first (lastNode first rest) (segments first rest)

def normalizeNode : Node Value → Except NumeralError Tree
  | ⟨elementId, labels, properties⟩ => do
    let identity ← identityTree elementId
    return nodeTree identity labels (collapse (← normalizeEntries properties))

def normalizeRelationship : Relationship Value → Except NumeralError Tree
  | ⟨elementId, kind, start, finish, properties⟩ => do
    let identity ← identityTree elementId
    let first ← identityTree start
    let last ← identityTree finish
    return relationshipTree identity first last kind (collapse (← normalizeEntries properties))

/-- Both ends of each step, relationship first. -/
def normalizeSteps : List (Relationship Value × Node Value) → Except NumeralError (List (Tree × Tree))
  | [] => .ok []
  | (r, n) :: rest => do
    let relationship ← normalizeRelationship r
    let node ← normalizeNode n
    return (relationship, node) :: (← normalizeSteps rest)

def normalizeItems : List Value → Except NumeralError (List Tree)
  | [] => .ok []
  | v :: rest => do
    let first ← normalize v
    return first :: (← normalizeItems rest)

def normalizeEntries : List (String × Value) → Except NumeralError (List (String × Tree))
  | [] => .ok []
  | (key, v) :: rest => do
    let first ← normalize v
    return (key, first) :: (← normalizeEntries rest)
end

/-- A row of a result, whose columns may repeat. -/
abbrev Row := List (String × Value)

/-- The entries of a plain row: the last value of a repeated column counts. -/
def normalizeRow (row : Row) : Except NumeralError (List (String × Tree)) :=
  (normalizeEntries row).map collapse

end CypherGate
