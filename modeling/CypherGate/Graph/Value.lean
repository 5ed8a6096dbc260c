import CypherGate.Graph.Tree
/-!
# Values of the database

Everything a query can take or return: plain values, tuples, durations, points, and the graph
itself. A relationship names its two nodes by their element ids; a path alternates nodes and
relationships in traversal order.
-/
namespace CypherGate

structure Node (α : Type) where
  elementId : String
  labels : List String
  properties : List (String × α)

structure Relationship (α : Type) where
  elementId : String
  kind : String
  start : String
  finish : String
  properties : List (String × α)

/-- A walk: each step takes a relationship, in either direction, to the next node. -/
structure Path (α : Type) where
  start : Node α
  steps : List (Relationship α × Node α)

inductive Value where
  | null
  | bool (b : Bool)
  | int (n : Int)
  | float (x : Binary64)
  | str (s : String)
  | other (s : Scalar)
  | list (items : List Value)
  | tuple (items : List Value)
  | map (entries : List (String × Value))
  | duration (months days seconds nanoseconds : Int)
  | point (srid : Int) (coordinates : List Binary64)
  | node (node : Node Value)
  | relationship (relationship : Relationship Value)
  | path (path : Path Value)

namespace Value

mutual
def ofTree : Tree → Value
  | .null => .null
  | .bool b => .bool b
  | .int n => .int n
  | .float x => .float x
  | .str s => .str s
  | .other s => .other s
  | .list items => .list (ofTrees items)
  | .map entries => .map (ofEntries entries)

def ofTrees : List Tree → List Value
  | [] => []
  | t :: rest => ofTree t :: ofTrees rest

def ofEntries : List (String × Tree) → List (String × Value)
  | [] => []
  | (key, t) :: rest => (key, ofTree t) :: ofEntries rest
end

end Value

end CypherGate
