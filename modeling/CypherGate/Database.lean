import CypherGate.Fault
import CypherGate.Graph.Normal
/-!
# The database as a client meets it

A server behind a driver. Creating a driver and verifying its connectivity may fault; a query is
answered by rows and a summary, or by a fault at some stage.
-/
namespace CypherGate

structure Endpoint where
  uri : String
  username : String
  password : String
  database : Option String
  deriving DecidableEq, Repr

structure Summary where
  availableAfter : Tree
  consumedAfter : Tree
  counters : Option (List (String × Tree))

/-- Where a query faults: at once, after all rows, or when its result is discarded. -/
inductive Stage where
  | run
  | iterate
  | consume
  deriving DecidableEq, Repr

structure Reply where
  rows : List Row
  summary : Option Summary
  fault : Option (Stage × Fault)

structure Database where
  create : Endpoint → Option Fault
  verify : Option Fault
  reply : String → List (String × Value) → Reply

namespace Summary

def counterNames : List String :=
  ["nodes_created", "nodes_deleted", "relationships_created", "relationships_deleted",
    "properties_set", "labels_added", "labels_removed", "indexes_added", "indexes_removed",
    "constraints_added", "constraints_removed", "system_updates", "contains_updates",
    "contains_system_updates"]

/-- All known counters, zero where the server names none; nothing without counters. -/
def counterTree (summary : Option Summary) : Tree :=
  match summary.bind (·.counters) with
  | none => .map []
  | some counters => .map (counterNames.map fun name => (name, (counters.lookup name).getD (.int 0)))

def tree (summary : Option Summary) : Tree :=
  .map [("resultConsumedAfter", (summary.map (·.consumedAfter)).getD .null),
    ("resultAvailableAfter", (summary.map (·.availableAfter)).getD .null),
    ("counters", counterTree summary)]

end Summary

end CypherGate
