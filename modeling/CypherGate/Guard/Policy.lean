import CypherGate.Text.Case
/-!
# Guard policies

What the guard looks for: forbidden words, procedures that may be called, and openings that a
query may have. Queries are compared in lower case, so the entries are lower-cased first.
-/
namespace CypherGate.Guard

structure Policy where
  forbidden : List String
  procedures : List String
  openings : List String
  deriving DecidableEq, Repr

namespace Policy

def ofTables (forbidden procedures openings : List String) : Policy :=
  ⟨forbidden.map lowerCase, procedures.map lowerCase, openings.map lowerCase⟩

/-- Adds forbidden words, and procedures together with the calls to them as openings. -/
def extend (p : Policy) (forbidden procedures : List String) : Policy :=
  ofTables (p.forbidden ++ forbidden) (p.procedures ++ procedures)
    (p.openings ++ procedures.map fun name => "call " ++ lowerCase name)

def defaultForbidden : List String :=
  ["create", "delete", "detach delete", "merge", "set", "remove", "drop", "alter", "constraint",
    "index", "call \x7b", "load csv", "foreach", "with create", "with merge", "with delete",
    "with set", "with remove"]

def defaultProcedures : List String :=
  ["db.schema", "db.labels", "db.relationshipTypes", "db.propertyKeys", "apoc.meta", "algo.",
    "gds."]

def defaultOpenings : List String :=
  ["match", "return", "with", "unwind", "call db.schema", "call db.labels",
    "call db.relationshipTypes", "call db.propertyKeys", "call apoc.meta", "show"]

def standard : Policy := ofTables defaultForbidden defaultProcedures defaultOpenings

theorem standard_eq : standard = ⟨defaultForbidden,
    ["db.schema", "db.labels", "db.relationshiptypes", "db.propertykeys", "apoc.meta", "algo.",
      "gds."],
    ["match", "return", "with", "unwind", "call db.schema", "call db.labels",
      "call db.relationshiptypes", "call db.propertykeys", "call apoc.meta", "show"]⟩ := by
  rw [standard, ofTables, map_lowerCase_of_ascii (by decide +kernel),
    map_lowerCase_of_ascii (by decide +kernel), map_lowerCase_of_ascii (by decide +kernel)]
  decide +kernel

end Policy

end CypherGate.Guard
