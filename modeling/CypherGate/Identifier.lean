import CypherGate.Text.Quoted
/-!
# Labels and relationship types in queries

The query language takes no parameter for a label or a relationship type, so they are put into the
text of a query, between backquotes and only after a check. The check lets one line break at the
end pass.
-/
namespace CypherGate

namespace Identifier

def isStart (c : Char) : Bool := ('a' ≤ c && c ≤ 'z') || ('A' ≤ c && c ≤ 'Z') || c == '_'

def isContinuation (c : Char) : Bool := isStart c || ('0' ≤ c && c ≤ '9')

def isPlain : List Char → Bool
  | [] => false
  | c :: rest => isStart c && rest.all isContinuation

def isSafe (name : String) : Bool :=
  let s := name.toList
  isPlain s || (s.getLast? == some '\n' && isPlain s.dropLast)

end Identifier

abbrev Identifier := { name : String // Identifier.isSafe name = true }

namespace Identifier

/-- A name that may not be put into a query, and what it was to name. -/
structure Unsafe where
  name : String
  role : String
  deriving DecidableEq, Repr

def Unsafe.message (u : Unsafe) : String :=
  s!"Invalid {u.role} name {quote u.name}. " ++ String.ofList (Text.capitalize u.role.toList) ++
    "s must contain only letters, numbers, and underscores and must not start with a number."

def ofName (role name : String) : Except Unsafe Identifier :=
  if h : isSafe name = true then .ok ⟨name, h⟩ else .error ⟨name, role⟩

def backquoted (i : Identifier) : String := "\x60" ++ i.val ++ "\x60"

end Identifier

end CypherGate
