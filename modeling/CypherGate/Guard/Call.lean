import CypherGate.Text.Blank
/-!
# Procedure calls in a query

A call is the word `call`, at least one blank, and a name made of lower-case letters, digits,
underscores and dots. The query is in lower case.
-/
namespace CypherGate.Guard

def isNameChar (c : Char) : Bool :=
  ('a' ≤ c && c ≤ 'z') || ('0' ≤ c && c ≤ '9') || c == '_' || c == '.'

/-- The procedure called at the very start of a text. -/
def callHere? : List Char → Option (List Char)
  | 'c' :: 'a' :: 'l' :: 'l' :: b :: rest =>
    let name := (rest.dropWhile Text.isBlank).takeWhile isNameChar
    if Text.isBlank b && !name.isEmpty then some name else none
  | _ => none

def calls : List Char → List (List Char)
  | [] => []
  | c :: rest => (callHere? (c :: rest)).toList ++ calls rest

def firstCall? (text : List Char) : Option (List Char) := (calls text).head?

end CypherGate.Guard
