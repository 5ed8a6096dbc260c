import CypherGate.Number.FloatText
import CypherGate.Text.Quoted
/-!
# Plain trees

What the tools answer with: the values of JSON, integers and floats kept apart, and as further
leaves what JSON lacks. Keys of a map are in the order in which they were first set.
-/
namespace CypherGate

/-- A byte string, a point in time, or something that is only shown. Temporal values are known by
their text only. -/
inductive Scalar where
  | bytes (content : List UInt8)
  | date (text : String)
  | time (text : String)
  | dateTime (text : String)
  /-- A thing of some kind, of which only a description is left, or none if it cannot be described. -/
  | described (kind : String) (text : Option String)
  deriving DecidableEq, Repr

def Scalar.text? : Scalar → Option String
  | .bytes content => some (quoteBytes content)
  | .date text | .time text | .dateTime text => some text
  | .described _ text => text

def Scalar.text (s : Scalar) : String := s.text?.getD ""

inductive Tree where
  | null
  | bool (b : Bool)
  | int (n : Int)
  | float (x : Binary64)
  | str (s : String)
  | other (s : Scalar)
  | list (items : List Tree)
  | map (entries : List (String × Tree))
  deriving Repr

/-- Sets a key: the last value counts, at the place where the key came first. -/
def setEntry {α : Type} (key : String) (value : α) : List (String × α) → List (String × α)
  | [] => [(key, value)]
  | (k, v) :: rest =>
    if k = key then (key, value) :: rest else (k, v) :: setEntry key value rest

def collapse {α : Type} (pairs : List (String × α)) : List (String × α) :=
  pairs.foldl (fun entries (key, value) => setEntry key value entries) []

namespace Tree

def get? (key : String) : Tree → Option Tree
  | .map entries => entries.lookup key
  | _ => none

end Tree

end CypherGate
