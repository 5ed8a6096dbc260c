import CypherGate.Graph.Moment
import CypherGate.Graph.Tree
/-!
# Equality and order of trees

Numbers compare by value, whatever their type; texts, byte strings and lists lexicographically;
dates, times and moments by what they stand for; maps are equal when they agree key by key, and have
no order. Values of different types are unequal and have no order either. Equality can fail as well
as order, where moments inside cannot be compared.
-/
namespace CypherGate

/-- A number on the scale of multiples of 2^-1074. -/
inductive Quantity where
  | nan
  | infinite (negative : Bool)
  | exact (units : Int)
  deriving DecidableEq, Repr

namespace Quantity

def same : Quantity → Quantity → Bool
  | .infinite a, .infinite b => a == b
  | .exact m, .exact n => m == n
  | _, _ => false

def less : Quantity → Quantity → Bool
  | .nan, _ | _, .nan => false
  | .exact m, .exact n => m < n
  | .infinite a, .infinite b => a && !b
  | .infinite a, .exact _ => a
  | .exact _, .infinite b => !b

end Quantity

namespace Scalar

def same : Scalar → Scalar → Except Incomparable Bool
  | .bytes s, .bytes t => .ok (s == t)
  | .date s, .date t => .ok ((Temporal.date s.toList).same (Temporal.date t.toList))
  | .time s, .time t => .ok ((Temporal.clock s.toList).same (Temporal.clock t.toList))
  | .dateTime s, .dateTime t => (Temporal.moment s.toList).same (Temporal.moment t.toList)
  | _, _ => .ok false

end Scalar

namespace Tree

def typeName : Tree → String
  | .null => "NoneType"
  | .bool _ => "bool"
  | .int _ => "int"
  | .float _ => "float"
  | .str _ => "str"
  | .other (.bytes _) => "bytes"
  | .other (.date _) => "Date"
  | .other (.time _) => "Time"
  | .other (.dateTime _) => "DateTime"
  | .other (.described kind _) => kind
  | .list _ => "list"
  | .map _ => "dict"

def quantity? : Tree → Option Quantity
  | .bool b => some (.exact (if b then Int.pow 2 1074 else 0))
  | .int n => some (.exact (n * Int.pow 2 1074))
  | .float .nan => some .nan
  | .float (.infinite negative) => some (.infinite negative)
  | .float (.finite negative n) => some (.exact (Text.applySign negative (Binary64.units n)))
  | _ => none

mutual
def same : Tree → Tree → Except Incomparable Bool
  | .null, .null => .ok true
  | .str s, .str t => .ok (s == t)
  | .other s, .other t => s.same t
  | .list as, .list bs => if as.length = bs.length then sameItems as bs else .ok false
  | .map es, .map fs => if es.length = fs.length then sameEntries es fs else .ok false
  | a, b =>
    match a.quantity?, b.quantity? with
    | some m, some n => .ok (m.same n)
    | _, _ => .ok false

def sameItems : List Tree → List Tree → Except Incomparable Bool
  | [], [] => .ok true
  | a :: as, b :: bs => do
    if ← same a b then sameItems as bs else return false
  | _, _ => .ok false

def sameEntries : List (String × Tree) → List (String × Tree) → Except Incomparable Bool
  | [], _ => .ok true
  | (key, a) :: rest, fs =>
    match fs.lookup key with
    | some b => do
      if ← same a b then sameEntries rest fs else return false
    | none => .ok false
end

def unrelated (a b : Tree) : Incomparable :=
  match a, b with
  | .other (.date _), _ => .types '<' a.typeName b.typeName
  | _, .other (.date _) => .types '>' b.typeName a.typeName
  | _, _ => .types '<' a.typeName b.typeName

mutual
def less : Tree → Tree → Except Incomparable Bool
  | .str s, .str t => .ok (s < t)
  | .other (.bytes s), .other (.bytes t) => .ok (s < t)
  | .other (.date s), .other (.date t) =>
    .ok ((Temporal.date s.toList).less (Temporal.date t.toList))
  | .other (.time s), .other (.time t) =>
    (Temporal.clock s.toList).less (Temporal.clock t.toList)
  | .other (.dateTime s), .other (.dateTime t) =>
    (Temporal.moment s.toList).less (Temporal.moment t.toList)
  | .list as, .list bs => lessItems as bs
  | a, b =>
    match a.quantity?, b.quantity? with
    | some m, some n => .ok (m.less n)
    | _, _ => .error (unrelated a b)

/-- The first items that differ decide. -/
def lessItems : List Tree → List Tree → Except Incomparable Bool
  | [], bs => .ok !bs.isEmpty
  | _ :: _, [] => .ok false
  | a :: as, b :: bs => do
    if ← same a b then lessItems as bs else less a b
end

end Tree

end CypherGate
