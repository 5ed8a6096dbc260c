import CypherGate.Arguments.IntegerText
import CypherGate.Arguments.Problem
import CypherGate.Graph.Value
/-!
# Conversion of named values

Values come from callers that know JSON only, so conversion is lenient: bytes count as text, texts
and whole floats as integers, truth values as 0 and 1, and nodes and relationships as the maps of
their properties.
-/
namespace CypherGate

abbrev Conversion (α : Type) := Value → Except Cause α

namespace Conversion

def located {α : Type} (conversion : Conversion α) (location : String) (v : Value) : Checked α :=
  (conversion v).mapError fun cause => [⟨location, cause⟩]

def decode? (bytes : List UInt8) : Option String := String.fromUTF8? ⟨bytes.toArray⟩

def text : Conversion String
  | .str s => .ok s
  | .other (.bytes bytes) => (decode? bytes).elim (.error .undecodableText) .ok
  | _ => .error .notText

def entries : Conversion (List (String × Value))
  | .map es => .ok es
  | .node n => .ok n.properties
  | .relationship r => .ok r.properties
  | _ => .error .notMap

def integerText (s : String) : Except Cause Int :=
  (IntegerText.read s.toList).mapError fun
    | .malformed => .notIntegerText
    | .oversized => .oversized

/-- Whole floats below 2^63 in size. -/
def integerFloat : Binary64 → Except Cause Int
  | .nan | .infinite _ => .error .notFinite
  | .finite negative n =>
    if Binary64.hasFraction n then .error .fractional
    else
      let whole := Binary64.integerPart n
      if whole < Nat.pow 2 63 then .ok (Text.applySign negative whole) else .error .oversized

def integer : Conversion Int
  | .bool b => .ok (if b then 1 else 0)
  | .int n => .ok n
  | .float x => integerFloat x
  | .str s => integerText s
  | .other (.bytes bytes) => (decode? bytes).elim (.error .notIntegerText) integerText
  | _ => .error .notInteger

abbrev Within (least greatest : Nat) := { n : Nat // least ≤ n ∧ n ≤ greatest }

def within (least greatest : Nat) : Conversion (Within least greatest) := fun v => do
  let n ← integer v
  if n < least then .error (.below least)
  else if h : least ≤ n.toNat ∧ n.toNat ≤ greatest then .ok ⟨n.toNat, h⟩
  else .error (.above greatest)

end Conversion

end CypherGate
