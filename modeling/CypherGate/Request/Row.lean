import CypherGate.Failure
import CypherGate.Graph.Order
/-!
# Reading result rows

Counts and frequencies are integers, or what can be read as one: truth values, finite floats
without their fraction, and numerals in texts and byte strings.
-/
namespace CypherGate

namespace Tree

def shownBytes : Nat := 200

private def readNumeral (α : Text.Alphabet) (text shown : List Char) : Except DataError Int :=
  (Text.readInteger α text).mapError fun fault => .numeral ⟨shown, fault⟩

def toCount : Tree → Except DataError Int
  | .bool b => .ok (if b then 1 else 0)
  | .int n => .ok n
  | .float .nan => .error .countOfNan
  | .float (.infinite _) => .error .countOfInfinity
  | .float (.finite negative n) => .ok (Text.applySign negative (Binary64.integerPart n))
  | .str s => readNumeral .unicode s.toList (Text.quoted s.toList)
  | .other (.bytes bytes) =>
    readNumeral .ascii (bytes.map fun b => Char.ofNat b.toNat)
      (Text.quotedBytes (bytes.take shownBytes))
  | t => .error (.notNumber t.typeName)

end Tree

abbrev PlainRow := List (String × Tree)

namespace PlainRow

def column (row : PlainRow) (name : String) : Except DataError Tree :=
  match row.lookup name with
  | some t => .ok t
  | none => .error (.missingColumn name)

def countOf (row : PlainRow) (name : String) : Except DataError Int :=
  (column row name).bind Tree.toCount

def columnOf (rows : List PlainRow) (name : String) : Except DataError (List Tree) :=
  rows.mapM fun row => column row name

/-- A column of the first row as a count, zero without rows. -/
def firstCount (rows : List PlainRow) (name : String) : Except DataError Int :=
  match rows with
  | [] => .ok 0
  | row :: _ => countOf row name

end PlainRow

end CypherGate
