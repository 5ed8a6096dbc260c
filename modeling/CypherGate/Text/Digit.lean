import CypherGate.Text.Case
import CypherGate.Text.DigitTable
/-!
# Digits

Decimal digits of any script carry a value; other digits, such as superscripts, count as digits
without one.
-/
namespace CypherGate.Text

def decimalValue? (c : Char) : Option Nat :=
  (decimalZeros.find? fun z => z ≤ c.toNat && c.toNat < z + 10).map (c.toNat - ·)

def asciiDigit? (c : Char) : Option Nat :=
  if '0' ≤ c ∧ c ≤ '9' then some (c.toNat - '0'.toNat) else none

def isDigit (c : Char) : Bool :=
  (decimalValue? c).isSome || withinBounds digitBounds c.toNat

end CypherGate.Text
