import CypherGate.Text.Numeral
import CypherGate.Text.Quoted
import CypherGate.Text.Search
/-!
# Identities

An element id ends, after its last colon, in the number of the entity. The number is the identity
when that part consists of digits; otherwise the whole element id is.
-/
namespace CypherGate

inductive Identity where
  | number (n : Int)
  | name (elementId : String)
  deriving DecidableEq, Repr

/-- Something that was to be an integer and is not one, as messages show it. -/
structure NumeralError where
  shown : List Char
  fault : Text.NumeralFault
  deriving DecidableEq, Repr

def NumeralError.message (e : NumeralError) : String :=
  match e.fault with
  | .malformed => "invalid literal for int() with base 10: " ++ String.ofList (e.shown.take 200)
  | .tooLong digits =>
    s!"Exceeds the limit ({Text.maxDigits} digits) for integer string conversion: " ++
      s!"value has {digits} digits; use sys.set_int_max_str_digits() to increase the limit"

namespace Identity

def tail (elementId : String) : List Char := Text.afterLast ':' elementId.toList

/-- Digits without a decimal value, such as superscripts, look like a number and cannot be read. -/
def ofElementId (elementId : String) : Except NumeralError Identity :=
  let digits := tail elementId
  if !digits.isEmpty && digits.all Text.isDigit then
    match Text.readInteger .unicode digits with
    | .ok n => .ok (.number n)
    | .error fault => .error ⟨Text.quoted digits, fault⟩
  else .ok (.name elementId)

end Identity

end CypherGate
