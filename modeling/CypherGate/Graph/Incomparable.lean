/-!
# Missing orders

The reasons why two values cannot be compared.
-/
namespace CypherGate

/-- Why two values have no order, or why it cannot be told whether they are equal. -/
inductive Incomparable where
  /-- Two types have no common order. The sign is that of the comparison that was tried last: a date
  on the right is asked whether it is greater. -/
  | types (sign : Char) (left right : String)
  | offsets (kind : String)
  /-- The day of a moment in universal time is none up to the last one. -/
  | dayOutside (last : Nat)
  /-- The time of a moment in universal time, in nanoseconds, is none within a day. -/
  | timeOutside (dayLength : Nat)
  deriving DecidableEq, Repr

def Incomparable.message : Incomparable → String
  | .types sign left right =>
    s!"'{sign}' not supported between instances of '{left}' and '{right}'"
  | .offsets kind => s!"can't compare offset-naive and offset-aware {kind}"
  | .dayOutside last => s!"Ordinal out of range (0..{last})"
  | .timeOutside dayLength => s!"Ticks out of range (0..{dayLength})"

end CypherGate
