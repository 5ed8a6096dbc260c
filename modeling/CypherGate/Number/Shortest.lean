import CypherGate.Number.Binary64
/-!
# Shortest decimals

The shortest decimal that reads back as a magnitude. For 1 to 17 digits the two neighbours of the
value on that decimal grid are tested against the interval of numbers that round to the
magnitude; the first grid with a hit wins, of two hits the nearer one, a tie going to the even
digit.
-/
namespace CypherGate.Binary64

/-- A decimal `coefficient * 10 ^ exponent`. -/
structure Decimal where
  coefficient : Nat
  exponent : Int
  deriving DecidableEq, Repr

namespace Decimal

def reduced (d : Decimal) : Decimal :=
  if h : d.coefficient ≠ 0 ∧ d.coefficient % 10 = 0 then
    reduced ⟨d.coefficient / 10, d.exponent + 1⟩
  else d
  termination_by d.coefficient
  decreasing_by omega

end Decimal

/-- Factors that turn multiples of `10 ^ e` and of 1 into integers on one scale. -/
def gridScale (e : Int) : Nat × Nat :=
  if e < 0 then (1, Nat.pow 10 e.natAbs) else (Nat.pow 10 e.natAbs, 1)

/-- Whether a decimal rounds to the magnitude: it lies between the midpoints to its neighbours,
which themselves round to even magnitudes only. -/
def roundsTo (n : Nat) (d : Decimal) : Bool :=
  let (grid, one) := gridScale d.exponent
  let value := d.coefficient * grid * Nat.pow 2 1075
  let low := (units n + units (n - 1)) * one
  let high := (units n + units (n + 1)) * one
  if n % 2 = 0 then low ≤ value && value ≤ high else low < value && value < high

/-- The neighbour of the magnitude among the multiples of `10 ^ e` that rounds to it. -/
def onGrid? (n : Nat) (e : Int) : Option Decimal :=
  let (grid, one) := gridScale e
  let num := units n * one
  let den := grid * Nat.pow 2 1074
  let below : Decimal := ⟨num / den, e⟩
  let above : Decimal := ⟨num / den + 1, e⟩
  match roundsTo n below, roundsTo n above with
  | false, false => none
  | true, false => some below
  | false, true => some above
  | true, true => some ⟨roundHalfEven num den, e⟩

def leadingExponent (n : Nat) : Int :=
  (decimalLength (units n * Nat.pow 10 330 / Nat.pow 2 1074) : Int) - 331

def shortest (n : Nat) : Decimal :=
  if n = 0 then ⟨0, 0⟩
  else
    let lead := leadingExponent n
    let grids := (List.range 17).map fun (k : Nat) => lead - (k : Int)
    ((grids.findSome? (onGrid? n)).getD ⟨0, 0⟩).reduced

end CypherGate.Binary64
