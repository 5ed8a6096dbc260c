/-!
# Binary floating-point numbers

The finite magnitudes of the 64-bit format are numbered in ascending order from zero, so that the
successor of a magnitude has the next number. All values are exact multiples of 2^-1074.
-/
namespace CypherGate

def magnitudeCount : Nat := 2047 * Nat.pow 2 52

inductive Binary64 where
  | nan
  | infinite (negative : Bool)
  | finite (negative : Bool) (magnitude : Fin magnitudeCount)
  deriving DecidableEq, Repr

namespace Binary64

/-- The value of a magnitude as a multiple of 2^-1074. -/
def units (n : Nat) : Nat :=
  let one := Nat.pow 2 52
  if n < one then n else (one + n % one) * Nat.pow 2 (n / one - 1)

/-- The quotient rounded to the nearest integer, a half to the even one. -/
def roundHalfEven (num den : Nat) : Nat :=
  let q := num / den
  let twice := 2 * (num % den)
  if twice < den ∨ (twice = den ∧ q % 2 = 0) then q else q + 1

/-- The magnitude nearest to a quotient; beyond `magnitudeCount` it stands for infinity. -/
def nearest (num den : Nat) : Nat :=
  let scaled := num * Nat.pow 2 1074
  let shift := (scaled / den).log2 - 52
  shift * Nat.pow 2 52 + roundHalfEven scaled (den * Nat.pow 2 shift)

def ofMagnitude (negative : Bool) (n : Nat) : Binary64 :=
  if h : n < magnitudeCount then .finite negative ⟨n, h⟩ else .infinite negative

def zero (negative : Bool) : Binary64 := .finite negative ⟨0, by decide⟩

def ofQuotient (negative : Bool) (num den : Nat) : Binary64 :=
  ofMagnitude negative (nearest num den)

def ofInt (n : Int) : Binary64 := ofQuotient (n < 0) n.natAbs 1

def decimalLength (n : Nat) : Nat :=
  if n = 0 then 0 else decimalLength (n / 10) + 1

/-- The number nearest to `± digits * 10 ^ exponent`. Far exponents are settled without computing
the power. -/
def ofDecimal (negative : Bool) (digits : Nat) (exponent : Int) : Binary64 :=
  let size := (decimalLength digits : Int) + exponent
  if digits = 0 ∨ size < -330 then zero negative
  else if size > 310 then .infinite negative
  else if exponent < 0 then ofQuotient negative digits (Nat.pow 10 exponent.natAbs)
  else ofQuotient negative (digits * Nat.pow 10 exponent.natAbs) 1

def integerPart (n : Nat) : Nat := units n / Nat.pow 2 1074

def hasFraction (n : Nat) : Bool := units n % Nat.pow 2 1074 != 0

end Binary64

end CypherGate
