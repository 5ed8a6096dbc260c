import CypherGate.Number.Shortest
import CypherGate.Text.Numeral
/-!
# Floats as text

A float is written with the fewest digits that read back, positionally when the decimal point
falls from three places before the first digit to sixteen after it, and otherwise with an
exponent of at least two digits. Two vocabularies name the special values.
-/
namespace CypherGate

/-- The decisions of the format that are not arithmetic. Points above the lowest place, up to the
highest one, take no exponent. -/
structure FloatStyle where
  nan : String
  infinity : String
  lowestPoint : Int
  highestPoint : Int

namespace FloatStyle

def plain : FloatStyle := ⟨"nan", "inf", -4, 16⟩

def json : FloatStyle := { plain with nan := "NaN", infinity := "Infinity" }

def positional (digits : List Char) (point : Int) : List Char :=
  let zeros (k : Nat) := List.replicate k '0'
  if point ≤ 0 then '0' :: '.' :: zeros point.natAbs ++ digits
  else if digits.length ≤ point.natAbs then
    digits ++ zeros (point.natAbs - digits.length) ++ ['.', '0']
  else digits.take point.natAbs ++ '.' :: digits.drop point.natAbs

/-- An exponent with its sign, of two digits at least. -/
def exponentText (exponent : Int) : List Char :=
  let size := Text.decimal exponent.natAbs
  'e' :: (if exponent < 0 then '-' else '+') :: (if size.length < 2 then '0' :: size else size)

/-- One digit before the point, and an exponent. -/
def scientific (digits : List Char) (point : Int) : List Char :=
  let mantissa := match digits with
    | [d] => [d]
    | d :: rest => d :: '.' :: rest
    | [] => []
  mantissa ++ exponentText (point - 1)

def magnitudeText (style : FloatStyle) (n : Nat) : List Char :=
  let d := Binary64.shortest n
  let digits := Text.decimal d.coefficient
  let point := d.exponent + digits.length
  if style.lowestPoint < point ∧ point ≤ style.highestPoint then positional digits point
  else scientific digits point

def sign (negative : Bool) : List Char := if negative then ['-'] else []

def text (style : FloatStyle) : Binary64 → List Char
  | .nan => style.nan.toList
  | .infinite negative => sign negative ++ style.infinity.toList
  | .finite negative n => sign negative ++ style.magnitudeText n

def digitPart (s : List Char) : List Nat × List Char :=
  let (ds, rest) := s.span fun c => (Text.asciiDigit? c).isSome
  (ds.filterMap Text.asciiDigit?, rest)

def fractionPart : List Char → Option (List Nat × List Char)
  | '.' :: s => let (ds, rest) := digitPart s; if ds.isEmpty then none else some (ds, rest)
  | s => some ([], s)

def exponentPart : List Char → Option (Int × List Char)
  | c :: s =>
    if c = 'e' ∨ c = 'E' then
      let (negative, body) := Text.takeSign s
      let (ds, rest) := digitPart body
      if ds.isEmpty then none else some (Text.applySign negative (Text.digitsValue ds), rest)
    else some (0, c :: s)
  | [] => some (0, [])

structure Written where
  negative : Bool
  whole : List Nat
  fraction : List Nat
  exponent : Int
  integral : Bool

def takeMinus : List Char → Bool × List Char
  | '-' :: rest => (true, rest)
  | s => (false, s)

def readNumber (s : List Char) : Option (Written × List Char) := do
  let (negative, body) := takeMinus s
  let (whole, afterWhole) := digitPart body
  if whole.isEmpty then none
  let (fraction, afterFraction) ← fractionPart afterWhole
  let (exponent, rest) ← exponentPart afterFraction
  some (⟨negative, whole, fraction, exponent, rest.length == afterWhole.length⟩, rest)

def Written.value (w : Written) : Binary64 :=
  .ofDecimal w.negative (Text.digitsValue (w.whole ++ w.fraction)) (w.exponent - w.fraction.length)

/-- Reads what `text` writes. -/
def read? (style : FloatStyle) (s : List Char) : Option Binary64 :=
  if s = style.nan.toList then some .nan
  else if s = style.infinity.toList then some (.infinite false)
  else if s = '-' :: style.infinity.toList then some (.infinite true)
  else match readNumber s with
    | some (w, []) => some w.value
    | _ => none

end FloatStyle

end CypherGate
