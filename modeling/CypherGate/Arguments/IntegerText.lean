import CypherGate.Text.Blank
import CypherGate.Text.Numeral
import CypherGate.Text.Split
/-!
# Integers in texts

An integer is written as in JSON: a minus or none, and digits without superfluous zeros in front. A
text of another form is relaxed once: white space around it, a plus sign, zeros and underscores in
front of the first other digit, a fraction of zeros, and single underscores between other characters
do not count. A minus in front is set aside meanwhile. What is left has to be an integer as in JSON;
if it has too many digits it is none.
-/
namespace CypherGate.IntegerText

inductive Fault where
  | malformed
  | oversized
  deriving DecidableEq, Repr

/-- An integer as JSON writes it. -/
def strict (s : List Char) : Except Fault Int :=
  let (negative, body) := match s with
    | '-' :: rest => (true, rest)
    | _ => (false, s)
  let (run, rest) := body.span fun c => (Text.asciiDigit? c).isSome
  let digits := run.filterMap Text.asciiDigit?
  if digits.isEmpty || (digits.head? == some 0 && digits.length ≠ 1) then .error .malformed
  else if digits.length > Text.maxDigits then .error .oversized
  else if !rest.isEmpty then .error .malformed
  else .ok (Text.applySign negative (Text.digitsValue digits))

/-- The text behind a plus sign, which no minus may follow. -/
def withoutPlus : List Char → Option (List Char)
  | '+' :: '-' :: _ => none
  | '+' :: rest => some rest
  | s => some s

/-- What may follow leading zeros, or start a text without them. -/
def isLeading (c : Char) : Bool := c == '-' || (Text.asciiDigit? c).isSome

/-- The text from its first digit other than zero on, where a minus counts as one. The last of the
zeros stays if nothing or a point follows. -/
def withoutZeros : List Char → Option (List Char)
  | [] => none
  | '0' :: rest =>
    let (zeros, behind) := Text.splitBefore (fun c => c != '0' && c != '_') rest
    let last := zeros.getLastD '0'
    match behind with
    | [] => some [last]
    | c :: digits =>
      if c = '.' then some (last :: c :: digits)
      else if isLeading c then some (c :: digits)
      else none
  | c :: rest => if isLeading c then some (c :: rest) else none

/-- A point and at least one zero at the end do not count. -/
def withoutFraction (s : List Char) : List Char :=
  match Text.cut? '.' s with
  | some (whole, places) => if !places.isEmpty && places.all (· == '0') then whole else s
  | none => s

/-- Underscores do not count if none comes first, last or behind another one. -/
def withoutUnderscores (s : List Char) : List Char :=
  if Text.singleUnderscores false s then s.filter (· != '_') else s

def takeMinus : List Char → List Char × List Char
  | '-' :: rest => (['-'], rest)
  | s => ([], s)

def relaxed (s : List Char) : Option (List Char) := do
  let (minus, s) := takeMinus (← withoutPlus (Text.trim Text.isWhiteSpace s))
  return minus ++ withoutUnderscores (withoutFraction (← withoutZeros s))

def read (s : List Char) : Except Fault Int :=
  match strict s with
  | .error .malformed =>
    match relaxed s with
    | some s => (strict s).mapError fun _ => .malformed
    | none => .error .malformed
  | result => result

end CypherGate.IntegerText
