import CypherGate.Text.Blank
import CypherGate.Text.Digit
/-!
# Decimal numerals of integers

Writing gives the shortest numeral. Reading also takes blanks around the numeral, a sign, leading
zeros and single underscores between digits. Numerals of more than 4300 digits are neither written nor
read.
-/
namespace CypherGate.Text

def decimal (n : Nat) : List Char :=
  if n < 10 then [Nat.digitChar n] else decimal (n / 10) ++ [Nat.digitChar (n % 10)]

def signedDecimal : Int → List Char
  | .ofNat n => decimal n
  | .negSucc n => '-' :: decimal (n + 1)

/-- Whether a number has at most so many digits. -/
def fits : Nat → Nat → Bool
  | 0, n => n == 0
  | digits + 1, n => n == 0 || fits digits (n / 10)

/-- The number that a list of digits stands for, most significant first. -/
def digitsValue (ds : List Nat) : Nat := ds.foldl (fun n d => 10 * n + d) 0

inductive NumeralFault where
  | malformed
  | tooLong (digits : Nat)
  deriving DecidableEq, Repr

def maxDigits : Nat := 4300

def isWritable (n : Int) : Bool := fits maxDigits n.natAbs

structure Alphabet where
  blank : Char → Bool
  digit? : Char → Option Nat

def Alphabet.unicode : Alphabet := ⟨isWhiteSpace, decimalValue?⟩

def Alphabet.ascii : Alphabet := ⟨fun c => isWhiteSpace c && c.toNat < 0x80, asciiDigit?⟩

/-- Whether every underscore stands between two other characters, `inside` telling that one
precedes. -/
def singleUnderscores (inside : Bool) : List Char → Bool
  | [] => inside
  | c :: rest => if c = '_' then inside && singleUnderscores false rest else singleUnderscores true rest

/-- An optional sign: whether it is a minus, and the rest. -/
def takeSign : List Char → Bool × List Char
  | '-' :: rest => (true, rest)
  | '+' :: rest => (false, rest)
  | s => (false, s)

def applySign (negative : Bool) (n : Nat) : Int := if negative then -(n : Int) else n

def readInteger (α : Alphabet) (s : List Char) : Except NumeralFault Int :=
  let (negative, body) := takeSign (s.dropWhile α.blank)
  let (run, rest) := body.span fun c => (α.digit? c).isSome || c == '_'
  let digits := run.filterMap α.digit?
  if !singleUnderscores false run then .error .malformed
  else if digits.length > maxDigits then .error (.tooLong digits.length)
  else if !rest.all α.blank then .error .malformed
  else .ok (applySign negative (digitsValue digits))

end CypherGate.Text

namespace CypherGate

def decimalText (n : Int) : String := String.ofList (Text.signedDecimal n)

def decimalText? (n : Int) : Option String :=
  if Text.isWritable n then some (decimalText n) else none

end CypherGate
