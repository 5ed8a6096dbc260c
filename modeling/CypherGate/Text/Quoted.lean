import CypherGate.Text.Case
import CypherGate.Text.PrintableTable
/-!
# Quoted text in messages

A text is shown between single quotes, or between double quotes when it has a single quote and no
double quote. Backslash, the delimiter and every character that is not printable are escaped.
-/
namespace CypherGate.Text

def isPrintable (c : Char) : Bool := !withinBounds unprintableBounds c.toNat

def hexDigits : Nat → Nat → List Char
  | 0, _ => []
  | width + 1, n => hexDigits width (n / 16) ++ [Nat.digitChar (n % 16)]

/-- The delimiter that shows a text with the fewest escapes. -/
def delimiter (s : List Char) : Char :=
  if '\x27' ∈ s ∧ '\x22' ∉ s then '\x22' else '\x27'

def shortEscape? (delim c : Char) : Option (List Char) :=
  if c = delim ∨ c = '\\' then some ['\\', c]
  else if c = '\t' then some ['\\', 't']
  else if c = '\n' then some ['\\', 'n']
  else if c = '\r' then some ['\\', 'r']
  else none

def escapeChar (delim c : Char) : List Char :=
  match shortEscape? delim c with
  | some e => e
  | none =>
    if isPrintable c then [c]
    else if c.toNat < 0x100 then '\\' :: 'x' :: hexDigits 2 c.toNat
    else if c.toNat < 0x10000 then '\\' :: 'u' :: hexDigits 4 c.toNat
    else '\\' :: 'U' :: hexDigits 8 c.toNat

def quoted (s : List Char) : List Char :=
  let d := delimiter s
  d :: s.flatMap (escapeChar d) ++ [d]

/-- A byte is shown as its ASCII character or as two hexadecimal digits. -/
def escapeByte (delim : Char) (b : UInt8) : List Char :=
  let c := Char.ofNat b.toNat
  match shortEscape? delim c with
  | some e => e
  | none =>
    if 0x20 ≤ b.toNat ∧ b.toNat < 0x7F then [c] else '\\' :: 'x' :: hexDigits 2 b.toNat

def quotedBytes (bytes : List UInt8) : List Char :=
  let d := delimiter (bytes.map fun b => Char.ofNat b.toNat)
  'b' :: d :: bytes.flatMap (escapeByte d) ++ [d]

end CypherGate.Text

namespace CypherGate

def quote (s : String) : String := String.ofList (Text.quoted s.toList)

def quoteBytes (b : List UInt8) : String := String.ofList (Text.quotedBytes b)

end CypherGate
