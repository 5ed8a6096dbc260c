import CypherGate.Graph.Tree
/-!
# Reading JSON text

Standard JSON and the literals `NaN`, `Infinity` and `-Infinity`. Of a repeated key the last value
counts, at the place of the first. An escape of an unpaired surrogate stands for the replacement
character. The nesting and the digits of an integer may be limited; a text is read from the front, so
that of two faults the first one counts.
-/
namespace CypherGate.Json

inductive ReadFault where
  | malformed
  | tooDeep (bracket : Char)
  deriving DecidableEq, Repr

abbrev Reading := Except ReadFault

def isSpace (c : Char) : Bool := c == ' ' || c == '\t' || c == '\n' || c == '\r'

def skipSpace (s : List Char) : List Char := s.dropWhile isSpace

def hexValue? (c : Char) : Option Nat :=
  if '0' ≤ c ∧ c ≤ '9' then some (c.toNat - 0x30)
  else if 'a' ≤ c ∧ c ≤ 'f' then some (c.toNat - 0x57)
  else if 'A' ≤ c ∧ c ≤ 'F' then some (c.toNat - 0x37)
  else none

def hexNumber? (digits : List Char) : Option Nat :=
  digits.foldlM (fun n c => (hexValue? c).map (16 * n + ·)) 0

def simpleEscape? (c : Char) : Option Char :=
  [('\x22', '\x22'), ('\\', '\\'), ('/', '/'), ('b', '\x08'), ('f', '\x0C'), ('n', '\n'),
    ('r', '\r'), ('t', '\t')].lookup c

/-- The code points and escaped code units of a string up to its closing quote, and the rest. -/
def readUnits : List Char → Option (List Nat × List Char)
  | [] => none
  | '\x22' :: rest => some ([], rest)
  | '\\' :: 'u' :: a :: b :: c :: d :: rest => do
    let u ← hexNumber? [a, b, c, d]
    let (us, after) ← readUnits rest
    return (u :: us, after)
  | '\\' :: c :: rest => do
    let e ← simpleEscape? c
    let (us, after) ← readUnits rest
    return (e.toNat :: us, after)
  | c :: rest => do
    if c.toNat < 0x20 ∨ c = '\\' then none
    let (us, after) ← readUnits rest
    return (c.toNat :: us, after)

def isHighSurrogate (u : Nat) : Bool := 0xD800 ≤ u && u < 0xDC00

def isLowSurrogate (u : Nat) : Bool := 0xDC00 ≤ u && u < 0xE000

def charOf (u : Nat) : Char :=
  if isHighSurrogate u || isLowSurrogate u then '\ufffd' else Char.ofNat u

def joinUnits : List Nat → List Char
  | [] => []
  | [u] => [charOf u]
  | high :: low :: rest =>
    if isHighSurrogate high && isLowSurrogate low then
      Char.ofNat (0x10000 + (high - 0xD800) * 0x400 + (low - 0xDC00)) :: joinUnits rest
    else charOf high :: joinUnits (low :: rest)

def readString (s : List Char) : Reading (String × List Char) :=
  match readUnits s with
  | some (us, rest) => .ok (String.ofList (joinUnits us), rest)
  | none => .error .malformed

def literals : List (String × Tree) :=
  [("null", .null), ("true", .bool true), ("false", .bool false), ("NaN", .float .nan),
    ("Infinity", .float (.infinite false)), ("-Infinity", .float (.infinite true))]

def readLiteral (s : List Char) : Option (Tree × List Char) :=
  literals.findSome? fun (word, t) =>
    if word.toList.isPrefixOf s then some (t, s.drop word.length) else none

def readNumber (digits : Nat) (s : List Char) : Option (Tree × List Char) := do
  let (w, rest) ← FloatStyle.readNumber s
  if w.whole.head? = some 0 ∧ w.whole.length ≠ 1 then none
  if w.integral then
    if w.whole.length > digits then none
    return (.int (Text.applySign w.negative (Text.digitsValue w.whole)), rest)
  return (.float w.value, rest)

def readScalar (digits : Nat) (s : List Char) : Reading (Tree × List Char) :=
  match readLiteral s <|> readNumber digits s with
  | some read => .ok read
  | none => .error .malformed

mutual
/-- A value at the start of a text, and the rest. An integer may have so many digits, and so many lists
and maps may be nested. The fuel bounds the nesting and the number of siblings. -/
def readValue (digits : Nat) : Nat → Nat → List Char → Reading (Tree × List Char)
  | 0, _, _ => .error .malformed
  | fuel + 1, nesting, s =>
    match s with
    | '\x22' :: r => do
      let (text, rest) ← readString r
      return (.str text, rest)
    | '[' :: r =>
      match nesting with
      | 0 => .error (.tooDeep '[')
      | nesting + 1 =>
        match skipSpace r with
        | ']' :: rest => .ok (.list [], rest)
        | r' => do
          let (items, rest) ← readItems digits fuel nesting r'
          return (.list items, rest)
    | '\x7b' :: r =>
      match nesting with
      | 0 => .error (.tooDeep '\x7b')
      | nesting + 1 =>
        match skipSpace r with
        | '\x7d' :: rest => .ok (.map [], rest)
        | r' => do
          let (pairs, rest) ← readEntries digits fuel nesting r'
          return (.map (collapse pairs), rest)
    | _ => readScalar digits s

def readItems (digits : Nat) : Nat → Nat → List Char → Reading (List Tree × List Char)
  | 0, _, _ => .error .malformed
  | fuel + 1, nesting, s => do
    let (t, r) ← readValue digits fuel nesting s
    match skipSpace r with
    | ',' :: r' =>
      let (ts, rest) ← readItems digits fuel nesting (skipSpace r')
      return (t :: ts, rest)
    | ']' :: rest => return ([t], rest)
    | _ => .error .malformed

def readEntries (digits : Nat) : Nat → Nat → List Char → Reading (List (String × Tree) × List Char)
  | 0, _, _ => .error .malformed
  | fuel + 1, nesting, s => do
    let '\x22' :: r := s | .error .malformed
    let (key, afterKey) ← readString r
    let ':' :: r := skipSpace afterKey | .error .malformed
    let (t, r) ← readValue digits fuel nesting (skipSpace r)
    match skipSpace r with
    | ',' :: r' =>
      let (pairs, rest) ← readEntries digits fuel nesting (skipSpace r')
      return ((key, t) :: pairs, rest)
    | '\x7d' :: rest => return ([(key, t)], rest)
    | _ => .error .malformed
end

/-- A whole text. Every value and every sibling takes a character, so twice the length is fuel
enough. -/
def readWithin (digits nesting : Nat) (s : List Char) : Reading Tree := do
  let (t, rest) ← readValue digits (2 * s.length + 2) nesting (skipSpace s)
  if (skipSpace rest).isEmpty then return t else .error .malformed

/-- Reads a text without limits: its length bounds its digits and its nesting. -/
def read (s : List Char) : Option Tree := (readWithin s.length s.length s).toOption

end CypherGate.Json

namespace CypherGate

def Tree.ofJson? (text : String) : Option Tree := Json.read text.toList

end CypherGate
