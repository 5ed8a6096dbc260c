import CypherGate.Graph.Tree
/-!
# Trees as JSON text

The text is printable ASCII and line breaks, two blanks deeper at every level of nesting. Floats that
JSON lacks are written `NaN`, `Infinity` and `-Infinity`, other scalars as strings. An integer that is
too long, or a thing that cannot be described, leaves the whole tree without a text.
-/
namespace CypherGate.Json

def units (c : Char) : List Nat :=
  let n := c.toNat
  if n < 0x10000 then [n] else [0xD800 + (n - 0x10000) / 0x400, 0xDC00 + (n - 0x10000) % 0x400]

def escapeChar (c : Char) : List Char :=
  if c = '\x22' ∨ c = '\\' then ['\\', c]
  else if c = '\n' then ['\\', 'n']
  else if c = '\r' then ['\\', 'r']
  else if c = '\t' then ['\\', 't']
  else if c = '\x08' then ['\\', 'b']
  else if c = '\x0C' then ['\\', 'f']
  else if 0x20 ≤ c.toNat ∧ c.toNat ≤ 0x7E then [c]
  else (units c).flatMap fun u => '\\' :: 'u' :: Text.hexDigits 4 u

def string (s : String) : List Char :=
  '\x22' :: s.toList.flatMap escapeChar ++ ['\x22']

def line (level : Nat) : List Char := '\n' :: List.replicate (2 * level) ' '

mutual
/-- A tree whose surroundings are at the given level. -/
def write (level : Nat) : Tree → List Char
  | .null => "null".toList
  | .bool true => "true".toList
  | .bool false => "false".toList
  | .int n => Text.signedDecimal n
  | .float x => FloatStyle.json.text x
  | .str s => string s
  | .other s => string s.text
  | .list [] => ['[', ']']
  | .list (t :: rest) =>
    '[' :: line (level + 1) ++ write (level + 1) t ++ writeItems (level + 1) rest ++ line level
      ++ [']']
  | .map [] => ['\x7b', '\x7d']
  | .map ((key, t) :: rest) =>
    '\x7b' :: line (level + 1) ++ string key ++ ':' :: ' ' :: write (level + 1) t
      ++ writeEntries (level + 1) rest ++ line level ++ ['\x7d']

def writeItems (level : Nat) : List Tree → List Char
  | [] => []
  | t :: rest => ',' :: line level ++ write level t ++ writeItems level rest

def writeEntries (level : Nat) : List (String × Tree) → List Char
  | [] => []
  | (key, t) :: rest =>
    ',' :: line level ++ string key ++ ':' :: ' ' :: write level t ++ writeEntries level rest
end

end CypherGate.Json

namespace CypherGate

namespace Tree

mutual
def isWritable : Tree → Bool
  | .int n => Text.isWritable n
  | .other s => s.text?.isSome
  | .list items => itemsWritable items
  | .map entries => entriesWritable entries
  | _ => true

def itemsWritable : List Tree → Bool
  | [] => true
  | t :: rest => t.isWritable && itemsWritable rest

def entriesWritable : List (String × Tree) → Bool
  | [] => true
  | (_, t) :: rest => t.isWritable && entriesWritable rest
end

def json? (t : Tree) : Option String :=
  if t.isWritable then some (String.ofList (Json.write 0 t)) else none

end Tree

end CypherGate
