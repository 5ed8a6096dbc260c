import CypherGate.Graph.Tree
import CypherGate.Text.Blank
import CypherGate.Text.Split
/-!
# Files of variables

A line `NAME=value` sets a variable. The name may follow the word `export` and may stand in single
quotes; the value may stand in single or double quotes, which may span lines and in which a backslash
escapes, and may be followed by a comment. A line that does not have this form is skipped, and a
name without an equals sign has no value. A mark of the byte order at the start does not count.
-/
namespace CypherGate.VariableFile

def unifyBreaks : List Char → List Char
  | [] => []
  | '\r' :: '\n' :: rest => '\n' :: unifyBreaks rest
  | c :: rest => (if c = '\r' then '\n' else c) :: unifyBreaks rest

/-- The text of a file with line feeds only and without a mark of the byte order. -/
def content (text : String) : List Char :=
  match unifyBreaks text.toList with
  | '\ufeff' :: rest => rest
  | s => s

def isInlineBlank (c : Char) : Bool := Text.isBlank c && c != '\n'

def skipInline (s : List Char) : List Char := s.dropWhile isInlineBlank

def isNotBreak (c : Char) : Bool := c != '\n'

def nextLine (s : List Char) : List Char := (s.dropWhile isNotBreak).drop 1

/-- A reader gives what it has read and the rest, or the text at which it stopped. -/
abbrev Reading (α : Type) := Except (List Char) (α × List Char)

structure Binding where
  name : List Char
  value : Option (List Char)
  deriving DecidableEq, Repr

def skipExport (s : List Char) : List Char :=
  let rest := s.drop "export".length
  if "export".toList.isPrefixOf s && rest.head?.any isInlineBlank then skipInline rest else s

def readName : List Char → Reading (Option (List Char))
  | '#' :: rest => .ok (none, '#' :: rest)
  | '\x27' :: rest =>
    match Text.cut? '\x27' rest with
    | some (c :: name, after) => .ok (some (c :: name), after)
    | _ => .error ('\x27' :: rest)
  | s =>
    match Text.splitBefore (fun c => c == '=' || c == '#' || Text.isBlank c) s with
    | ([], _) => .error s
    | (name, after) => .ok (some name, after)

/-- The text up to the closing quote, a backslash taking the next character along. -/
def toClosing (q : Char) : List Char → Option (List Char × List Char)
  | [] => none
  | '\\' :: c :: rest =>
    (toClosing q rest).map fun (quoted, after) => ('\\' :: c :: quoted, after)
  | c :: rest =>
    if c = q then some ([], rest)
    else (toClosing q rest).map fun (quoted, after) => (c :: quoted, after)

def singleEscapes : List (Char × Char) := [('\\', '\\'), ('\x27', '\x27')]

def doubleEscapes : List (Char × Char) :=
  singleEscapes ++ [('\x22', '\x22'), ('a', '\x07'), ('b', '\x08'), ('f', '\x0C'), ('n', '\n'),
    ('r', '\r'), ('t', '\t'), ('v', '\x0B')]

def unescape (escapes : List (Char × Char)) : List Char → List Char
  | [] => []
  | '\\' :: c :: rest =>
    match escapes.lookup c with
    | some e => e :: unescape escapes rest
    | none => '\\' :: unescape escapes (c :: rest)
  | c :: rest => c :: unescape escapes rest

/-- A line up to a comment: a number sign with a blank before it. -/
def beforeComment : List Char → List Char
  | [] => []
  | c :: rest => if Text.isBlank c && rest.head? == some '#' then [] else c :: beforeComment rest

def readQuoted (q : Char) (escapes : List (Char × Char)) (s : List Char) : Reading (List Char) :=
  match toClosing q s with
  | some (quoted, after) => .ok (unescape escapes quoted, after)
  | none => .error (q :: s)

def readValue (s : List Char) : Reading (List Char) :=
  match skipInline s with
  | '\x27' :: rest => readQuoted '\x27' singleEscapes rest
  | '\x22' :: rest => readQuoted '\x22' doubleEscapes rest
  | _ => .ok (Text.trim Text.isBlank (beforeComment (s.takeWhile isNotBreak)), s.dropWhile isNotBreak)

def readEnd (s : List Char) : Reading Unit :=
  let s := skipInline s
  match if s.head? = some '#' then s.dropWhile isNotBreak else s with
  | [] => .ok ((), [])
  | '\n' :: rest => .ok ((), rest)
  | stop => .error stop

def readBinding (s : List Char) : Except (List Char) (Option Binding × List Char) := do
  let (name, rest) ← readName (skipExport s)
  let (value, rest) ← match skipInline rest with
    | '=' :: r => do
      let (value, rest) ← readValue r
      pure (some value, rest)
    | r => pure (none, r)
  let ((), rest) ← readEnd rest
  return (name.map fun name => ⟨name, value⟩, rest)

/-- A statement of a file. One that cannot be read is known by the number of the line where the
statement before it ends. -/
inductive Statement where
  | binding (b : Binding)
  | unreadable (line : Nat)
  deriving DecidableEq, Repr

def breaks (s : List Char) : Nat := s.count '\n'

def statements (line : Nat) (s : List Char) : List Statement :=
  match s.dropWhile Text.isBlank with
  | [] => []
  | start =>
    let (found, rest) := match readBinding start with
      | .ok (b, rest) => ((b.map Statement.binding).toList, rest)
      | .error stop => ([.unreadable line], nextLine stop)
    if rest.length < s.length then found ++ statements (line + breaks s - breaks rest) rest
    else found
  termination_by s.length

def Statement.binding? : Statement → Option Binding
  | .binding b => some b
  | .unreadable _ => none

def Statement.unreadableLine? : Statement → Option Nat
  | .binding _ => none
  | .unreadable line => some line

def bindings (text : String) : List Binding :=
  (statements 1 (content text)).filterMap Statement.binding?

def unreadableLines (text : String) : List Nat :=
  (statements 1 (content text)).filterMap Statement.unreadableLine?

end CypherGate.VariableFile
