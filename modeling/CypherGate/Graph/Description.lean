import CypherGate.Graph.Moment
import CypherGate.Graph.Normal
/-!
# Values that are only shown

A description tells what a value is made of: plain values look like literals, the others name their
kind. What has an integer in it that is too long to be written cannot be described. A value that is
written as JSON without being made sense of keeps its lists and maps, and of the entities of a graph
keeps their descriptions.
-/
namespace CypherGate

namespace Description

def enclosed (opening : String) (items : List String) (closing : String) : String :=
  opening ++ String.intercalate ", " items ++ closing

def list (items : List String) : String := enclosed "[" items "]"

def tuple : List String → String
  | [item] => "(" ++ item ++ ",)"
  | items => enclosed "(" items ")"

def map (entries : List (String × Option String)) : Option String := do
  let shown ← entries.mapM fun (key, value) => return quote key ++ ": " ++ (← value)
  return enclosed "\x7b" shown "\x7d"

def labels (names : List String) : String :=
  match labelList names with
  | [] => "frozenset()"
  | names => enclosed "frozenset(\x7b" (names.map quote) "\x7d)"

def node (elementId : String) (names : List String) (properties : String) : String :=
  "<Node element_id=" ++ quote elementId ++ " labels=" ++ labels names ++ " properties=" ++
    properties ++ ">"

/-- A relationship, of whose nodes only the element ids are known. -/
def relationship (elementId start finish kind properties : String) : String :=
  let ends := [start, finish].map fun elementId => node elementId [] "\x7b\x7d"
  "<Relationship element_id=" ++ quote elementId ++ " nodes=" ++ tuple ends ++ " type=" ++
    quote kind ++ " properties=" ++ properties ++ ">"

def path (start finish : String) (size : Nat) : String :=
  "<Path start=" ++ start ++ " end=" ++ finish ++ s!" size={size}>"

def duration (months days seconds nanoseconds : Int) : Option String := do
  let fields ← [("months", months), ("days", days), ("seconds", seconds),
    ("nanoseconds", nanoseconds)].mapM fun (name, n) => return name ++ "=" ++ (← decimalText? n)
  return enclosed "Duration(" fields ")"

def float (x : Binary64) : String := String.ofList (FloatStyle.plain.text x)

def point (coordinates : List Binary64) : String :=
  "POINT(" ++ String.intercalate " " (coordinates.map float) ++ ")"

def dateFields (d : Date) : List Nat := [d.year, d.month, d.day]

def clockFields (c : Clock) : List Nat := [c.hour, c.minute, c.second, c.nanosecond]

def temporal (kind : String) (fields : List Nat) (offset : Option Int) : String :=
  let zone := offset.map fun minutes =>
    "tzinfo=" ++ if minutes = 0 then "<UTC>" else s!"pytz.FixedOffset({minutes})"
  enclosed ("neo4j.time." ++ kind ++ "(") (fields.map toString ++ zone.toList) ")"

def date (d : Date) : String :=
  if d = .zero then "neo4j.time.ZeroDate" else temporal "Date" (dateFields d) none

def scalar : Scalar → Option String
  | .bytes content => some (quoteBytes content)
  | .date text => some (date (Temporal.date text.toList))
  | .time text =>
    let clock := Temporal.clock text.toList
    some (temporal "Time" (clockFields clock) clock.offset)
  | .dateTime text =>
    let moment := Temporal.moment text.toList
    some (temporal "DateTime" (dateFields moment.date ++ clockFields moment.clock) moment.clock.offset)
  | .described _ text => text

end Description

namespace Value

mutual
def description : Value → Option String
  | .null => some "None"
  | .bool true => some "True"
  | .bool false => some "False"
  | .int n => decimalText? n
  | .float x => some (Description.float x)
  | .str s => some (quote s)
  | .other s => Description.scalar s
  | .list items => return Description.list (← (descriptions items).mapM id)
  | .tuple items => return Description.tuple (← (descriptions items).mapM id)
  | .map entries => Description.map (collapse (entryDescriptions entries))
  | .duration months days seconds nanoseconds =>
    Description.duration months days seconds nanoseconds
  | .point _ coordinates => some (Description.point coordinates)
  | .node n => nodeDescription n
  | .relationship ⟨elementId, kind, start, finish, properties⟩ =>
    return Description.relationship elementId start finish kind
      (← Description.map (collapse (entryDescriptions properties)))
  | .path ⟨start, steps⟩ => do
    let first ← nodeDescription start
    let last ← (stepDescriptions steps).getLast?.getD (some first)
    return Description.path first last steps.length

def nodeDescription : Node Value → Option String
  | ⟨elementId, labels, properties⟩ =>
    return Description.node elementId labels
      (← Description.map (collapse (entryDescriptions properties)))

def stepDescriptions : List (Relationship Value × Node Value) → List (Option String)
  | [] => []
  | (_, n) :: rest => nodeDescription n :: stepDescriptions rest

def descriptions : List Value → List (Option String)
  | [] => []
  | v :: rest => description v :: descriptions rest

def entryDescriptions : List (String × Value) → List (String × Option String)
  | [] => []
  | (key, v) :: rest => (key, description v) :: entryDescriptions rest
end

mutual
/-- A value taken as it is: tuples, durations and points are the lists they consist of, and entities
of a graph are only described. The kind of a relationship is its type. -/
def plain : Value → Tree
  | .null => .null
  | .bool b => .bool b
  | .int n => .int n
  | .float x => .float x
  | .str s => .str s
  | .other s => .other s
  | .list items => .list (plainItems items)
  | .tuple items => .list (plainItems items)
  | .map entries => .map (collapse (plainEntries entries))
  | .duration months days seconds nanoseconds =>
    .list [.int months, .int days, .int seconds, .int nanoseconds]
  | .point _ coordinates => .list (coordinates.map .float)
  | .node n => .other (.described "Node" (nodeDescription n))
  | .relationship r => .other (.described r.kind (description (.relationship r)))
  | .path p => .other (.described "Path" (description (.path p)))

def plainItems : List Value → List Tree
  | [] => []
  | v :: rest => plain v :: plainItems rest

def plainEntries : List (String × Value) → List (String × Tree)
  | [] => []
  | (key, v) :: rest => (key, plain v) :: plainEntries rest
end

end Value

end CypherGate
