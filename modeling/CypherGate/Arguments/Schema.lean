import CypherGate.Arguments.Conversion
/-!
# Arguments of the tools

Each tool takes named values. Null stands for a missing value. All problems are reported: those of
the fields in their order, then a problem for each name that the tool does not know.
-/
namespace CypherGate

abbrev Arguments := List (String × Value)

namespace Arguments

/-- The name that stands for the schema itself, so that no argument can bear it. -/
def reservedName : String := "cls"

def isNull : Value → Bool
  | .null => true
  | _ => false

/-- The arguments that count: of a repeated name the last value, unless it is null. -/
def given (args : Arguments) : Arguments := (collapse args).filter fun (_, v) => !isNull v

def required {α : Type} (args : Arguments) (name : String) (conversion : Conversion α) :
    Checked α :=
  match args.lookup name with
  | some v => conversion.located name v
  | none => .error [⟨name, .missing⟩]

def optional {α : Type} (args : Arguments) (name : String) (default : α)
    (conversion : Conversion α) : Checked α :=
  match args.lookup name with
  | some v => conversion.located name v
  | none => .ok default

def whole : String := "arguments"

/-- Where a problem with an unknown name is located: an empty name locates nothing. -/
def locationOf (name : String) : String := if name = "" then whole else name

def unexpected (args : Arguments) (known : List String) : List Problem :=
  (args.filter fun (name, _) => !known.contains name).map fun (name, _) =>
    ⟨locationOf name, .unexpected⟩

def optionalText (args : Arguments) (name : String) : Checked (Option String) :=
  optional args name none fun v => some <$> Conversion.text v

def parseOptionalName (name : String) (arguments : Arguments) : Checked (Option String) :=
  let args := given arguments
  (optionalText args name).adding (unexpected args [name])

def parseName (name : String) (arguments : Arguments) : Checked String :=
  let args := given arguments
  (required args name Conversion.text).adding (unexpected args [name])

end Arguments

open Arguments

structure QueryArguments where
  query : String
  parameters : List (String × Value)

def QueryArguments.parse (arguments : Arguments) : Checked QueryArguments :=
  let args := given arguments
  let fields := (required args "query" Conversion.text).both
    (optional args "parameters" [] Conversion.entries)
  (fields.adding (unexpected args ["query", "parameters"])).map fun (query, parameters) =>
    ⟨query, parameters⟩

def isNamed (name : Option String) : Bool := name.any (· ≠ "")

abbrev SampleLimit := Conversion.Within 1 50

def SampleLimit.default : SampleLimit := ⟨5, by decide⟩

/-- Samples are of nodes with a label or of relationships of a type, never of both. -/
structure SampleArguments where
  label : Option String
  relationshipType : Option String
  limit : SampleLimit
  one_target : ¬(isNamed label ∧ isNamed relationshipType)

namespace SampleArguments

/-- The relationship type has two spellings, of which the first counts if both are given. -/
def typeName (args : Arguments) : String :=
  if (args.lookup "relationshipType").isSome then "relationshipType"
  else if (args.lookup "relationship_type").isSome then "relationship_type"
  else "relationshipType"

def bothTargets : Problem :=
  ⟨Arguments.whole, .broken ("Please specify either 'label' for nodes or 'relationshipType' " ++
    "for relationships, not both")⟩

def ofFields (label relationshipType : Option String) (limit : SampleLimit) :
    Checked SampleArguments :=
  if h : isNamed label ∧ isNamed relationshipType then .error [bothTargets]
  else .ok ⟨label, relationshipType, limit, h⟩

def parse (arguments : Arguments) : Checked SampleArguments :=
  let args := given arguments
  let typeName := typeName args
  let fields := (optionalText args "label").both ((optionalText args typeName).both
    (optional args "limit" SampleLimit.default (Conversion.within 1 50)))
  (fields.adding (unexpected args ["label", typeName, "limit"])).bind
    fun (label, relationshipType, limit) => ofFields label relationshipType limit

end SampleArguments

end CypherGate
