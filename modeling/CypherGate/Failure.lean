import CypherGate.Arguments.Problem
import CypherGate.Fault
import CypherGate.Graph.Identity
import CypherGate.Graph.Order
import CypherGate.Guard.Classify
import CypherGate.Identifier
/-!
# Failures of requests

Every way in which a request can fail, and what is told about it. The program's own failures name
the part that is answerable for them; the others pass through from below.
-/
namespace CypherGate

/-- A leaf or row that the store cannot work with. -/
inductive DataError where
  | numeral (e : NumeralError)
  | notNumber (type : String)
  | countOfNan
  | countOfInfinity
  | missingColumn (column : String)
  | unordered (cause : Incomparable)
  /-- An integer of the payload is too long to be written. -/
  | oversized
  deriving DecidableEq, Repr

def DataError.message : DataError → String
  | .numeral e => e.message
  | .notNumber type =>
    "int() argument must be a string, a bytes-like object or a real number, not '" ++ type ++ "'"
  | .countOfNan => "cannot convert float NaN to integer"
  | .countOfInfinity => "cannot convert float infinity to integer"
  | .missingColumn column => quote column
  | .unordered cause => cause.message
  | .oversized =>
    s!"Exceeds the limit ({Text.maxDigits} digits) for integer string conversion; " ++
      "use sys.set_int_max_str_digits() to increase the limit"

inductive Failure where
  | rejected (refusal : Guard.Refusal)
  | unsafeName (name : Identifier.Unsafe)
  | arguments (problems : List Problem)
  | nameInUse (name : String)
  /-- No driver, or none that reaches the server. -/
  | unconnected (cause : Fault)
  /-- The server was lost during a query. -/
  | unavailable (cause : Fault)
  | testFailed (cause : Failure)
  | execution (cause : Fault)
  | fault (cause : Fault)
  | data (cause : DataError)
  deriving DecidableEq, Repr

namespace Failure

def rejectionNotice : String :=
  "Query contains forbidden operations. " ++
    "Only read operations (MATCH, RETURN, WITH, UNWIND, etc.) are allowed."

def message : Failure → String
  | .rejected refusal => rejectionNotice ++ " (" ++ refusal.reason ++ ")"
  | .unsafeName name => name.message
  | .arguments problems =>
    "Invalid arguments: " ++ String.intercalate "; " (problems.map Problem.text)
  | .nameInUse name => s!"ToolArguments.parse() got multiple values for argument '{name}'"
  | .unconnected cause => "Failed to connect to Neo4j: " ++ cause.text
  | .unavailable cause => "Neo4j is unavailable: " ++ cause.text
  | .testFailed cause => "Connection test failed: " ++ message cause
  | .execution cause => cause.detail
  | .fault cause => cause.text
  | .data cause => cause.message

inductive Part where
  | guard
  | arguments
  | database
  deriving DecidableEq, Repr

def part? : Failure → Option Part
  | .rejected _ | .unsafeName _ => some .guard
  | .arguments _ => some .arguments
  | .unconnected _ | .unavailable _ | .testFailed _ | .execution _ => some .database
  | .nameInUse _ | .fault _ | .data _ => none

end Failure

end CypherGate
