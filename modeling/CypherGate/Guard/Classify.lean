import CypherGate.Guard.Call
import CypherGate.Guard.Policy
import CypherGate.Text.Search
/-!
# Classification of queries

A query is never parsed. In lower case and without blanks around it, it is safe when no forbidden
word stands in it, its first call is of an allowed procedure, and it has an allowed opening. Words
in string literals and comments count.
-/
namespace CypherGate.Guard

inductive Refusal where
  | forbidden (word : String)
  | malformedCall
  | procedure (name : String)
  | opening
  /-- A reason that only another guard has. -/
  | other (reason : String)
  deriving DecidableEq, Repr

def Refusal.reason : Refusal → String
  | .forbidden word => s!"forbidden keyword '{word}'"
  | .malformedCall => "malformed procedure call"
  | .procedure name => s!"procedure '{name}' is not allowed"
  | .opening => "query does not start with a read-only clause"
  | .other reason => reason

inductive Verdict where
  | safe
  | rejected (refusal : Refusal)
  deriving DecidableEq, Repr

def normalForm (query : String) : List Char := Text.trim Text.isBlank (Text.lower query.toList)

namespace Policy

def forbiddenIn? (p : Policy) (text : List Char) : Option String :=
  p.forbidden.find? fun word => Text.occursIn word.toList text

def allows (p : Policy) (name : List Char) : Bool :=
  p.procedures.any fun start => start.toList.isPrefixOf name

/-- Calls are looked at only where `call` is followed by a plain space somewhere. -/
def callRefusal? (p : Policy) (text : List Char) : Option Refusal :=
  if !Text.occursIn "call ".toList text then none
  else match firstCall? text with
    | none => some .malformedCall
    | some name => if p.allows name then none else some (.procedure (String.ofList name))

def opens (p : Policy) (text : List Char) : Bool :=
  p.openings.any fun start => start.toList.isPrefixOf text

def judge (p : Policy) (text : List Char) : Verdict :=
  match p.forbiddenIn? text with
  | some word => .rejected (.forbidden word)
  | none =>
    match p.callRefusal? text with
    | some refusal => .rejected refusal
    | none => if p.opens text then .safe else .rejected .opening

def classify (p : Policy) (query : String) : Verdict := p.judge (normalForm query)

end Policy

end CypherGate.Guard

namespace CypherGate

/-- Whatever tells the safe queries from the others. A policy is one such guard. -/
structure Guard where
  classify : String → Guard.Verdict

instance : Coe Guard.Policy Guard := ⟨fun p => ⟨p.classify⟩⟩

end CypherGate
