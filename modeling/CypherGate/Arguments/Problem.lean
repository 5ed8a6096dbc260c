/-!
# Problems with named values

A problem names the value it is about and has one cause. Arguments of tools and settings share the
causes.
-/
namespace CypherGate

inductive Cause where
  | missing
  | notText
  | undecodableText
  | notMap
  | notList
  | notInteger
  | notIntegerText
  | notFinite
  | fractional
  | oversized
  | below (least : Nat)
  | above (greatest : Nat)
  | emptyText
  | notOneOf (first second : String)
  | unexpected
  | broken (rule : String)
  deriving DecidableEq, Repr

def Cause.text : Cause → String
  | .missing => "Field required"
  | .notText => "Input should be a valid string"
  | .undecodableText =>
    "Input should be a valid string, unable to parse raw data as a unicode string"
  | .notMap => "Input should be a valid dictionary"
  | .notList => "Input should be a valid list"
  | .notInteger => "Input should be a valid integer"
  | .notIntegerText => "Input should be a valid integer, unable to parse string as an integer"
  | .notFinite => "Input should be a finite number"
  | .fractional => "Input should be a valid integer, got a number with a fractional part"
  | .oversized => "Unable to parse input string as an integer, exceeded maximum size"
  | .below least => s!"Input should be greater than or equal to {least}"
  | .above greatest => s!"Input should be less than or equal to {greatest}"
  | .emptyText => "String should have at least 1 character"
  | .notOneOf first second => s!"Input should be '{first}' or '{second}'"
  | .unexpected => "Extra inputs are not permitted"
  | .broken rule => "Value error, " ++ rule

structure Problem where
  location : String
  cause : Cause
  deriving DecidableEq, Repr

def Problem.text (p : Problem) : String := p.location ++ ": " ++ p.cause.text

/-- A result, or every problem on the way to it. -/
abbrev Checked (α : Type) := Except (List Problem) α

namespace Checked

/-- Both results, or the problems of both in order. -/
def both {α β : Type} : Checked α → Checked β → Checked (α × β)
  | .ok a, .ok b => .ok (a, b)
  | .ok _, .error qs => .error qs
  | .error ps, .ok _ => .error ps
  | .error ps, .error qs => .error (ps ++ qs)

/-- A result that stands only if there are no further problems. -/
def adding {α : Type} (further : List Problem) : Checked α → Checked α
  | .ok a => if further.isEmpty then .ok a else .error further
  | .error ps => .error (ps ++ further)

def problems {α : Type} : Checked α → List Problem
  | .ok _ => []
  | .error ps => ps

@[simp] theorem both_eq_ok {α β : Type} {a : Checked α} {b : Checked β} {p : α × β} :
    both a b = .ok p ↔ a = .ok p.1 ∧ b = .ok p.2 := by
  obtain ⟨x, y⟩ := p
  cases a <;> cases b <;> simp [both]

@[simp] theorem adding_eq_ok {α : Type} {further : List Problem} {a : Checked α} {x : α} :
    adding further a = .ok x ↔ further = [] ∧ a = .ok x := by
  cases a <;> cases further <;> simp [adding]

theorem problems_both {α β : Type} (a : Checked α) (b : Checked β) :
    (both a b).problems = a.problems ++ b.problems := by
  cases a <;> cases b <;> simp [both, problems]

theorem problems_adding {α : Type} (further : List Problem) (a : Checked α) :
    (adding further a).problems = a.problems ++ further := by
  cases a <;> cases further <;> simp [adding, problems]

end Checked

end CypherGate
