import CypherGate.Request.Row
import CypherGate.Sort.Adaptive
/-!
# Properties of a label or relationship type

Properties are listed by descending frequency and then by name; rows equal in both keep their
order. Names are texts as a rule, but need not be: then two of them may lack an order, which shows
when they are compared.
-/
namespace CypherGate

open PlainRow

structure Property where
  name : Tree
  /-- Known only where the database can tell types. -/
  type : Option Tree
  frequency : Int

namespace Property

def ofTypedRow (row : PlainRow) : Except DataError Property := do
  let name ← column row "key"
  let type ← column row "type"
  return ⟨name, some type, ← countOf row "frequency"⟩

def ofUntypedRow (row : PlainRow) : Except DataError Property := do
  let name ← column row "key"
  return ⟨name, none, ← countOf row "frequency"⟩

def tree (p : Property) : Tree :=
  .map (("property", p.name) :: (p.type.map fun t => ("type", t)).toList ++
    [("frequency", .int p.frequency)])

def precedes (p q : Property) : Except DataError Bool :=
  if p.frequency ≠ q.frequency then .ok (q.frequency < p.frequency)
  else do
    let same ← (p.name.same q.name).mapError .unordered
    if same then return false else (p.name.less q.name).mapError .unordered

def textName? (p : Property) : Option String :=
  match p.name with
  | .str s => some s
  | _ => none

def nameText (p : Property) : String := p.textName?.getD ""

def upTo (p q : Property) : Bool :=
  decide (q.frequency < p.frequency ∨ p.frequency = q.frequency ∧ p.nameText ≤ q.nameText)

/-- The listing. Texts are in a total order, so that every stable sort lists them alike. -/
def rank (ps : List Property) : Except DataError (List Property) :=
  if ps.all fun p => p.textName?.isSome then .ok (ps.mergeSort upTo)
  else Sort.adaptive precedes ps

end Property

end CypherGate
