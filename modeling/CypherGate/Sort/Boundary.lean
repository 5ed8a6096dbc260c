/-!
# Boundaries

A property of positions that holds up to some position and from there on no more has a boundary: the
first position without it. Looking for it halves a range; from an end of the range it first widens
its steps, so that a boundary near that end is found soon. Where the property is not of that kind, a
boundary is still some position whose neighbours were looked at.

Asking for the property may fail, and the first failure ends the search.
-/
namespace CypherGate.Sort

variable {ε : Type}

def bisect (holds : Nat → Except ε Bool) (low high : Nat) : Except ε Nat :=
  if low < high then do
    let middle := low + (high - low) / 2
    if ← holds middle then bisect holds (middle + 1) high else bisect holds low middle
  else .ok low
  termination_by high - low

/-- Steps of growing width from a position with the property: the last one that has it, and the
first one that lacks it or the limit. -/
def stride (holds : Nat → Except ε Bool) (limit near far : Nat) : Except ε (Nat × Nat) :=
  if far < limit then do
    if ← holds far then stride holds limit far (2 * far + 1) else return (near, far)
  else .ok (near, limit)
  termination_by limit - far

def fromFront (holds : Nat → Except ε Bool) (n : Nat) : Except ε Nat := do
  if ← holds 0 then
    let (near, far) ← stride holds n 0 1
    bisect holds (near + 1) far
  else return 0

def fromBack (holds : Nat → Except ε Bool) (n : Nat) : Except ε Nat := do
  if ← holds (n - 1) then return n
  else
    let (near, far) ← stride (fun i => not <$> holds (n - 1 - i)) n 0 1
    bisect holds (n - far) (n - 1 - near)

def atPosition {α : Type} (items : Array α) (property : α → Except ε Bool) (i : Nat) :
    Except ε Bool :=
  match items[i]? with
  | some x => property x
  | none => .ok false

end CypherGate.Sort
