import CypherGate.Sort.Merge
/-!
# Adaptive sorting

A list falls into runs that are in order already, or in the opposite order without equal items; short
runs are lengthened by insertion. Neighbouring runs are merged in an order that keeps the merges
balanced: each border between two runs has a power, the number of binary digits that tell apart the
middles of the runs on the scale of the whole list, and borders of greater power are merged first.

The sort is stable. It compares two items only where that is needed, and the outcome of a comparison
that is no order, or that fails, depends on which ones it compares.
-/
namespace CypherGate.Sort

variable {α ε : Type} (before : α → α → Except ε Bool)

/-- Lengthens a run, whose last item comes first, in one direction. -/
def extendRun (descending : Bool) : List α → List α → Except ε (List α × List α)
  | run, [] => .ok (run, [])
  | [], rest => .ok ([], rest)
  | last :: run, next :: rest => do
    if (← before next last) == descending then extendRun descending (next :: last :: run) rest
    else return (last :: run, next :: rest)

def naturalRun : List α → Except ε (List α × List α)
  | first :: second :: rest => do
    let descending ← before second first
    let (run, rest) ← extendRun before descending [second, first] rest
    return (if descending then run else run.reverse, rest)
  | short => .ok (short, [])

def insertItem (run : List α) (item : α) : Except ε (List α) := do
  let i ← bisect (atPosition run.toArray fun x => not <$> before item x) 0 run.length
  return run.take i ++ item :: run.drop i

def nextRun (least : Nat) (items : List α) : Except ε (List α × List α) := do
  let (run, rest) ← naturalRun before items
  let missing := least - run.length
  return (← (rest.take missing).foldlM (insertItem before) run, rest.drop missing)

/-- The least length of runs: a whole list below 64 items, else the length halved until it is below
64, rounded up. -/
def leastRun (roundUp length : Nat) : Nat :=
  if length < 64 then length + roundUp else leastRun (max roundUp (length % 2)) (length / 2)
  termination_by length

/-- The first binary digit in which two fractions of `whole` differ. -/
def firstDifference (whole : Nat) : Nat → Nat → Nat → Nat
  | 0, _, _ => 0
  | fuel + 1, a, b =>
    if whole ≤ a then firstDifference whole fuel (2 * (a - whole)) (2 * (b - whole)) + 1
    else if whole ≤ b then 1
    else firstDifference whole fuel (2 * a) (2 * b) + 1

/-- The power of the border before position `start` between runs of two lengths. -/
def borderPower (whole start leftLength rightLength : Nat) : Nat :=
  let middle := 2 * start - leftLength
  firstDifference whole whole middle (middle + leftLength + rightLength)

structure Pending (α : Type) where
  items : List α
  power : Nat

/-- Merges the last runs, which come first, as long as the border between them has a greater power. -/
def collapse (power : Nat) : Nat → List (Pending α) → Except ε (Nat × List (Pending α))
  | threshold, top :: next :: rest => do
    if power < next.power then
      let (threshold, merged) ← mergeRuns before threshold next.items top.items
      collapse power threshold (⟨merged, next.power⟩ :: rest)
    else return (threshold, top :: next :: rest)
  | threshold, short => .ok (threshold, short)
  termination_by _ stack => stack.length

/-- Merges what is left, beginning with the shorter of two neighbours. -/
def mergeAll (threshold : Nat) : List (Pending α) → Except ε (List α)
  | [] => .ok []
  | [only] => .ok only.items
  | [last, first] => return (← mergeRuns before threshold first.items last.items).2
  | last :: middle :: first :: rest => do
    if first.items.length < last.items.length then
      let (threshold, merged) ← mergeRuns before threshold first.items middle.items
      mergeAll threshold (last :: ⟨merged, middle.power⟩ :: rest)
    else
      let (threshold, merged) ← mergeRuns before threshold middle.items last.items
      mergeAll threshold (⟨merged, last.power⟩ :: first :: rest)
  termination_by stack => stack.length

def setPower (power : Nat) : List (Pending α) → List (Pending α)
  | [] => []
  | top :: rest => { top with power } :: rest

/-- Adds the runs of a list, which starts at a position of the whole one, to those that wait. The
fuel bounds the number of runs. -/
def addRuns (whole : Nat) : Nat → Nat → Nat → List (Pending α) → List α → Except ε (List α)
  | 0, _, threshold, stack, _ => mergeAll before threshold stack
  | _, _, threshold, stack, [] => mergeAll before threshold stack
  | fuel + 1, start, threshold, stack, items => do
    let (run, rest) ← nextRun before (leastRun 0 whole) items
    let power := match stack with
      | [] => 0
      | top :: _ => borderPower whole start top.items.length run.length
    let (threshold, stack) ← collapse before power threshold stack
    addRuns whole fuel (start + run.length) threshold (⟨run, 0⟩ :: setPower power stack) rest

def adaptive (items : List α) : Except ε (List α) :=
  addRuns before items.length items.length 0 worthwhile [] items

end CypherGate.Sort
