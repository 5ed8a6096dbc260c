import CypherGate.Sort.Boundary
/-!
# Merging two runs

Two neighbouring runs, each in order, are merged from the front if the left one is not the longer,
and from the back otherwise. Items are taken one at a time until one side has given a number of them
in a row; then whole stretches are looked for, as long as these are long. How many items in a row
that takes depends on how well it paid before, also in earlier merges.

On equal items those of the left run come first. The comparison tells whether an item comes before
another one; it may fail, and need not be an order.
-/
namespace CypherGate.Sort

inductive End where
  | front
  | back
  deriving DecidableEq, Repr

/-- A merge under way. The lists start with the items nearest to the end from which it goes on, and
the item taken last comes first. -/
structure Merge (α : Type) where
  taken : List α
  left : List α
  right : List α

def worthwhile : Nat := 7

namespace Merge

variable {α ε : Type}

def takeLeft (n : Nat) (m : Merge α) : Merge α :=
  { m with taken := (m.left.take n).reverse ++ m.taken, left := m.left.drop n }

def takeRight (n : Nat) (m : Merge α) : Merge α :=
  { m with taken := (m.right.take n).reverse ++ m.taken, right := m.right.drop n }

def isShort : List α → Bool
  | [] | [_] => true
  | _ => false

/-- Whether the places of the remaining items are known. -/
def isOver (e : End) (m : Merge α) : Bool :=
  match e with
  | .front => isShort m.left || m.right.isEmpty
  | .back => isShort m.right || m.left.isEmpty

def items (e : End) (m : Merge α) : List α :=
  match e with
  | .front => m.taken.reverse ++ m.right ++ m.left
  | .back => m.right.reverse ++ m.left.reverse ++ m.taken

variable (before : α → α → Except ε Bool)

/-- How many of the next items belong before or, from the back, behind a boundary. -/
def stretch (e : End) (property : α → Except ε Bool) (items : List α) : Except ε Nat :=
  match e with
  | .front =>
    let array := items.toArray
    fromFront (atPosition array property) array.size
  | .back => do
    let array := items.reverse.toArray
    return array.size - (← fromBack (atPosition array property) array.size)

def leftStretch (e : End) (m : Merge α) : Except ε Nat :=
  match m.right with
  | [] => .ok 0
  | r :: _ => stretch e (fun x => not <$> before r x) m.left

def rightStretch (e : End) (m : Merge α) : Except ε Nat :=
  match m.left with
  | [] => .ok 0
  | l :: _ => stretch e (fun x => before x l) m.right

/-- A round that takes a stretch of each side and the item that ends it: the longer stretch, and the
merge after it. -/
def round (e : End) (m : Merge α) : Except ε (Nat × Merge α) := do
  let lefts ← leftStretch before e m
  let m := m.takeLeft lefts
  if m.isOver e then return (lefts, m)
  let m := m.takeRight 1
  if m.isOver e then return (lefts, m)
  let rights ← rightStretch before e m
  let m := m.takeRight rights
  if m.isOver e then return (max lefts rights, m)
  return (max lefts rights, m.takeLeft 1)

/-- Rounds as long as their stretches are worthwhile. With each round after the first the threshold
falls, and in the end it rises. -/
def rounds (e : End) : Nat → Nat → Merge α → Except ε (Nat × Merge α)
  | 0, threshold, m => .ok (threshold, m)
  | fuel + 1, threshold, m => do
    let (longest, m) ← round before e m
    if m.isOver e then return (threshold, m)
    else if longest < worthwhile then return (threshold + 1, m)
    else rounds e fuel (max 1 (threshold - 1)) m

/-- Goes on to the end. Of the items taken last, so many in a row were left and right ones. The fuel
bounds the items to be taken. -/
def finish (e : End) : Nat → Nat → Nat → Nat → Merge α → Except ε (Nat × Merge α)
  | 0, threshold, _, _, m => .ok (threshold, m)
  | fuel + 1, threshold, lefts, rights, m => do
    if m.isOver e then return (threshold, m)
    let (l :: _, r :: _) := (m.left, m.right) | return (threshold, m)
    let isRight := (← before r l) == (e == .front)
    let m := if isRight then m.takeRight 1 else m.takeLeft 1
    let lefts := if isRight then 0 else lefts + 1
    let rights := if isRight then rights + 1 else 0
    if m.isOver e then return (threshold, m)
    else if max lefts rights < threshold then finish e fuel threshold lefts rights m
    else
      let (threshold, m) ← rounds before e fuel threshold m
      finish e fuel threshold 0 0 m

end Merge

/-- Both runs in one, given and giving back the threshold. Left items up to the first right one, and
right items from the last left one on, stay where they are. -/
def mergeRuns {α ε : Type} (before : α → α → Except ε Bool) (threshold : Nat)
    (left right : List α) : Except ε (Nat × List α) := do
  let r :: _ := right | return (threshold, left)
  let settled ← fromFront (atPosition left.toArray fun x => not <$> before r x) left.length
  let some l := (left.drop settled).getLast? | return (threshold, left ++ right)
  let moving ← fromBack (atPosition right.toArray fun x => before x l) right.length
  if moving = 0 then return (threshold, left ++ right)
  let lefts := left.drop settled
  let rights := right.take moving
  let (e, start) := if lefts.length ≤ rights.length
    then (End.front, (Merge.mk [] lefts rights).takeRight 1)
    else (End.back, (Merge.mk [] lefts.reverse rights.reverse).takeLeft 1)
  let (threshold, m) ← Merge.finish before e (lefts.length + rights.length) threshold 0 0 start
  return (threshold, left.take settled ++ m.items e ++ right.drop moving)

end CypherGate.Sort
