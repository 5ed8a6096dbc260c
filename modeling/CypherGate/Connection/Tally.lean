import CypherGate.Connection.Action
/-!
# What events add up to
-/
namespace CypherGate.Connection

/-- Drivers and sessions so far, and the database of the latest session. -/
structure Tally where
  drivers : Nat
  driversClosed : Nat
  sessions : Nat
  sessionsClosed : Nat
  database : Option String
  deriving DecidableEq, Repr

namespace Tally

def empty : Tally := ⟨0, 0, 0, 0, none⟩

def add (t : Tally) : Event → Tally
  | .created _ => { t with drivers := t.drivers + 1 }
  | .driverClosed _ => { t with driversClosed := t.driversClosed + 1 }
  | .sessionOpened _ database => { t with sessions := t.sessions + 1, database }
  | .sessionClosed => { t with sessionsClosed := t.sessionsClosed + 1 }
  | _ => t

def addAll (t : Tally) (events : List Event) : Tally := events.foldl add t

def openSessions (t : Tally) : Nat := t.sessions - t.sessionsClosed

theorem addAll_append (t : Tally) (es fs : List Event) :
    t.addAll (es ++ fs) = (t.addAll es).addAll fs := by
  simp [addAll]

end Tally

end CypherGate.Connection
