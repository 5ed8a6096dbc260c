import CypherGate.Connection.Action
/-!
# What the database sees of a run

The events of a run tell which queries the database has been sent and when a session was open. Records
in the log are for the operator only.
-/
namespace CypherGate

abbrev Query := String × List (String × Value)

namespace Event

def isLogged : Event → Bool
  | .logged _ => true
  | _ => false

def ofSession : Event → Bool
  | .sessionOpened _ _ | .sessionClosed => true
  | _ => false

def query? : Event → Option Query
  | .sent query parameters => some (query, parameters)
  | _ => none

theorem query?_of_isLogged {e : Event} (h : e.isLogged) : e.query? = none := by
  cases e <;> simp [isLogged, query?] at h ⊢

theorem ofSession_of_isLogged {e : Event} (h : e.isLogged) : e.ofSession = false := by
  cases e <;> simp [isLogged, ofSession] at h ⊢

end Event

namespace Trace

def sent (events : List Event) : List Query := events.filterMap Event.query?

@[simp] theorem sent_nil : sent [] = [] := rfl

@[simp] theorem sent_append (es fs : List Event) :
    sent (es ++ fs) = sent es ++ sent fs := List.filterMap_append ..

@[simp] theorem sent_cons (e : Event) (es : List Event) :
    sent (e :: es) = e.query?.toList ++ sent es := by
  cases h : e.query? <;> simp [sent, h]

def Unseen (events : List Event) : Prop := ∀ e ∈ events, e.isLogged = true

def Idle (events : List Event) : Prop := ∀ e ∈ events, e.ofSession = false ∧ e.query? = none

/-- What happens while a session is open: queries are sent and records are logged. -/
def Talk (events : List Event) : Prop := ∀ e ∈ events, e.isLogged = true ∨ e.query?.isSome

theorem Unseen.idle {es : List Event} (h : Unseen es) : Idle es := fun e he =>
  ⟨Event.ofSession_of_isLogged (h e he), Event.query?_of_isLogged (h e he)⟩

theorem Idle.append {es fs : List Event} (h : Idle es) (k : Idle fs) : Idle (es ++ fs) :=
  List.forall_mem_append.mpr ⟨h, k⟩

theorem Unseen.append {es fs : List Event} (h : Unseen es) (k : Unseen fs) : Unseen (es ++ fs) :=
  List.forall_mem_append.mpr ⟨h, k⟩

theorem Talk.append {es fs : List Event} (h : Talk es) (k : Talk fs) : Talk (es ++ fs) :=
  List.forall_mem_append.mpr ⟨h, k⟩

theorem Idle.sent_eq {es : List Event} (h : Idle es) : sent es = [] :=
  List.filterMap_eq_nil_iff.mpr fun e he => (h e he).2

/-- One session on a database from its opening to its end. All queries are sent in it. -/
def OneSession (database : Option String) (events : List Event) : Prop :=
  ∃ before driver within behind,
    events = before ++ .sessionOpened driver database :: (within ++ .sessionClosed :: behind) ∧
    Idle before ∧ Talk within ∧ Unseen behind

theorem OneSession.append {database : Option String} {es fs : List Event}
    (h : OneSession database es) (k : Unseen fs) : OneSession database (es ++ fs) := by
  obtain ⟨before, driver, within, behind, rfl, idle, talk, unseen⟩ := h
  exact ⟨before, driver, within, behind ++ fs, by simp, idle, talk, unseen.append k⟩

end Trace

end CypherGate
