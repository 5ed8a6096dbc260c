import CypherGate.Connection.Tally
import CypherGate.Proofs.Lifecycle
/-!
# Custody of drivers and sessions

Events that keep to the order of a driver's life: it is asked for and created where there is none,
verified once, lent to one session at a time and closed at most once, when its verification is over
and no session is open. Queries are sent within a session. A record of events in this order accounts
for all drivers and sessions.
-/
namespace CypherGate.Connection

open CypherGate.Action CypherGate.Trace

variable {α : Type}

inductive Tenure where
  | vacant
  /-- The driver has been created, and its verification is not over. -/
  | unverified (driver : Nat)
  | verified (driver : Nat) (reachable : Bool)
  deriving DecidableEq, Repr

def Tenure.driver? : Tenure → Option Nat
  | .vacant => none
  | .unverified d | .verified d _ => some d

structure Custody where
  tenure : Tenure
  created : Nat
  inSession : Bool
  deriving DecidableEq, Repr

namespace Custody

def initial : Custody := ⟨.vacant, 0, false⟩

def link (c : Custody) : Link := ⟨c.tenure.driver?, c.created⟩

/-- What may happen in a custody, and what it leads to. -/
inductive Moves : Custody → Event → Custody → Prop
  | requested (n : Nat) (uri username password : String) :
    Moves ⟨.vacant, n, false⟩ (.requested uri username password) ⟨.vacant, n, false⟩
  | created (n : Nat) : Moves ⟨.vacant, n, false⟩ (.created n) ⟨.unverified n, n + 1, false⟩
  | verified (d n : Nat) (reachable : Bool) :
    Moves ⟨.unverified d, n, false⟩ (.verified d reachable) ⟨.verified d reachable, n, false⟩
  | closed (d n : Nat) (reachable : Bool) :
    Moves ⟨.verified d reachable, n, false⟩ (.driverClosed d) ⟨.vacant, n, false⟩
  | opened (d n : Nat) (reachable : Bool) (database : Option String) :
    Moves ⟨.verified d reachable, n, false⟩ (.sessionOpened d database)
      ⟨.verified d reachable, n, true⟩
  | sent (tenure : Tenure) (n : Nat) (query : String) (parameters : List (String × Value)) :
    Moves ⟨tenure, n, true⟩ (.sent query parameters) ⟨tenure, n, true⟩
  | ended (tenure : Tenure) (n : Nat) :
    Moves ⟨tenure, n, true⟩ .sessionClosed ⟨tenure, n, false⟩
  | logged (c : Custody) (record : LogRecord) : Moves c (.logged record) c

inductive Leads : Custody → List Event → Custody → Prop
  | nil (c : Custody) : Leads c [] c
  | cons {c d e : Custody} {event : Event} {rest : List Event} :
    Moves c event d → Leads d rest e → Leads c (event :: rest) e

/-- Nothing is under way: no session is open, and no verification is going on. -/
inductive AtRest : Custody → Prop
  | vacant (n : Nat) : AtRest ⟨.vacant, n, false⟩
  | verified (d n : Nat) (reachable : Bool) : AtRest ⟨.verified d reachable, n, false⟩

variable {c c' c'' : Custody} {es fs : List Event}

theorem Leads.single {event : Event} (h : Moves c event c') : Leads c [event] c' :=
  .cons h (.nil c')

theorem Leads.append (h : Leads c es c') (k : Leads c' fs c'') : Leads c (es ++ fs) c'' := by
  induction h with
  | nil => exact k
  | cons move _ ih => exact .cons move (ih k)

theorem leads_of_unseen (h : Unseen es) (c : Custody) : Leads c es c := by
  induction es with
  | nil => exact .nil c
  | cons e es ih =>
    have rest : Leads c es c := ih fun e he => h e (List.mem_cons_of_mem _ he)
    have logged := h e List.mem_cons_self
    cases e with
    | logged record => exact .cons (.logged c record) rest
    | _ => cases logged

theorem leads_of_talk (h : Talk es) (tenure : Tenure) (n : Nat) :
    Leads ⟨tenure, n, true⟩ es ⟨tenure, n, true⟩ := by
  induction es with
  | nil => exact .nil _
  | cons e es ih =>
    have rest := ih fun e he => h e (List.mem_cons_of_mem _ he)
    have first := h e List.mem_cons_self
    cases e with
    | logged record => exact .cons (.logged _ record) rest
    | sent query parameters => exact .cons (.sent tenure n query parameters) rest
    | _ => simp [Event.isLogged, Event.query?] at first

theorem leads_session (d n : Nat) (reachable : Bool) (database : Option String) (talk : Talk es) :
    Leads ⟨.verified d reachable, n, false⟩ (.sessionOpened d database :: (es ++ [.sessionClosed]))
      ⟨.verified d reachable, n, false⟩ :=
  .cons (.opened d n reachable database)
    ((leads_of_talk talk _ n).append (.single (.ended _ n)))

theorem AtRest.inSession (h : c.AtRest) : c.inSession = false := by
  cases h <;> rfl

/-- From one custody to another by what an action did, with nothing left under way. -/
structure Kept (c : Custody) (o : Outcome α) (c' : Custody) : Prop where
  leads : Leads c o.events c'
  link : o.link = c'.link
  rest : c'.AtRest

theorem close_kept (h : c.AtRest) (site : Site) :
    c.Kept (close.run site c.link) ⟨.vacant, c.created, false⟩ := by
  rw [close_run]
  cases h with
  | vacant n => exact ⟨.nil _, rfl, .vacant n⟩
  | verified d n reachable =>
    exact ⟨.cons (.closed d n reachable) (.single (.logged _ _)), rfl, .vacant n⟩

theorem connect_kept_of_vacant (n : Nat) (site : Site) :
    ∃ c', Kept ⟨.vacant, n, false⟩ (connect.run site ⟨none, n⟩) c' ∧
      ∀ d, (connect.run site ⟨none, n⟩).result = .ok d → c' = ⟨.verified d true, n + 1, false⟩ := by
  rw [connect_of_none rfl]
  cases create : site.database.create site.endpoint with
  | some fault =>
    obtain ⟨logs, unseen, run⟩ := openDriver_of_some ⟨none, n⟩ create
    rw [run_bind_error (by rw [run]), run]
    refine ⟨⟨.vacant, n, false⟩, ⟨?_, rfl, .vacant n⟩, ?_⟩
    · exact .cons (.requested n _ _ _) (leads_of_unseen unseen _)
    · intro d hd
      cases hd
  | none =>
    have run : openDriver.run site ⟨none, n⟩ = _ := openDriver_of_none create
    obtain ⟨record, verified⟩ := verify_run n site ⟨some n, n + 1⟩
    rw [run_bind_ok (by rw [run]), run, verified]
    refine ⟨⟨.verified n site.database.verify.isNone, n + 1, false⟩, ⟨?_, rfl, .verified n _ _⟩, ?_⟩
    · exact .cons (.requested n _ _ _) (.cons (.created n)
        (.cons (.verified n (n + 1) _) (.single (.logged _ record))))
    · intro d hd
      cases verify : site.database.verify with
      | some fault => simp [verification, verify] at hd
      | none =>
        obtain rfl : n = d := by simpa [verification, verify] using hd
        rfl

/-- Connecting leaves a driver in place alone. It comes to the driver that is in place then. -/
theorem connect_kept (h : c.AtRest) (site : Site) :
    ∃ c', c.Kept (connect.run site c.link) c' ∧ (c.link.driver.isSome → c' = c) ∧
      ∀ d, (connect.run site c.link).result = .ok d →
        ∃ reachable, c'.tenure = .verified d reachable := by
  cases h with
  | vacant n =>
    obtain ⟨c', kept, connected⟩ := connect_kept_of_vacant n site
    refine ⟨c', kept, ?_, ?_⟩
    · intro some
      cases some
    · intro d hd
      obtain rfl := connected d hd
      exact ⟨true, rfl⟩
  | verified d n reachable =>
    have run : connect.run site ⟨some d, n⟩ = ⟨.ok d, ⟨some d, n⟩, []⟩ := connect_of_some rfl
    refine ⟨⟨.verified d reachable, n, false⟩, ?_, fun _ => rfl, ?_⟩
    · simp only [link, Tenure.driver?, run]
      exact ⟨.nil _, rfl, .verified d n reachable⟩
    · intro e he
      obtain rfl : d = e := by simpa [link, Tenure.driver?, run] using he
      exact ⟨reachable, rfl⟩

end Custody

namespace Tally

/-- Of all drivers that have been created only the one in place is not closed, and of all sessions
that have been opened only the open one has not ended. -/
structure Balances (t : Tally) (c : Custody) : Prop where
  created : t.drivers = c.created
  drivers : t.drivers = t.driversClosed + if c.link.driver.isSome then 1 else 0
  sessions : t.sessions = t.sessionsClosed + if c.inSession then 1 else 0

variable {t : Tally} {c c' : Custody}

theorem Balances.initial : empty.Balances Custody.initial := ⟨rfl, rfl, rfl⟩

theorem Balances.add {e : Event} (h : t.Balances c) (move : c.Moves e c') :
    (t.add e).Balances c' := by
  obtain ⟨created, drivers, sessions⟩ := h
  cases move with
  | requested | verified | sent | logged => exact ⟨created, drivers, sessions⟩
  | created n =>
    refine ⟨congrArg (· + 1) created, ?_, sessions⟩
    exact congrArg (· + 1) drivers
  | closed d n reachable => exact ⟨created, drivers, sessions⟩
  | opened d n reachable database => exact ⟨created, drivers, congrArg (· + 1) sessions⟩
  | ended tenure n => exact ⟨created, drivers, sessions⟩

theorem Balances.addAll {es : List Event} (h : t.Balances c) (leads : c.Leads es c') :
    (t.addAll es).Balances c' := by
  induction leads generalizing t with
  | nil => exact h
  | cons move _ ih => exact ih (h.add move)

end Tally

end CypherGate.Connection
