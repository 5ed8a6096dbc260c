import CypherGate.Database
import CypherGate.Failure
import CypherGate.Log
/-!
# Actions on the database link

An action reads the link to the database, reports what it does as a list of events, and ends in a
value or a failure. What was done stays done when an action fails.
-/
namespace CypherGate

/-- The driver in use, drivers being numbered in the order of their creation, and how many drivers
there have been. -/
structure Link where
  driver : Option Nat
  created : Nat
  deriving DecidableEq, Repr

def Link.initial : Link := ⟨none, 0⟩

inductive Event where
  | requested (uri username password : String)
  | created (driver : Nat)
  | verified (driver : Nat) (reachable : Bool)
  | driverClosed (driver : Nat)
  | sessionOpened (driver : Nat) (database : Option String)
  | sessionClosed
  | sent (query : String) (parameters : List (String × Value))
  | logged (record : LogRecord)

structure Site where
  endpoint : Endpoint
  database : Database

structure Outcome (α : Type) where
  result : Except Failure α
  link : Link
  events : List Event

/-- The outcome of what comes after some events. -/
def Outcome.after {α : Type} (events : List Event) (o : Outcome α) : Outcome α :=
  { o with events := events ++ o.events }

section

variable {α : Type} (events : List Event) (o : Outcome α)

@[simp] theorem Outcome.after_result : (o.after events).result = o.result := rfl

@[simp] theorem Outcome.after_link : (o.after events).link = o.link := rfl

@[simp] theorem Outcome.after_events : (o.after events).events = events ++ o.events := rfl

@[simp] theorem Outcome.after_nil : o.after [] = o := rfl

end

def Action (α : Type) := Site → Link → Outcome α

namespace Action

variable {α β : Type}

def run (action : Action α) (site : Site) (link : Link) : Outcome α := action site link

def andThen (action : Action α) (next : Except Failure α → Action β) : Action β := fun site link =>
  let first := action site link
  let second := next first.result site first.link
  { second with events := first.events ++ second.events }

def ofExcept (result : Except Failure α) : Action α := fun _ link => ⟨result, link, []⟩

def fail (failure : Failure) : Action α := ofExcept (.error failure)

instance : Monad Action where
  pure a := ofExcept (.ok a)
  bind action next := action.andThen fun
    | .ok a => next a
    | .error failure => fail failure

def recover (action : Action α) (handler : Failure → Action α) : Action α :=
  action.andThen fun
    | .ok a => ofExcept (.ok a)
    | .error failure => handler failure

/-- Reports an event at the end, whatever the result. -/
def closingWith (action : Action α) (event : Event) : Action α := fun site link =>
  let first := action site link
  { first with events := first.events ++ [event] }

def emit (event : Event) : Action Unit := fun _ link => ⟨.ok (), link, [event]⟩

def log (source : LogSource) (level : LogLevel) (message : String) : Action Unit :=
  emit (.logged ⟨level, source, message⟩)

def site : Action Site := fun site link => ⟨.ok site, link, []⟩

def link : Action Link := fun _ link => ⟨.ok link, link, []⟩

def setLink (next : Link) : Action Unit := fun _ _ => ⟨.ok (), next, []⟩

theorem ofExcept_andThen (r : Except Failure α) (next : Except Failure α → Action β) :
    (ofExcept r).andThen next = next r := by
  funext site link
  simp [andThen, ofExcept]

theorem andThen_ofExcept (action : Action α) : action.andThen ofExcept = action := by
  funext site link
  simp [andThen, ofExcept]

theorem andThen_assoc {γ : Type} (action : Action α) (f : Except Failure α → Action β)
    (g : Except Failure β → Action γ) :
    (action.andThen f).andThen g = action.andThen fun r => (f r).andThen g := by
  funext site link
  simp [andThen, List.append_assoc]

instance : LawfulMonad Action := LawfulMonad.mk' Action
  (by
    intro α x
    show x.andThen _ = x
    rw [← andThen_ofExcept x, andThen_assoc]
    congr
    funext r
    cases r <;> rfl)
  (by
    intro α β a f
    exact ofExcept_andThen (.ok a) _)
  (by
    intro α β γ x f g
    show (x.andThen _).andThen _ = x.andThen _
    rw [andThen_assoc]
    congr
    funext r
    cases r with
    | ok a => rfl
    | error e => exact ofExcept_andThen (.error e) _)

theorem recover_ok {action : Action α} {handler : Failure → Action α} {s : Site} {l : Link} {a : α}
    (h : (action.run s l).result = .ok a) : (action.recover handler).run s l = action.run s l := by
  unfold run at h
  simp [recover, andThen, run, ofExcept, h]
  rw [← h]

theorem recover_error {action : Action α} {handler : Failure → Action α} {s : Site} {l : Link}
    {failure : Failure} (h : (action.run s l).result = .error failure) :
    (action.recover handler).run s l =
      ((handler failure).run s (action.run s l).link).after (action.run s l).events := by
  unfold run at h
  simp [recover, andThen, run, h, Outcome.after]

@[simp] theorem run_pure (a : α) (s : Site) (l : Link) :
    (pure a : Action α).run s l = ⟨.ok a, l, []⟩ := rfl

@[simp] theorem run_fail (f : Failure) (s : Site) (l : Link) :
    (fail f : Action α).run s l = ⟨.error f, l, []⟩ := rfl

@[simp] theorem run_emit (e : Event) (s : Site) (l : Link) :
    (emit e).run s l = ⟨.ok (), l, [e]⟩ := rfl

@[simp] theorem run_log (source : LogSource) (level : LogLevel) (message : String) (s : Site)
    (l : Link) :
    (log source level message).run s l = ⟨.ok (), l, [.logged ⟨level, source, message⟩]⟩ := rfl

@[simp] theorem run_ofExcept (r : Except Failure α) (s : Site) (l : Link) :
    (ofExcept r).run s l = ⟨r, l, []⟩ := rfl

@[simp] theorem run_closingWith (action : Action α) (e : Event) (s : Site) (l : Link) :
    (action.closingWith e).run s l =
      { action.run s l with events := (action.run s l).events ++ [e] } := rfl

theorem run_andThen (action : Action α) (next : Except Failure α → Action β) (s : Site)
    (l : Link) : (action.andThen next).run s l =
      ((next (action.run s l).result).run s (action.run s l).link).after (action.run s l).events :=
  rfl

/-! Steps that cannot fail, followed by an action. -/

section

variable (next : Unit → Action β) (s : Site) (l : Link)

@[simp] theorem run_site_bind (next : Site → Action β) :
    (site >>= next).run s l = (next s).run s l := rfl

@[simp] theorem run_link_bind (next : Link → Action β) :
    (link >>= next).run s l = (next l).run s l := rfl

@[simp] theorem run_setLink_bind (k : Link) :
    (setLink k >>= next).run s l = (next ()).run s k := rfl

@[simp] theorem run_emit_bind (e : Event) :
    (emit e >>= next).run s l = ((next ()).run s l).after [e] := rfl

@[simp] theorem run_log_bind (source : LogSource) (level : LogLevel) (message : String) :
    (log source level message >>= next).run s l =
      ((next ()).run s l).after [.logged ⟨level, source, message⟩] := rfl

end

theorem run_bind_ok {action : Action α} {next : α → Action β} {s : Site} {l : Link} {a : α}
    (h : (action.run s l).result = .ok a) :
    (action >>= next).run s l =
      ((next a).run s (action.run s l).link).after (action.run s l).events := by
  unfold run at h
  simp [bind, andThen, run, h, Outcome.after]

theorem run_bind_error {action : Action α} {next : α → Action β} {s : Site} {l : Link}
    {f : Failure} (h : (action.run s l).result = .error f) :
    (action >>= next).run s l = { action.run s l with result := .error f } := by
  unfold run at h
  simp [bind, andThen, run, h, fail, ofExcept]

theorem run_bind_ofExcept (action : Action α) (next : α → Except Failure β) (s : Site) (l : Link) :
    (action >>= fun a => ofExcept (next a)).run s l =
      { action.run s l with result := (action.run s l).result >>= next } := by
  cases h : (action.run s l).result with
  | ok a =>
    rw [run_bind_ok h]
    simp [Outcome.after, bind, Except.bind]
  | error failure =>
    rw [run_bind_error h]
    rfl

theorem run_map (f : α → β) (action : Action α) (s : Site) (l : Link) :
    (f <$> action).run s l = { action.run s l with result := f <$> (action.run s l).result } := by
  refine (run_bind_ofExcept action (fun a => .ok (f a)) s l).trans ?_
  cases (action.run s l).result <;> rfl

end Action

end CypherGate
