import CypherGate.Connection.Driver
import CypherGate.Proofs.Trace
/-!
# The life of a driver

What creating, verifying and closing a driver do, outcome by outcome, and what borrowing a session
adds. Only creation and closing change the link. None of them sends a query.
-/
namespace CypherGate.Connection

open CypherGate.Action CypherGate.Trace

variable {α : Type} {site : Site} {link : Link}

def request (site : Site) : Event :=
  .requested site.endpoint.uri site.endpoint.username site.endpoint.password

def creationFailure (fault : Fault) : Failure :=
  if isCreationFault fault then .unconnected fault else .fault fault

theorem openDriver_of_none (h : site.database.create site.endpoint = none) :
    openDriver.run site link =
      ⟨.ok link.created, ⟨some link.created, link.created + 1⟩,
        [request site, .created link.created]⟩ := by
  rw [openDriver, run_site_bind, run_emit_bind, h]
  rfl

theorem openDriver_of_some (link : Link) {fault : Fault}
    (h : site.database.create site.endpoint = some fault) :
    ∃ logs, Unseen logs ∧ openDriver.run site link =
      ⟨.error (creationFailure fault), link, request site :: logs⟩ := by
  rw [openDriver, run_site_bind, run_emit_bind, h]
  by_cases k : isCreationFault fault
  · refine ⟨[.logged ⟨.error, .connection,
      s!"Failed to create Neo4j driver for {site.endpoint.uri}: {fault.text}"⟩], ?_, ?_⟩
    · simp [Unseen, Event.isLogged]
    · simp only [k, creationFailure, if_true]
      rfl
  · refine ⟨[], ?_, ?_⟩
    · simp [Unseen]
    · simp only [k, creationFailure]
      rfl

def verification (site : Site) (driver : Nat) : Except Failure Nat :=
  match site.database.verify with
  | none => .ok driver
  | some fault => .error (.unconnected fault)

theorem verify_run (driver : Nat) (site : Site) (link : Link) :
    ∃ record, (verify driver).run site link = ⟨verification site driver, link,
      [.verified driver site.database.verify.isNone, .logged record]⟩ := by
  unfold verification
  cases h : site.database.verify with
  | none =>
    rw [verify, run_site_bind, h]
    exact ⟨_, rfl⟩
  | some fault =>
    rw [verify, run_site_bind, h]
    exact ⟨_, rfl⟩

def closing : Option Nat → List Event
  | none => []
  | some driver =>
    [.driverClosed driver, .logged ⟨.info, .connection, "Neo4j connection closed"⟩]

theorem close_run (site : Site) (link : Link) :
    close.run site link = ⟨.ok (), { link with driver := none }, closing link.driver⟩ := by
  rw [close, run_link_bind]
  cases h : link.driver with
  | none =>
    have same : ({ link with driver := none } : Link) = link := by rw [← h]
    rw [same]
    rfl
  | some driver => rfl

theorem connect_of_some {driver : Nat} (h : link.driver = some driver) :
    connect.run site link = ⟨.ok driver, link, []⟩ := by
  simp [connect, h]

theorem connect_of_none (h : link.driver = none) :
    connect.run site link = (openDriver >>= verify).run site link := by
  simp [connect, h]

theorem openDriver_idle (site : Site) (link : Link) : Idle (openDriver.run site link).events := by
  cases h : site.database.create site.endpoint with
  | none =>
    rw [openDriver_of_none h]
    simp [Idle, request, Event.ofSession, Event.query?]
  | some fault =>
    obtain ⟨logs, unseen, run⟩ := openDriver_of_some link h
    rw [run]
    exact List.forall_mem_cons.mpr ⟨⟨rfl, rfl⟩, unseen.idle⟩

theorem verify_idle (driver : Nat) (site : Site) (link : Link) :
    Idle ((verify driver).run site link).events := by
  obtain ⟨record, run⟩ := verify_run driver site link
  simp [run, Idle, Event.ofSession, Event.query?]

theorem close_idle (site : Site) (link : Link) : Idle (close.run site link).events := by
  rw [close_run]
  cases link.driver <;> simp [closing, Idle, Event.ofSession, Event.query?]

theorem connect_idle (site : Site) (link : Link) : Idle (connect.run site link).events := by
  cases h : link.driver with
  | some driver =>
    rw [connect_of_some h]
    simp [Idle]
  | none =>
    rw [connect_of_none h]
    cases r : (openDriver.run site link).result with
    | ok driver =>
      rw [run_bind_ok r]
      exact (openDriver_idle site link).append (verify_idle driver site _)
    | error failure =>
      rw [run_bind_error r]
      exact openDriver_idle site link

theorem withSession_of_error {failure : Failure} (body : Action α)
    (h : (connect.run site link).result = .error failure) :
    (withSession body).run site link =
      ⟨.error failure, (connect.run site link).link, (connect.run site link).events⟩ := by
  rw [withSession, run_bind_error h]

theorem withSession_of_ok {driver : Nat} (body : Action α)
    (h : (connect.run site link).result = .ok driver) :
    (withSession body).run site link =
      let connected := connect.run site link
      let inner := body.run site connected.link
      ⟨inner.result, inner.link, connected.events ++
        .sessionOpened driver site.endpoint.database :: (inner.events ++ [.sessionClosed])⟩ := by
  rw [withSession, run_bind_ok h]
  simp [Outcome.after]

end CypherGate.Connection
