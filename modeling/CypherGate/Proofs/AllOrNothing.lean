import CypherGate.Tool
import CypherGate.Proofs.Sitting
/-!
# One session or nothing

A request that is refused leaves the database alone. Any other request asks for a driver, and with a
driver it holds one session, in which it keeps to its script whatever the database answers.
-/
namespace CypherGate

open CypherGate.Action Trace Connection

variable {α : Type}

/-- A script was served in one session, which is over. -/
structure Script.Served (script : Script) (site : Site) (events : List Event) (succeeded : Prop) :
    Prop where
  one_session : OneSession site.endpoint.database events
  in_order : sent events <+: script.queries
  on_path : sent events <+: script.path site.database
  stops : ∀ q ∈ (sent events).dropLast, script.Passes site.database q
  complete : succeeded → sent events = script.path site.database ∧
    ∀ q ∈ script.path site.database, script.Passes site.database q

namespace Script

variable {script : Script} {site : Site} {es : List Event} {succeeded : Prop}

theorem Served.append (h : script.Served site es succeeded) {fs : List Event} (k : Unseen fs) :
    script.Served site (es ++ fs) succeeded := by
  have same : sent (es ++ fs) = sent es := by simp [k.idle.sent_eq]
  exact ⟨h.one_session.append k, same ▸ h.in_order, same ▸ h.on_path, same ▸ h.stops,
    same ▸ h.complete⟩

theorem Served.mono (h : script.Served site es succeeded) {less : Prop} (k : less → succeeded) :
    script.Served site es less :=
  { h with complete := h.complete ∘ k }

theorem Followed.served {link : Link} {o : Outcome α}
    (h : script.Followed site.database link o) (idle : Idle es) (driver : Nat) :
    script.Served site
      (es ++ .sessionOpened driver site.endpoint.database :: (o.events ++ [.sessionClosed]))
      (∃ a, o.result = .ok a) := by
  have same : sent (es ++ .sessionOpened driver site.endpoint.database ::
      (o.events ++ [.sessionClosed])) = sent o.events := by
    simp [idle.sent_eq, Event.query?]
  constructor
  · exact ⟨es, driver, o.events, [], rfl, idle, h.talk, by simp [Unseen]⟩
  · rw [same]
    exact h.in_order.trans (script.path_prefix site.database)
  · rw [same]
    exact h.in_order
  · rw [same]
    exact h.stops
  · rintro ⟨a, ha⟩
    rw [same]
    exact h.complete a ha

end Script

namespace Sitting

variable {script : Script} {action : Action α} {site : Site} {link : Link}

theorem run_unconnected (h : Sitting script action) {failure : Failure}
    (unconnected : (connect.run site link).result = .error failure) :
    ∃ failure', action.run site link =
      ⟨.error failure', (connect.run site link).link, (connect.run site link).events⟩ := by
  obtain ⟨γ, body, conclude, rfl, fails, -⟩ := h
  obtain ⟨failure', h⟩ := fails failure
  refine ⟨failure', ?_⟩
  rw [run_andThen, withSession_of_error body unconnected]
  simp [h, Outcome.after]

theorem run_served (h : Sitting script action) {driver : Nat}
    (connected : (connect.run site link).result = .ok driver) :
    (action.run site link).link = (connect.run site link).link ∧
      script.Served site (action.run site link).events
        (∃ a, (action.run site link).result = .ok a) := by
  obtain ⟨γ, body, conclude, rfl, fails, follows⟩ := h
  have followed := follows site (connect.run site link).link
  have served := followed.served (connect_idle site link) driver
  rw [run_andThen, withSession_of_ok body connected]
  simp only [run_ofExcept, Outcome.after, List.append_nil]
  refine ⟨followed.same_link, served.mono ?_⟩
  rintro ⟨a, ha⟩
  cases r : (body.run site (connect.run site link).link).result with
  | ok value => exact ⟨value, rfl⟩
  | error failure =>
    obtain ⟨failure', h⟩ := fails failure
    rw [r, h] at ha
    cases ha

theorem run_events (h : Sitting script action) {driver : Nat}
    (connected : (connect.run site link).result = .ok driver) :
    ∃ talk, Talk talk ∧ (action.run site link).events = (connect.run site link).events ++
      .sessionOpened driver site.endpoint.database :: (talk ++ [.sessionClosed]) := by
  obtain ⟨γ, body, conclude, rfl, -, follows⟩ := h
  have followed := follows site (connect.run site link).link
  refine ⟨_, followed.talk, ?_⟩
  rw [run_andThen, withSession_of_ok body connected]
  simp

end Sitting

namespace Tool

def Succeeds (guard : Guard) (tool : Tool) (args : Arguments) (site : Site) (link : Link) : Prop :=
  ∃ answer, (((tool.request args).run guard).run site link).result = .ok answer

def reply : Except Failure Answer → Except Failure String
  | .ok answer => answer.render
  | .error failure => .ok ("Error: " ++ failure.message)

theorem logFailure_run (tool : Tool) (failure : Failure) :
    ∃ logs, Unseen logs ∧
      ∀ site link, (tool.logFailure failure).run site link = ⟨.ok (), link, logs⟩ := by
  unfold logFailure
  split
  · exact ⟨[], by simp [Unseen], fun _ _ => rfl⟩
  · exact ⟨_, by simp [Unseen, Event.isLogged], fun _ _ => rfl⟩
  · exact ⟨_, by simp [Unseen, Event.isLogged], fun _ _ => rfl⟩

section

variable {guard : Guard} {tool : Tool} {args : Arguments} {site : Site} {link : Link}

theorem call_of_ok {answer : Answer}
    (h : (((tool.request args).run guard).run site link).result = .ok answer) :
    (tool.call guard args).run site link =
      { ((tool.request args).run guard).run site link with result := answer.render } := by
  rw [call, run_andThen, h]
  simp [Outcome.after]

theorem call_of_error {failure : Failure}
    (h : (((tool.request args).run guard).run site link).result = .error failure) :
    let inner := ((tool.request args).run guard).run site link
    (tool.call guard args).run site link = ⟨.ok ("Error: " ++ failure.message), inner.link,
      inner.events ++ ((tool.logFailure failure).run site inner.link).events⟩ := by
  intro inner
  obtain ⟨logs, -, run⟩ := tool.logFailure_run failure
  rw [call, run_andThen, h, run]
  dsimp only
  rw [run_bind_ok (a := ()) (by rw [run]), run]
  simp [Outcome.after, inner]

end

/-- A call is its request, a reply to what the request came to, and perhaps a record in the log. -/
theorem call_run (guard : Guard) (tool : Tool) (args : Arguments) (site : Site) (link : Link) :
    let inner := ((tool.request args).run guard).run site link
    ∃ logs, Unseen logs ∧ (tool.call guard args).run site link =
      ⟨reply inner.result, inner.link, inner.events ++ logs⟩ := by
  intro inner
  cases r : inner.result with
  | ok answer =>
    refine ⟨[], by simp [Unseen], ?_⟩
    rw [call_of_ok r, List.append_nil]
    rfl
  | error failure =>
    obtain ⟨logs, unseen, run⟩ := tool.logFailure_run failure
    refine ⟨logs, unseen, ?_⟩
    rw [call_of_error r, run]
    rfl

/-- Whatever the database does, a call touches it all or nothing: a refused call has no effect but in
the log, without a driver nothing is asked, and else the script is served in one session. -/
theorem call_all_or_nothing (guard : Guard) (tool : Tool) (args : Arguments) (site : Site)
    (link : Link) :
    let o := (tool.call guard args).run site link
    let connected := connect.run site link
    match (tool.request args).script guard, connected.result with
    | .error failure, _ =>
      o.result = .ok ("Error: " ++ failure.message) ∧ o.link = link ∧ Unseen o.events
    | .ok _, .error _ =>
      ¬tool.Succeeds guard args site link ∧ o.link = connected.link ∧ Idle o.events
    | .ok script, .ok _ =>
      o.link = connected.link ∧
        script.Served site o.events (tool.Succeeds guard args site link) := by
  intro o connected
  have shaped := (tool.request args).run_shaped guard
  obtain ⟨logs, unseen, call⟩ := call_run guard tool args site link
  simp only [o, connected, call]
  cases s : (tool.request args).script guard with
  | error failure =>
    rw [s] at shaped
    obtain ⟨records, recorded, run⟩ := shaped
    rw [run]
    exact ⟨rfl, rfl, recorded.append unseen⟩
  | ok script =>
    rw [s] at shaped
    cases c : (connect.run site link).result with
    | error failure =>
      obtain ⟨failure', run⟩ := Sitting.run_unconnected shaped c
      rw [Succeeds, run]
      refine ⟨?_, rfl, (connect_idle site link).append unseen.idle⟩
      rintro ⟨answer, h⟩
      cases h
    | ok driver =>
      obtain ⟨same_link, served⟩ := Sitting.run_served shaped c
      exact ⟨same_link, served.append unseen⟩

end Tool

end CypherGate
