import CypherGate.Step
import CypherGate.Proofs.AllOrNothing
import CypherGate.Proofs.SharedCustody
/-!
# One owner of drivers and sessions

Whatever clients do and whatever the database answers, after every step the driver in place is the
only one that is not closed, and no session is open. Only closing takes a driver away.
-/
namespace CypherGate

open CypherGate.Action Trace Connection

variable {α β : Type}

namespace Trace

/-- As far as sessions go, an action opens none or goes through one. -/
def AtMostOneSession (database : Option String) (events : List Event) : Prop :=
  Idle events ∨ OneSession database events

theorem AtMostOneSession.append {database : Option String} {es fs : List Event}
    (h : AtMostOneSession database es) (k : Unseen fs) : AtMostOneSession database (es ++ fs) := by
  rcases h with idle | session
  · exact .inl (idle.append k.idle)
  · exact .inr (session.append k)

end Trace

namespace Connection.Tally

theorem sessions_addAll {es : List Event} (h : ∀ e ∈ es, e.ofSession = false) (t : Tally) :
    (t.addAll es).sessions = t.sessions := by
  induction es generalizing t with
  | nil => rfl
  | cons e es ih =>
    have first : (t.add e).sessions = t.sessions := by
      have other := h e List.mem_cons_self
      cases e with
      | sessionOpened | sessionClosed => cases other
      | _ => rfl
    have rest := ih (fun e he => h e (List.mem_cons_of_mem _ he)) (t.add e)
    exact rest.trans first

theorem sessions_of_talk {es : List Event} (h : Talk es) (t : Tally) :
    (t.addAll es).sessions = t.sessions := by
  refine sessions_addAll (fun e he => ?_) t
  rcases h e he with logged | query
  · exact Event.ofSession_of_isLogged logged
  · cases e with
    | sent query parameters => rfl
    | _ => cases query

theorem sessions_le_one {database : Option String} {es : List Event}
    (h : AtMostOneSession database es) : (empty.addAll es).sessions ≤ 1 := by
  rcases h with idle | ⟨before, driver, within, behind, rfl, idle, talk, unseen⟩
  · rw [sessions_addAll fun e he => (idle e he).1]
    exact Nat.zero_le 1
  · have none_before := sessions_addAll (fun e he => (idle e he).1) empty
    have none_behind := sessions_addAll fun e he => (unseen.idle e he).1
    rw [addAll_append]
    simp only [addAll, List.foldl_cons, List.foldl_append] at none_before none_behind ⊢
    have within_none := sessions_of_talk talk
    simp only [addAll] at within_none
    rw [none_behind]
    simp only [add, within_none, none_before]
    exact Nat.le_refl 1

end Connection.Tally

/-- What an action leaves behind: an account of the driver, which is taken away only by closing, and
no session. -/
structure Orderly (c : Custody) (database : Option String) (closes : Bool) (o : Outcome α) :
    Prop where
  kept : ∃ c', c.Kept o c'
  stays : closes = false → c.link.driver.isSome → o.link = c.link
  sessions : AtMostOneSession database o.events

namespace Orderly

variable {c : Custody} {database : Option String} {closes : Bool} {o : Outcome α} {site : Site}

theorem of_eq (h : Orderly c database closes o) {o' : Outcome β} (link : o'.link = o.link)
    (events : o'.events = o.events) : Orderly c database closes o' := by
  obtain ⟨⟨c', kept⟩, stays, sessions⟩ := h
  refine ⟨⟨c', ?_, link.trans kept.link, kept.rest⟩, ?_, ?_⟩
  · rw [events]
    exact kept.leads
  · rw [link]
    exact stays
  · rw [events]
    exact sessions

theorem map {action : Action α} {link : Link} (f : α → β)
    (h : Orderly c database closes (action.run site link)) :
    Orderly c database closes ((f <$> action).run site link) := by
  rw [run_map]
  exact h.of_eq rfl rfl

theorem append (h : Orderly c database closes o) {logs : List Event} (unseen : Unseen logs) :
    Orderly c database closes { o with events := o.events ++ logs } := by
  obtain ⟨⟨c', kept⟩, stays, sessions⟩ := h
  refine ⟨⟨c', ?_, kept.link, kept.rest⟩, stays, sessions.append unseen⟩
  exact kept.leads.append (Custody.leads_of_unseen unseen c')

theorem refused (rest : c.AtRest) {logs : List Event} (unseen : Unseen logs)
    (result : Except Failure α) : Orderly c database closes ⟨result, c.link, logs⟩ :=
  ⟨⟨c, Custody.leads_of_unseen unseen c, rfl, rest⟩, fun _ _ => rfl, .inl unseen.idle⟩

theorem connect (rest : c.AtRest) (site : Site) :
    Orderly c database closes (connect.run site c.link) := by
  obtain ⟨c', kept, stays, -⟩ := Custody.connect_kept rest site
  refine ⟨⟨c', kept⟩, ?_, .inl (connect_idle site c.link)⟩
  intro _ driver
  rw [kept.link, stays driver]

theorem close (rest : c.AtRest) (site : Site) :
    Orderly c database true (Connection.close.run site c.link) := by
  refine ⟨⟨_, Custody.close_kept rest site⟩, ?_, .inl (close_idle site c.link)⟩
  intro closes
  cases closes

theorem sitting {script : Script} {action : Action α} (h : Sitting script action)
    (rest : c.AtRest) (site : Site) :
    Orderly c site.endpoint.database closes (action.run site c.link) := by
  have connected : Orderly c site.endpoint.database closes _ := connect rest site
  cases r : (Connection.connect.run site c.link).result with
  | error failure =>
    obtain ⟨failure', run⟩ := Sitting.run_unconnected h r
    rw [run]
    exact connected.of_eq rfl rfl
  | ok driver =>
    obtain ⟨same, served⟩ := Sitting.run_served h r
    obtain ⟨c', kept, stays, inPlace⟩ := Custody.connect_kept rest site
    refine ⟨⟨c', ?_, same.trans kept.link, kept.rest⟩, ?_, .inr served.one_session⟩
    · obtain ⟨talk, within, events⟩ := Sitting.run_events h r
      obtain ⟨reachable, tenure⟩ := inPlace driver r
      have inPlace : c' = ⟨.verified driver reachable, c'.created, false⟩ := by
        rw [← tenure, ← kept.rest.inSession]
      rw [events]
      refine kept.leads.append ?_
      rw [inPlace]
      exact Custody.leads_session driver c'.created reachable _ within
    · intro lasting driver
      rw [same]
      exact connected.stays lasting driver

theorem request (guard : Guard) (request : Request) (rest : c.AtRest) (site : Site) :
    Orderly c site.endpoint.database closes ((request.run guard).run site c.link) := by
  have shaped := request.run_shaped guard
  cases s : request.script guard with
  | error failure =>
    rw [s] at shaped
    obtain ⟨logs, unseen, run⟩ := shaped
    rw [run]
    exact refused rest unseen _
  | ok script =>
    rw [s] at shaped
    exact sitting shaped rest site

theorem call (guard : Guard) (tool : Tool) (args : Arguments) (rest : c.AtRest) (site : Site) :
    Orderly c site.endpoint.database closes ((tool.call guard args).run site c.link) := by
  obtain ⟨logs, unseen, call⟩ := tool.call_run guard args site c.link
  rw [call]
  exact ((request guard (tool.request args) rest site).append unseen).of_eq rfl rfl

end Orderly

namespace Step

/-- Whether a step may take the driver away. -/
def closes : Step → Bool
  | .close => true
  | .together calls => calls.contains .close
  | _ => false

theorem fetchRecords_sitting (query : String) (parameters : List (String × Value)) :
    Sitting (.inOrder [(query, parameters)]) (fetchRecords query parameters) :=
  (Sitting.of_follows (fetch_follows (query, parameters))).bind fun _ =>
    (Silent.ofExcept _).bind fun _ => Silent.ofExcept _

theorem abandon_sitting (cause : Fault) :
    Sitting (.inOrder []) (withSession (Action.fail (.fault cause) : Action StepResult)) :=
  Sitting.of_follows (Script.follows_ofExcept _)

theorem runTogether_orderly {c : Custody} (rest : c.AtRest) (calls : List Call) (site : Site) :
    Orderly c site.endpoint.database (calls.contains .close)
      ((runTogether calls).run site c.link) := by
  obtain ⟨c', recorded, rest'⟩ := Batch.runTogether_recorded rest (fun _ => site) calls
  refine ⟨⟨c', recorded.leads, recorded.link, rest'⟩, ?_, .inl ?_⟩
  · intro connects driver
    have connects : .close ∉ calls := by simpa using connects
    exact Batch.runTogether_of_connects driver connects fun _ => site
  · exact Batch.runTogether_idle (fun _ => site) c.link calls

theorem run_orderly (step : Step) (guard : Guard) {c : Custody} (rest : c.AtRest) (site : Site) :
    Orderly c site.endpoint.database step.closes (step.run guard site c.link) := by
  cases step with
  | tool tool args => exact (Orderly.call guard tool args rest site).map StepResult.text
  | request request => exact (Orderly.request guard request rest site).map StepResult.answer
  | fetch query parameters => exact .sitting (fetchRecords_sitting query parameters) rest site
  | connect => exact (Orderly.connect rest site).map StepResult.connected
  | close => exact (Orderly.close rest site).map fun _ => StepResult.closed
  | abandon cause => exact .sitting (abandon_sitting cause) rest site
  | together calls => exact runTogether_orderly rest calls site

theorem runAll_kept (guard : Guard) (steps : List (Site × Step)) {c : Custody} (rest : c.AtRest) :
    ∃ c', c.Leads (runAll guard c.link steps).2 c' ∧ (runAll guard c.link steps).1 = c'.link ∧
      c'.AtRest := by
  induction steps generalizing c with
  | nil => exact ⟨c, .nil c, rfl, rest⟩
  | cons head steps ih =>
    obtain ⟨site, step⟩ := head
    obtain ⟨d, kept⟩ := (step.run_orderly guard rest site).kept
    obtain ⟨c', leads, link, rest'⟩ := ih kept.rest
    rw [← kept.link] at leads link
    exact ⟨c', kept.leads.append leads, link, rest'⟩

/-- The accounts after a step: as many drivers created as closed and the one in place, every life of
a driver in order, no session open and at most one opened, and the driver taken away by closing only.
-/
structure Accounted (past : Link × List Event) (step : Step) (o : Outcome StepResult) : Prop where
  drivers : (Tally.empty.addAll (past.2 ++ o.events)).drivers =
    (Tally.empty.addAll (past.2 ++ o.events)).driversClosed + if o.link.driver.isSome then 1 else 0
  in_order : ∃ c, Custody.initial.Leads (past.2 ++ o.events) c ∧ c.link = o.link
  none_open : (Tally.empty.addAll (past.2 ++ o.events)).sessions =
    (Tally.empty.addAll (past.2 ++ o.events)).sessionsClosed
  one_session : (Tally.empty.addAll o.events).sessions ≤ 1
  stays : step.closes = false → past.1.driver.isSome → o.link = past.1

/-- Whatever steps are taken at whatever sites, after every one of them all drivers and sessions are
accounted for. -/
theorem runAll_accounted (guard : Guard) (steps : List (Site × Step)) (site : Site) (step : Step) :
    Accounted (runAll guard Link.initial steps) step
      (step.run guard site (runAll guard Link.initial steps).1) := by
  obtain ⟨c, leads, link, rest⟩ := runAll_kept guard steps (Custody.AtRest.vacant 0)
  change Custody.initial.Leads (runAll guard Link.initial steps).2 c at leads
  change (runAll guard Link.initial steps).1 = c.link at link
  rw [link]
  obtain ⟨⟨c', kept⟩, stays, sessions⟩ := step.run_orderly guard rest site
  have whole := leads.append kept.leads
  have balances := Tally.Balances.initial.addAll whole
  refine ⟨?_, ⟨c', whole, kept.link.symm⟩, ?_, Tally.sessions_le_one sessions, ?_⟩
  · rw [kept.link]
    exact balances.drivers
  · have sessions := balances.sessions
    rw [kept.rest.inSession] at sessions
    exact sessions
  · rw [link]
    exact stays

end Step

end CypherGate
