import CypherGate.Connection.Batch
import CypherGate.Proofs.Lifecycle
/-!
# Turns of calls made together

What the pieces of a turn do to a batch, and the induction over all turns. Only the call whose turn
it is does anything.
-/
namespace CypherGate.Connection

open CypherGate.Action CypherGate.Trace

namespace Batch

variable {α : Type} {site : Site} {i j : Nat} {b : Batch}

def eventsOf (b : Batch) (i : Nat) : List Event := (b.events.filter (·.1 = i)).map Prod.snd

/-! Fields after each piece of a turn. -/

section

variable (site : Site) (i : Nat) (action : Action α) (call : Call) (b : Batch)
  (result : Except Failure Unit)

theorem release_of_nil (h : b.waiting = []) : b.release = { b with locked := false } := by
  simp [release, h]

theorem release_of_cons {rest : List (Nat × Call)} (h : b.waiting = (i, call) :: rest) :
    b.release = { b with waiting := rest, ready := b.ready ++ [(i, .admitted call)] } := by
  simp [release, h]

@[simp] theorem link_release : b.release.link = b.link := by
  unfold release
  split <;> rfl

@[simp] theorem events_release : b.release.events = b.events := by
  unfold release
  split <;> rfl

@[simp] theorem eventsOf_release : b.release.eventsOf i = b.eventsOf i := by
  simp [eventsOf]

@[simp] theorem eventsOf_finish (j : Nat) : (b.finish j result).eventsOf i = b.eventsOf i := rfl

@[simp] theorem eventsOf_await (j : Nat) : (b.await j call).eventsOf i = b.eventsOf i := rfl

@[simp] theorem eventsOf_perform_self : (b.perform site i action).2.eventsOf i =
    b.eventsOf i ++ (action.run site b.link).events := by
  simp [eventsOf, perform, List.filter_map, Function.comp_def]

end

theorem eventsOf_perform_of_ne (site : Site) (action : Action α) (b : Batch) (h : j ≠ i) :
    (b.perform site i action).2.eventsOf j = b.eventsOf j := by
  simp [eventsOf, perform, List.filter_map, Function.comp_def, h.symm]

/-! The ways through the part of a call that needs the lock. -/

theorem enter_close : b.enter site i .close =
    ((b.perform site i close).2.release).finish i (.ok ()) := by
  show ((b.perform site i close).2.release).finish i (close.run site b.link).result = _
  rw [close_run]

theorem enter_connect_of_isSome (h : b.link.driver.isSome) :
    b.enter site i .connect = b.release.finish i (.ok ()) := by
  simp [enter, h]

theorem enter_connect_of_some {fault : Fault} (h : b.link.driver = none)
    (k : site.database.create site.endpoint = some fault) :
    b.enter site i .connect =
      ((b.perform site i openDriver).2.release).finish i (.error (creationFailure fault)) := by
  obtain ⟨logs, -, run⟩ := openDriver_of_some b.link k
  simp [enter, h, perform, run]

theorem enter_connect_of_none (h : b.link.driver = none)
    (k : site.database.create site.endpoint = none) :
    b.enter site i .connect =
      let opened := (b.perform site i openDriver).2
      { opened with ready := opened.ready ++ [(i, .verifying b.link.created)] } := by
  simp [enter, h, perform, openDriver_of_none k]

/-! All turns. -/

section

variable {site : Nat → Site}

theorem run_of_nil (h : b.ready = []) : b.run site = b := by
  rw [run]
  split
  · rfl
  · next k => simp [h] at k

theorem run_of_cons {phase : Phase} {rest : List (Nat × Phase)} (h : b.ready = (i, phase) :: rest) :
    b.run site = ({ b with ready := rest }.turn (site i) i phase).run site := by
  rw [run]
  split
  · next k => simp [h] at k
  · next k =>
    rw [h] at k
    cases k
    rfl

/-- What every turn keeps is kept to the end, where no call is ready. -/
theorem run_induction {P : Batch → Prop}
    (step : ∀ b i phase rest, b.ready = (i, phase) :: rest → P b →
      P ({ b with ready := rest }.turn (site i) i phase))
    (b : Batch) (h : P b) : P (b.run site) ∧ (b.run site).ready = [] := by
  -- The induction is on the turns, which come to an end because each lowers the weight.
  induction b using Batch.run.induct site with
  | case1 b ready =>
    rw [run_of_nil ready]
    exact ⟨h, ready⟩
  | case2 b i phase rest ready ih =>
    rw [run_of_cons ready]
    exact ih (step b i phase rest ready h)

end

/-! Nothing in a batch is a query or about a session. -/

def Quiet (b : Batch) : Prop := Idle (b.events.map Prod.snd)

theorem Quiet.perform (h : b.Quiet) {action : Action α}
    (k : Idle (action.run site b.link).events) : (b.perform site i action).2.Quiet := by
  simp only [Quiet, Batch.perform, List.map_append, List.map_map, Function.comp_def, List.map_id']
  exact h.append k

theorem Quiet.release (h : b.Quiet) : b.release.Quiet := by
  simpa [Quiet] using h

theorem Quiet.enter (h : b.Quiet) (call : Call) : (b.enter site i call).Quiet := by
  cases call with
  | close =>
    rw [enter_close]
    exact (h.perform (close_idle site b.link)).release
  | connect =>
    have opened := h.perform (i := i) (openDriver_idle site b.link)
    cases driver : b.link.driver with
    | some d =>
      rw [enter_connect_of_isSome (by simp [driver])]
      exact h.release
    | none =>
      cases create : site.database.create site.endpoint with
      | some fault =>
        rw [enter_connect_of_some driver create]
        exact opened.release
      | none =>
        rw [enter_connect_of_none driver create]
        exact opened

theorem Quiet.turn (h : b.Quiet) (phase : Phase) : (b.turn site i phase).Quiet := by
  cases phase with
  | starting call =>
    unfold Batch.turn
    dsimp only
    split
    · exact h
    · split
      · exact h
      · exact Quiet.enter (b := { b with locked := true }) h call
  | admitted call => exact h.enter call
  | verifying driver => exact (h.perform (verify_idle driver site b.link)).release

theorem runTogether_idle (site : Nat → Site) (link : Link) (calls : List Call) :
    Idle ((runTogether site link calls).events.map Prod.snd) := by
  refine (run_induction (P := Quiet) ?_ (start link calls) ?_).1
  · intro b i phase rest _ h
    exact Quiet.turn (b := { b with ready := rest }) h phase
  · simp [Quiet, start, Idle]

end Batch

end CypherGate.Connection
