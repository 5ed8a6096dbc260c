import CypherGate.Connection.Driver
/-!
# Concurrent use of the driver

Calls started together take turns. A call runs until it waits, and verification waits exactly once
for its turn to come again. Creating and closing a driver need the lock, which is handed on in the
order of arrival; a call that finds a driver in place needs no lock, not even while that driver is
being verified. The site may differ from call to call, for the server need not treat all of them
alike.
-/
namespace CypherGate.Connection

inductive Call where
  | connect
  | close
  deriving DecidableEq, Repr

inductive Phase where
  | starting (call : Call)
  /-- The lock has been handed to the call. -/
  | admitted (call : Call)
  /-- The call holds the lock and has created the driver. -/
  | verifying (driver : Nat)
  deriving DecidableEq, Repr

/-- Turns that a call may still take. -/
def Phase.weight : Phase → Nat
  | .starting _ => 4
  | .admitted _ => 2
  | .verifying _ => 1

def turnsLeft : List (Nat × Phase) → Nat
  | [] => 0
  | (_, phase) :: rest => phase.weight + turnsLeft rest

theorem turnsLeft_append (ps qs : List (Nat × Phase)) :
    turnsLeft (ps ++ qs) = turnsLeft ps + turnsLeft qs := by
  induction ps with
  | nil => simp [turnsLeft]
  | cons p rest ih =>
    simp only [List.cons_append, turnsLeft, ih]
    omega

/-- Calls under way. Each is known by its place among the calls of the batch. -/
structure Batch where
  link : Link
  locked : Bool
  waiting : List (Nat × Call)
  ready : List (Nat × Phase)
  finished : List (Nat × Except Failure Unit)
  events : List (Nat × Event)

namespace Batch

def start (link : Link) (calls : List Call) : Batch where
  link
  locked := false
  waiting := []
  ready := calls.mapIdx fun i call => (i, .starting call)
  finished := []
  events := []

def weight (b : Batch) : Nat := turnsLeft b.ready + 3 * b.waiting.length

def finish (i : Nat) (result : Except Failure Unit) (b : Batch) : Batch :=
  { b with finished := b.finished ++ [(i, result)] }

/-- Frees the lock or hands it to the first call that waits. -/
def release (b : Batch) : Batch :=
  match b.waiting with
  | [] => { b with locked := false }
  | (i, call) :: rest => { b with waiting := rest, ready := b.ready ++ [(i, .admitted call)] }

def perform {α : Type} (site : Site) (i : Nat) (action : Action α) (b : Batch) :
    Except Failure α × Batch :=
  let outcome := action.run site b.link
  (outcome.result,
    { b with link := outcome.link, events := b.events ++ outcome.events.map fun e => (i, e) })

def await (i : Nat) (call : Call) (b : Batch) : Batch :=
  { b with waiting := b.waiting ++ [(i, call)] }

def enter (site : Site) (i : Nat) (call : Call) (b : Batch) : Batch :=
  match call with
  | .close =>
    let (result, b) := b.perform site i close
    b.release.finish i result
  | .connect =>
    if b.link.driver.isSome then b.release.finish i (.ok ())
    else match b.perform site i openDriver with
      | (.error failure, b) => b.release.finish i (.error failure)
      | (.ok driver, b) => { b with ready := b.ready ++ [(i, .verifying driver)] }

def turn (site : Site) (i : Nat) (phase : Phase) (b : Batch) : Batch :=
  match phase with
  | .starting call =>
    if call = .connect ∧ b.link.driver.isSome then b.finish i (.ok ())
    else if b.locked then b.await i call
    else { b with locked := true }.enter site i call
  | .admitted call => b.enter site i call
  | .verifying driver =>
    let (result, b) := b.perform site i (verify driver)
    b.release.finish i (result.map fun _ => ())

@[simp] theorem weight_finish (i : Nat) (r : Except Failure Unit) (b : Batch) :
    (b.finish i r).weight = b.weight := rfl

@[simp] theorem weight_perform {α : Type} (site : Site) (i : Nat) (a : Action α) (b : Batch) :
    (b.perform site i a).2.weight = b.weight := rfl

theorem weight_release (b : Batch) : b.release.weight ≤ b.weight := by
  unfold release
  split
  · exact Nat.le_refl _
  · next h =>
    simp [weight, h, turnsLeft_append, turnsLeft, Phase.weight]
    omega

theorem weight_enter (site : Site) (i : Nat) (call : Call) (b : Batch) :
    (b.enter site i call).weight ≤ b.weight + 1 := by
  cases call with
  | close =>
    exact Nat.le_succ_of_le (weight_release (b.perform site i close).2)
  | connect =>
    unfold enter
    simp only
    split
    · exact Nat.le_succ_of_le (weight_release b)
    · split
      · next h =>
        have := weight_perform site i openDriver b
        rw [h] at this
        exact Nat.le_succ_of_le (this ▸ weight_release _)
      · next driver _ h =>
        have := weight_perform site i openDriver b
        rw [h] at this
        have one : (Phase.verifying driver).weight = 1 := rfl
        simp only [weight, turnsLeft_append, turnsLeft, one] at this ⊢
        omega

theorem weight_turn (site : Site) (i : Nat) (phase : Phase) (b : Batch) :
    (b.turn site i phase).weight < b.weight + phase.weight := by
  cases phase with
  | starting call =>
    unfold turn
    simp only [Phase.weight]
    split
    · simp
    · split
      · simp [weight, await]; omega
      · have := weight_enter site i call { b with locked := true }
        simp only [weight] at this ⊢
        omega
  | admitted call =>
    have := weight_enter site i call b
    simp only [turn, Phase.weight]
    omega
  | verifying driver =>
    have := weight_release (b.perform site i (verify driver)).2
    simp only [weight_perform] at this
    simp only [turn, Phase.weight, weight_finish]
    omega

def run (site : Nat → Site) (b : Batch) : Batch :=
  match _h : b.ready with
  | [] => b
  | (i, phase) :: rest => run site ({ b with ready := rest }.turn (site i) i phase)
  termination_by b.weight
  decreasing_by
    have := weight_turn (site i) i phase { b with ready := rest }
    simp only [weight, _h, turnsLeft] at this ⊢
    omega

def results (b : Batch) (calls : List Call) : List (Option (Except Failure Unit)) :=
  (List.range calls.length).map fun i => b.finished.lookup i

end Batch

/-- Starts calls together, each at a site of its own, and lets all of them end. -/
def runTogether (site : Nat → Site) (link : Link) (calls : List Call) : Batch :=
  (Batch.start link calls).run site

end CypherGate.Connection
