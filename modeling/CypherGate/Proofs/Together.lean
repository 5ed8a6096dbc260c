import CypherGate.Proofs.Accounts
/-!
# Connecting and closing together

The lock is held across turns by one call at most, which is verifying the driver that it created.
Until that call is done every connect finds the driver, so that only closes wait for the lock. They
are served when all calls have begun.
-/
namespace CypherGate.Connection

open CypherGate.Action

def isCreation : Event → Bool
  | .created _ => true
  | _ => false

theorem isCreation_of_isLogged {e : Event} (h : e.isLogged) : isCreation e = false := by
  cases e <;> simp [Event.isLogged, isCreation] at h ⊢

theorem close_creates_nothing (site : Site) (link : Link) :
    ∀ e ∈ (close.run site link).events, isCreation e = false := by
  rw [close_run]
  cases link.driver <;> simp [closing, isCreation]

theorem verify_creates_nothing (driver : Nat) (site : Site) (link : Link) :
    ∀ e ∈ ((verify driver).run site link).events, isCreation e = false := by
  obtain ⟨record, run⟩ := verify_run driver site link
  simp [run, isCreation]

namespace Batch

variable {site : Site} {calls : List Call} {before : Link} {b : Batch} {c d i k : Nat}

def creators (b : Batch) : List Nat := (b.events.filter (isCreation ·.2)).map Prod.fst

/-- The calls from some place on, none of which has begun. -/
def starts (calls : List Call) (k : Nat) : List (Nat × Phase) :=
  (calls.mapIdx fun i call => (i, .starting call)).drop k

/-- No driver has been created, and the lock is free. -/
structure Free (calls : List Call) (before : Link) (k : Nat) (b : Batch) : Prop where
  unlocked : b.locked = false
  ready : b.ready = starts calls k
  waiting : b.waiting = []
  creators : b.creators = []
  connected : b.link.driver.isSome ↔ .close ∉ calls.take k ∧ before.driver.isSome

/-- The call `c` has created a driver, and all calls before `k` have begun. -/
structure Verifying (calls : List Call) (c d k : Nat) (b : Batch) : Prop where
  begun : c < k ∧ k ≤ calls.length
  locked : b.locked = true
  ready : b.ready = starts calls k ++ [(c, .verifying d)]
  waiting : ∀ w ∈ b.waiting, w.2 = .close
  queued : b.waiting = [] ↔ .close ∉ (calls.take k).drop (c + 1)
  creators : b.creators = [c]
  connected : b.link.driver = some d

/-- All calls have begun, and the closes that waited have their turns. -/
structure Closing (calls : List Call) (c i : Nat) (b : Batch) : Prop where
  locked : b.locked = true
  ready : b.ready = [(i, .admitted .close)]
  waiting : ∀ w ∈ b.waiting, w.2 = .close
  queued : .close ∈ calls.drop (c + 1)
  creators : b.creators = [c]

/-- All calls are done, of which `c` has created a driver. -/
structure Ended (calls : List Call) (c : Nat) (b : Batch) : Prop where
  unlocked : b.locked = false
  ready : b.ready = []
  waiting : b.waiting = []
  creators : b.creators = [c]
  connected : b.link.driver.isSome ↔ .close ∉ calls.drop (c + 1)

inductive Progress (calls : List Call) (before : Link) (b : Batch) : Prop
  | free (k : Nat) (h : Free calls before k b)
  | verifying (c d k : Nat) (h : Verifying calls c d k b)
  | closing (c i : Nat) (h : Closing calls c i b)
  | ended (c : Nat) (h : Ended calls c b)

theorem starts_cons (h : k < calls.length) :
    starts calls k = (k, .starting calls[k]) :: starts calls (k + 1) := by
  rw [starts, List.drop_eq_getElem_cons (by simpa using h)]
  simp [starts]

theorem starts_eq_nil (h : calls.length ≤ k) : starts calls k = [] := by
  simpa [starts] using h

theorem creators_perform {α : Type} (site : Site) (i : Nat) (action : Action α) (b : Batch)
    (quiet : ∀ e ∈ (action.run site b.link).events, isCreation e = false) :
    (b.perform site i action).2.creators = b.creators := by
  have none : ((action.run site b.link).events.filter fun e => isCreation e) = [] := by
    simpa [List.filter_eq_nil_iff] using quiet
  simp [creators, perform, List.filter_map, Function.comp_def, none]

theorem Progress.of_release (c : Nat) {result : Except Failure Unit} (locked : b.locked = true)
    (ready : b.ready = []) (waiting : ∀ w ∈ b.waiting, w.2 = .close) (creators : b.creators = [c])
    (queued : b.waiting ≠ [] → .close ∈ calls.drop (c + 1))
    (connected : b.waiting = [] → (b.link.driver.isSome ↔ .close ∉ calls.drop (c + 1))) :
    Progress calls before (b.release.finish i result) := by
  cases w : b.waiting with
  | nil =>
    rw [release_of_nil b w]
    exact .ended c ⟨rfl, ready, w, creators, connected w⟩
  | cons head rest =>
    obtain ⟨j, call⟩ := head
    rw [w] at waiting
    obtain rfl : call = .close := waiting _ List.mem_cons_self
    rw [release_of_cons j .close b w]
    refine .closing c j ⟨locked, ?_, ?_, ?_, creators⟩
    · simp [finish, ready]
    · exact fun w hw => waiting w (List.mem_cons_of_mem _ hw)
    · exact queued (by simp [w])

theorem take_succ (h : k < calls.length) : calls.take (k + 1) = calls.take k ++ [calls[k]] :=
  (List.take_append_getElem h).symm

theorem drop_take_succ (h : k < calls.length) (begun : c < k) :
    (calls.take (k + 1)).drop (c + 1) = (calls.take k).drop (c + 1) ++ [calls[k]] := by
  rw [take_succ h, List.drop_append_of_le_length]
  rw [List.length_take]
  omega

theorem Free.turn_close (h : Free calls before k b) (known : k < calls.length)
    (call : calls[k] = .close) :
    Progress calls before
      ({ b with ready := starts calls (k + 1) }.turn site k (.starting .close)) := by
  simp only [turn, reduceCtorEq, false_and, if_false, h.unlocked, Bool.false_eq_true]
  rw [enter_close, release_of_nil _ (by exact h.waiting)]
  refine .free (k + 1) ⟨rfl, rfl, h.waiting, ?_, ?_⟩
  · exact (creators_perform site k close _ (close_creates_nothing site _)).trans h.creators
  · simp [finish, perform, close_run, take_succ known, call]

theorem Free.turn_connect (h : Free calls before k b) (known : k < calls.length)
    (call : calls[k] = .connect) :
    Progress calls before
      ({ b with ready := starts calls (k + 1) }.turn site k (.starting .connect)) := by
  have taken : .close ∉ calls.take (k + 1) ↔ .close ∉ calls.take k := by
    simp [take_succ known, call]
  cases driver : b.link.driver with
  | some d =>
    simp only [turn, driver, Option.isSome_some, and_self, if_true]
    refine .free (k + 1) ⟨h.unlocked, rfl, h.waiting, h.creators, ?_⟩
    rw [taken]
    exact h.connected
  | none =>
    simp only [turn, driver, Option.isSome_none, Bool.false_eq_true, and_false, if_false,
      h.unlocked]
    cases create : site.database.create site.endpoint with
    | some fault =>
      obtain ⟨logs, unseen, run⟩ := openDriver_of_some b.link create
      rw [enter_connect_of_some (by exact driver) create, release_of_nil _ (by exact h.waiting)]
      refine .free (k + 1) ⟨rfl, rfl, h.waiting, ?_, ?_⟩
      · refine (creators_perform site k openDriver _ ?_).trans h.creators
        simp only [run, List.forall_mem_cons]
        exact ⟨rfl, fun e he => isCreation_of_isLogged (unseen e he)⟩
      · rw [taken, ← h.connected]
        simp [finish, perform, run]
    | none =>
      rw [enter_connect_of_none (by exact driver) create]
      refine .verifying k b.link.created (k + 1)
        ⟨⟨Nat.lt_succ_self k, known⟩, rfl, rfl, ?_, ?_, ?_, ?_⟩
      · simp [perform, h.waiting]
      · simp [perform, h.waiting]
      · simpa [perform, openDriver_of_none create, Batch.creators, isCreation, request]
          using h.creators
      · simp [perform, openDriver_of_none create]

theorem Verifying.turn_close (h : Verifying calls c d k b) (known : k < calls.length)
    (call : calls[k] = .close) :
    Progress calls before
      ({ b with ready := starts calls (k + 1) ++ [(c, Phase.verifying d)] }.turn site k
        (.starting .close)) := by
  simp only [turn, reduceCtorEq, false_and, if_false, h.locked, if_true]
  refine .verifying c d (k + 1) ⟨⟨by have := h.begun; omega, known⟩, rfl, rfl, ?_, ?_,
    h.creators, h.connected⟩
  · intro w hw
    rcases List.mem_append.mp hw with hw | hw
    · exact h.waiting w hw
    · cases List.mem_singleton.mp hw
      rfl
  · simp [await, drop_take_succ known h.begun.1, call]

theorem Verifying.turn_connect (h : Verifying calls c d k b) (known : k < calls.length)
    (call : calls[k] = .connect) :
    Progress calls before
      ({ b with ready := starts calls (k + 1) ++ [(c, Phase.verifying d)] }.turn site k
        (.starting .connect)) := by
  simp only [turn, h.connected, Option.isSome_some, and_self, if_true]
  refine .verifying c d (k + 1) ⟨⟨by have := h.begun; omega, known⟩, h.locked, rfl, h.waiting, ?_,
    h.creators, h.connected⟩
  simpa [finish, drop_take_succ known h.begun.1, call] using h.queued

theorem Verifying.turn_verify (h : Verifying calls c d k b) (all : calls.length ≤ k) :
    Progress calls before ({ b with ready := [] }.turn site c (.verifying d)) := by
  have queued : b.waiting = [] ↔ .close ∉ calls.drop (c + 1) := by
    rw [h.queued, List.take_of_length_le all]
  refine .of_release c h.locked rfl h.waiting ?_ ?_ ?_
  · exact (creators_perform site c (verify d) _ (verify_creates_nothing d site _)).trans h.creators
  · intro some
    exact Decidable.not_not.mp fun none => some (queued.mpr none)
  · intro none
    obtain ⟨record, run⟩ := verify_run d site b.link
    simp [run, h.connected, queued.mp none]

theorem Closing.turn (h : Closing calls c i b) :
    Progress calls before ({ b with ready := [] }.turn site i (.admitted .close)) := by
  simp only [Batch.turn]
  rw [enter_close]
  refine .of_release c h.locked rfl h.waiting ?_ (fun _ => h.queued) ?_
  · exact (creators_perform site i close _ (close_creates_nothing site _)).trans h.creators
  · simp [perform, close_run, h.queued]

theorem Progress.turn {phase : Phase} {rest : List (Nat × Phase)} (h : Progress calls before b)
    (ready : b.ready = (i, phase) :: rest) :
    Progress calls before ({ b with ready := rest }.turn site i phase) := by
  cases h with
  | free k h =>
    by_cases known : k < calls.length
    · obtain ⟨⟨rfl, rfl⟩, rfl⟩ : (k = i ∧ .starting calls[k] = phase) ∧
          starts calls (k + 1) = rest := by
        simpa [h.ready, starts_cons known] using ready
      cases call : calls[k] with
      | close => exact h.turn_close known call
      | connect => exact h.turn_connect known call
    · simp [h.ready, starts_eq_nil (Nat.le_of_not_lt known)] at ready
  | verifying c d k h =>
    by_cases known : k < calls.length
    · obtain ⟨⟨rfl, rfl⟩, rfl⟩ : (k = i ∧ .starting calls[k] = phase) ∧
          starts calls (k + 1) ++ [(c, .verifying d)] = rest := by
        simpa [h.ready, starts_cons known] using ready
      cases call : calls[k] with
      | close => exact h.turn_close known call
      | connect => exact h.turn_connect known call
    · have all := Nat.le_of_not_lt known
      obtain ⟨⟨rfl, rfl⟩, rfl⟩ : (c = i ∧ .verifying d = phase) ∧ [] = rest := by
        simpa [h.ready, starts_eq_nil all] using ready
      exact h.turn_verify all
  | closing c j h =>
    obtain ⟨⟨rfl, rfl⟩, rfl⟩ : (j = i ∧ .admitted .close = phase) ∧ [] = rest := by
      simpa [h.ready] using ready
    exact h.turn
  | ended c h => simp [h.ready] at ready

theorem Progress.start (before : Link) (calls : List Call) :
    Progress calls before (start before calls) :=
  .free 0 ⟨rfl, rfl, rfl, rfl, by simp [Batch.start]⟩

/-- What has become of the link when no call is ready. -/
structure Settled (calls : List Call) (before : Link) (b : Batch) : Prop where
  unlocked : b.locked = false
  waiting : b.waiting = []
  creators : b.creators.length ≤ 1
  connected : b.link.driver.isSome ↔
    (∃ c, b.creators = [c] ∧ .close ∉ calls.drop (c + 1)) ∨
      (b.creators = [] ∧ .close ∉ calls ∧ before.driver.isSome)

theorem Progress.settled (h : Progress calls before b) (ready : b.ready = []) :
    Settled calls before b := by
  cases h with
  | free k h =>
    have all : calls.length ≤ k := by
      apply Nat.le_of_not_lt
      intro known
      simp [h.ready, starts_cons known] at ready
    refine ⟨h.unlocked, h.waiting, by simp [h.creators], ?_⟩
    rw [h.connected, List.take_of_length_le all]
    simp [h.creators]
  | verifying c d k h => simp [h.ready] at ready
  | closing c i h => simp [h.ready] at ready
  | ended c h =>
    refine ⟨h.unlocked, h.waiting, by simp [h.creators], ?_⟩
    rw [h.connected]
    simp [h.creators]

theorem results_getElem? (known : i < calls.length) :
    (b.results calls)[i]? = some (b.finished.lookup i) := by
  simp [results, known]

theorem Accounts.result {site : Nat → Site} {call : Call} (h : Accounts site calls [] b)
    (waiting : b.waiting = []) (ready : b.ready = []) (known : calls[i]? = some call) :
    ∃ result, (b.results calls)[i]? = some (some result) ∧
      call.Fits (site i) (b.eventsOf i) result := by
  obtain ⟨below, -⟩ := List.getElem?_eq_some_iff.mp known
  have done : i ∈ b.finished.map Prod.fst := by
    have here := h.indices.mem_iff.mpr (List.mem_range.mpr below)
    simpa [Batch.indices, waiting, ready] using here
  have found : (b.finished.lookup i).isSome := by
    obtain ⟨⟨j, result⟩, member, rfl⟩ := List.mem_map.mp done
    exact List.lookup_isSome_iff.mpr ⟨_, member, by simp⟩
  obtain ⟨result, found⟩ := Option.isSome_iff_exists.mp found
  obtain ⟨init, rest, split, -⟩ := List.lookup_eq_some_iff.mp found
  obtain ⟨call', known', fits⟩ := h.finished i result (by simp [split])
  rw [known] at known'
  cases known'
  exact ⟨result, by rw [results_getElem? below, found], fits⟩

/-- What has come of calls made together. -/
structure Concluded (site : Nat → Site) (calls : List Call) (before : Link) (b : Batch) : Prop where
  once : (b.finished.map Prod.fst).Perm (List.range calls.length)
  answered : ∀ i < calls.length, ∃ result, (b.results calls)[i]? = some (some result)
  unlocked : b.locked = false
  one_driver : b.creators.length ≤ 1
  closes : ∀ i : Nat, calls[i]? = some .close → (b.results calls)[i]? = some (some (.ok ()))
  connects : ∀ i : Nat, calls[i]? = some .connect →
    ((∃ failure, (b.results calls)[i]? = some (some (.error failure))) ↔
      Asks (b.eventsOf i) ∧ Site.Failing (site i))
  connected : b.link.driver.isSome ↔
    (∃ c, b.creators = [c] ∧ .close ∉ calls.drop (c + 1)) ∨
      (b.creators = [] ∧ .close ∉ calls ∧ before.driver.isSome)

/-- Calls made together all come to an end, whatever their number and order and whatever the server
does: closes succeed, and connects fail only for failures of their own. -/
theorem runTogether_concluded (site : Nat → Site) (before : Link) (calls : List Call) :
    Concluded site calls before (runTogether site before calls) := by
  obtain ⟨progress, ready⟩ : Progress calls before ((start before calls).run site) ∧
      ((start before calls).run site).ready = [] :=
    run_induction (fun _ _ _ _ ready h => h.turn ready) _ (Progress.start before calls)
  -- The stages tell of the link and the lock, the accounts of the results.
  have accounts := (Accounts.start site before calls).run
  have settled := progress.settled ready
  change Concluded site calls before ((start before calls).run site)
  generalize (start before calls).run site = b at *
  refine ⟨?_, ?_, settled.unlocked, settled.creators, ?_, ?_, settled.connected⟩
  · have indices := accounts.indices
    simpa [Batch.indices, settled.waiting, ready] using indices
  · intro i below
    obtain ⟨result, found, -⟩ :=
      accounts.result settled.waiting ready (List.getElem?_eq_getElem below)
    exact ⟨result, found⟩
  · intro i known
    obtain ⟨result, found, fits⟩ := accounts.result settled.waiting ready known
    obtain rfl : result = .ok () := fits
    exact found
  · intro i known
    obtain ⟨result, found, fits⟩ := accounts.result settled.waiting ready known
    rw [found]
    simp only [Option.some.injEq]
    exact fits

end Batch

end CypherGate.Connection
