import CypherGate.Proofs.Turns
/-!
# Accounts of calls made together

Every call of a batch is at one place: its turn is going on or will come, it waits for the lock, or
it is done. What it has done so far fits its place, and when it is done its result fits what it did.
-/
namespace CypherGate.Connection

open CypherGate.Action

def Asks (events : List Event) : Prop :=
  ∃ uri username password, .requested uri username password ∈ events

/-- Whether creating or verifying a driver fails at a site. -/
def Site.Failing (site : Site) : Prop :=
  site.database.create site.endpoint ≠ none ∨ site.database.verify ≠ none

/-- Closing succeeds. Connecting fails for the call that asked for a driver and got none that is
verified, and for no other call. -/
def Call.Fits (call : Call) (site : Site) (own : List Event) (result : Except Failure Unit) : Prop :=
  match call with
  | .close => result = .ok ()
  | .connect => (∃ failure, result = .error failure) ↔ Asks own ∧ Site.Failing site

/-- What a call at some phase has done. -/
def Phase.Fits (phase : Phase) (site : Site) (call : Call) (own : List Event) : Prop :=
  match phase with
  | .starting c | .admitted c => call = c ∧ own = []
  | .verifying _ => call = .connect ∧ Asks own ∧ site.database.create site.endpoint = none

theorem asks_openDriver (site : Site) (link : Link) : Asks (openDriver.run site link).events := by
  cases h : site.database.create site.endpoint with
  | none =>
    rw [openDriver_of_none h]
    exact ⟨_, _, _, List.mem_cons_self⟩
  | some fault =>
    obtain ⟨logs, -, run⟩ := openDriver_of_some link h
    rw [run]
    exact ⟨_, _, _, List.mem_cons_self⟩

theorem verify_fails_iff (driver : Nat) (site : Site) (link : Link) :
    (∃ failure, ((verify driver).run site link).result.map (fun _ => ()) = .error failure) ↔
      site.database.verify ≠ none := by
  obtain ⟨record, run⟩ := verify_run driver site link
  rw [run]
  cases h : site.database.verify <;> simp [verification, h, Except.map]

theorem Asks.append {es : List Event} (h : Asks es) (fs : List Event) : Asks (es ++ fs) := by
  obtain ⟨uri, username, password, h⟩ := h
  exact ⟨uri, username, password, List.mem_append_left fs h⟩

theorem Call.fits_of_idle (call : Call) (site : Site) : call.Fits site [] (.ok ()) := by
  cases call <;> simp [Call.Fits, Asks]

namespace Batch

variable {α : Type} {calls : List Call} {i : Nat} {b : Batch}

def indices (b : Batch) : List Nat :=
  b.finished.map Prod.fst ++ (b.waiting.map Prod.fst ++ b.ready.map Prod.fst)

theorem mem_indices_of_ready {phase : Phase} (h : (i, phase) ∈ b.ready) : i ∈ b.indices :=
  List.mem_append_right _ (List.mem_append_right _ (List.mem_map_of_mem h))

theorem mem_indices_of_waiting {call : Call} (h : (i, call) ∈ b.waiting) : i ∈ b.indices :=
  List.mem_append_right _ (List.mem_append_left _ (List.mem_map_of_mem h))

theorem mem_indices_of_finished {result : Except Failure Unit} (h : (i, result) ∈ b.finished) :
    i ∈ b.indices :=
  List.mem_append_left _ (List.mem_map_of_mem h)

theorem count_indices (b : Batch) (i : Nat) :
    b.indices.count i = (b.finished.map Prod.fst).count i + (b.waiting.map Prod.fst).count i +
      (b.ready.map Prod.fst).count i := by
  simp only [indices, List.count_append, Nat.add_assoc]

theorem perm_of_count {here here' : List Nat} {b b' : Batch}
    (h : ∀ i, here'.count i + b'.indices.count i = here.count i + b.indices.count i) :
    (here' ++ b'.indices).Perm (here ++ b.indices) :=
  List.perm_iff_count.mpr fun i => by simpa only [List.count_append] using h i

/-- The accounts while the turn of some call, if any, goes on. -/
structure Accounts (site : Nat → Site) (calls : List Call) (here : List Nat) (b : Batch) : Prop where
  indices : (here ++ b.indices).Perm (List.range calls.length)
  ready : ∀ i phase, (i, phase) ∈ b.ready →
    ∃ call, calls[i]? = some call ∧ phase.Fits (site i) call (b.eventsOf i)
  waiting : ∀ i call, (i, call) ∈ b.waiting → calls[i]? = some call ∧ b.eventsOf i = []
  finished : ∀ i result, (i, result) ∈ b.finished →
    ∃ call, calls[i]? = some call ∧ call.Fits (site i) (b.eventsOf i) result

namespace Accounts

variable {site : Nat → Site} {here : List Nat}

theorem notMem_indices (h : Accounts site calls [i] b) : i ∉ b.indices :=
  (List.nodup_cons.mp (h.indices.nodup_iff.mpr List.nodup_range)).1

theorem take {phase : Phase} {rest : List (Nat × Phase)} (h : Accounts site calls [] b)
    (k : b.ready = (i, phase) :: rest) : Accounts site calls [i] { b with ready := rest } where
  indices := by
    refine (perm_of_count fun j => ?_).trans h.indices
    simp only [count_indices, k, List.map_cons, List.count_cons, List.count_nil]
    omega
  ready j phase hj := h.ready j phase (k ▸ List.mem_cons_of_mem _ hj)
  waiting := h.waiting
  finished := h.finished

theorem finish {call : Call} {result : Except Failure Unit} (h : Accounts site calls [i] b)
    (known : calls[i]? = some call) (fits : call.Fits (site i) (b.eventsOf i) result) :
    Accounts site calls [] (b.finish i result) where
  indices := by
    refine (perm_of_count fun j => ?_).trans h.indices
    simp only [count_indices, Batch.finish, List.map_append, List.count_append, List.map_cons,
      List.map_nil, List.count_nil]
    omega
  ready := h.ready
  waiting := h.waiting
  finished j r hj := by
    rcases List.mem_append.mp hj with hj | hj
    · exact h.finished j r hj
    · cases List.mem_singleton.mp hj
      exact ⟨call, known, fits⟩

theorem release (h : Accounts site calls here b) : Accounts site calls here b.release := by
  cases w : b.waiting with
  | nil =>
    rw [release_of_nil b w]
    exact ⟨h.indices, h.ready, h.waiting, h.finished⟩
  | cons head rest =>
    obtain ⟨j, call⟩ := head
    rw [release_of_cons j call b w]
    constructor
    · refine (perm_of_count fun k => ?_).trans h.indices
      simp only [count_indices, w, List.map_append, List.count_append, List.map_cons, List.map_nil,
        List.count_cons, List.count_nil]
      omega
    · intro k phase hk
      rcases List.mem_append.mp hk with hk | hk
      · exact h.ready k phase hk
      · cases List.mem_singleton.mp hk
        obtain ⟨known, untouched⟩ := h.waiting j call (w ▸ List.mem_cons_self)
        exact ⟨call, known, rfl, untouched⟩
    · intro k c hk
      exact h.waiting k c (w ▸ List.mem_cons_of_mem _ hk)
    · exact h.finished

theorem await {call : Call} (h : Accounts site calls [i] b) (known : calls[i]? = some call)
    (untouched : b.eventsOf i = []) : Accounts site calls [] (b.await i call) where
  indices := by
    refine (perm_of_count fun j => ?_).trans h.indices
    simp only [count_indices, Batch.await, List.map_append, List.count_append, List.map_cons,
      List.map_nil, List.count_nil]
    omega
  ready := h.ready
  waiting j c hj := by
    rcases List.mem_append.mp hj with hj | hj
    · exact h.waiting j c hj
    · cases List.mem_singleton.mp hj
      exact ⟨known, untouched⟩
  finished := h.finished

theorem goOn {driver : Nat} (h : Accounts site calls [i] b) (known : calls[i]? = some .connect)
    (asks : Asks (b.eventsOf i))
    (created : (site i).database.create (site i).endpoint = none) :
    Accounts site calls [] { b with ready := b.ready ++ [(i, .verifying driver)] } where
  indices := by
    refine (perm_of_count fun j => ?_).trans h.indices
    simp only [count_indices, List.map_append, List.count_append, List.map_cons, List.map_nil,
      List.count_nil]
    omega
  ready j phase hj := by
    rcases List.mem_append.mp hj with hj | hj
    · exact h.ready j phase hj
    · cases List.mem_singleton.mp hj
      exact ⟨.connect, known, rfl, asks, created⟩
  waiting := h.waiting
  finished := h.finished

theorem perform (h : Accounts site calls [i] b) (action : Action α) :
    Accounts site calls [i] (b.perform (site i) i action).2 := by
  have same : ∀ j ∈ b.indices, (b.perform (site i) i action).2.eventsOf j = b.eventsOf j := by
    intro j hj
    refine eventsOf_perform_of_ne (site i) action b ?_
    rintro rfl
    exact h.notMem_indices hj
  constructor
  · exact h.indices
  · intro j phase hj
    rw [same j (mem_indices_of_ready hj)]
    exact h.ready j phase hj
  · intro j call hj
    rw [same j (mem_indices_of_waiting hj)]
    exact h.waiting j call hj
  · intro j result hj
    rw [same j (mem_indices_of_finished hj)]
    exact h.finished j result hj

theorem enter {call : Call} (h : Accounts site calls [i] b) (known : calls[i]? = some call)
    (untouched : b.eventsOf i = []) : Accounts site calls [] (b.enter (site i) i call) := by
  cases call with
  | close =>
    rw [enter_close]
    exact (h.perform close).release.finish known rfl
  | connect =>
    have opened := h.perform openDriver
    have asks : Asks ((b.perform (site i) i openDriver).2.eventsOf i) := by
      rw [eventsOf_perform_self, untouched]
      exact asks_openDriver (site i) b.link
    cases driver : b.link.driver with
    | some d =>
      rw [enter_connect_of_isSome (by simp [driver])]
      refine h.release.finish known ?_
      rw [eventsOf_release, untouched]
      exact Call.fits_of_idle .connect (site i)
    | none =>
      cases create : (site i).database.create (site i).endpoint with
      | some fault =>
        rw [enter_connect_of_some driver create]
        refine opened.release.finish known ?_
        rw [eventsOf_release]
        exact ⟨fun _ => ⟨asks, .inl (by simp [create])⟩, fun _ => ⟨_, rfl⟩⟩
      | none =>
        rw [enter_connect_of_none driver create]
        exact opened.goOn known asks create

theorem verified {driver : Nat} (h : Accounts site calls [i] b)
    (known : calls[i]? = some .connect) (asks : Asks (b.eventsOf i))
    (created : (site i).database.create (site i).endpoint = none) :
    Accounts site calls [] (b.turn (site i) i (.verifying driver)) := by
  have asks := asks.append ((verify driver).run (site i) b.link).events
  refine (h.perform (verify driver)).release.finish known ?_
  rw [eventsOf_release, eventsOf_perform_self]
  constructor
  · intro failed
    exact ⟨asks, .inr ((verify_fails_iff driver (site i) b.link).mp failed)⟩
  · rintro ⟨-, creating | verifying⟩
    · exact absurd created creating
    · exact (verify_fails_iff driver (site i) b.link).mpr verifying

theorem turn {phase : Phase} {call : Call} (h : Accounts site calls [i] b)
    (known : calls[i]? = some call) (fits : phase.Fits (site i) call (b.eventsOf i)) :
    Accounts site calls [] (b.turn (site i) i phase) := by
  cases phase with
  | starting c =>
    obtain ⟨rfl, untouched⟩ := fits
    unfold Batch.turn
    dsimp only
    split
    · refine h.finish known ?_
      rw [untouched]
      exact call.fits_of_idle (site i)
    · split
      · exact h.await known untouched
      · exact enter (b := { b with locked := true })
          ⟨h.indices, h.ready, h.waiting, h.finished⟩ known untouched
  | admitted c =>
    obtain ⟨rfl, untouched⟩ := fits
    exact h.enter known untouched
  | verifying driver =>
    obtain ⟨rfl, asks, created⟩ := fits
    exact h.verified known asks created

theorem start (site : Nat → Site) (link : Link) (calls : List Call) :
    Accounts site calls [] (start link calls) := by
  constructor
  · have all : (Batch.start link calls).indices = List.range calls.length := by
      apply List.ext_getElem <;> simp [Batch.indices, Batch.start]
    rw [all, List.nil_append]
  · intro i phase hi
    simp only [Batch.start, List.mem_mapIdx] at hi
    obtain ⟨k, hk, same⟩ := hi
    cases same
    exact ⟨calls[i], List.getElem?_eq_getElem hk, rfl, rfl⟩
  · simp [Batch.start]
  · simp [Batch.start]

theorem run (h : Accounts site calls [] b) : Accounts site calls [] (b.run site) := by
  refine (run_induction ?_ b h).1
  intro b i phase rest ready h
  obtain ⟨call, known, fits⟩ := h.ready i phase (ready ▸ List.mem_cons_self)
  exact (h.take ready).turn known fits

end Accounts

end Batch

end CypherGate.Connection
