import CypherGate.Proofs.Ownership
/-!
# What connecting tells of the server

A driver is verified by the call that creates it, and by no other. A later call comes to the driver in
place and learns nothing of the server, not even that the verification failed.
-/
namespace CypherGate.Connection

open CypherGate.Action CypherGate.Trace

def verdict? (driver : Nat) : Event → Option Bool
  | .verified d reachable => if d = driver then some reachable else none
  | _ => none

def verdicts (driver : Nat) (events : List Event) : List Bool := events.filterMap (verdict? driver)

theorem verdicts_append (driver : Nat) (es fs : List Event) :
    verdicts driver (es ++ fs) = verdicts driver es ++ verdicts driver fs :=
  List.filterMap_append

/-- A record of events that has the one verdict on the driver in place, and none on drivers to come. -/
structure Vouched (events : List Event) (c : Custody) : Prop where
  numbered : ∀ d, c.tenure.driver? = some d → d < c.created
  fresh : ∀ d, c.created ≤ d → verdicts d events = []
  unverified : ∀ d, c.tenure = .unverified d → verdicts d events = []
  verified : ∀ d reachable, c.tenure = .verified d reachable → verdicts d events = [reachable]

namespace Vouched

variable {es fs : List Event} {c c' : Custody}

theorem initial : Vouched [] Custody.initial := by
  constructor
  · intro d hd
    cases hd
  · intro d _
    rfl
  · intro d hd
    cases hd
  · intro d reachable hd
    cases hd

theorem verdicts_snoc {e : Event} (h : ∀ d, verdict? d e = none) (es : List Event) (d : Nat) :
    verdicts d (es ++ [e]) = verdicts d es := by
  rw [verdicts_append]
  simp [verdicts, h d]

theorem snoc {e : Event} (h : Vouched es c) (move : c.Moves e c') : Vouched (es ++ [e]) c' := by
  obtain ⟨numbered, fresh, unverified, verified⟩ := h
  have same := verdicts_snoc (e := e)
  cases move with
  | requested | sent | ended | logged | opened =>
    have same := same (fun _ => rfl) es
    exact ⟨numbered, fun d hd => (same d).trans (fresh d hd),
      fun d hd => (same d).trans (unverified d hd),
      fun d reachable hd => (same d).trans (verified d reachable hd)⟩
  | closed e n reachable =>
    have same := same (fun _ => rfl) es
    refine ⟨?_, fun d hd => (same d).trans (fresh d hd), ?_, ?_⟩
    · intro d hd
      cases hd
    · intro d hd
      cases hd
    · intro d r hd
      cases hd
  | created n =>
    have same := same (fun _ => rfl) es
    refine ⟨?_, ?_, ?_, ?_⟩
    · intro d hd
      obtain rfl : n = d := Option.some.inj hd
      exact Nat.lt_succ_self n
    · intro d hd
      exact (same d).trans (fresh d (Nat.le_of_succ_le hd))
    · intro d hd
      obtain rfl : n = d := Tenure.unverified.inj hd
      exact (same n).trans (fresh n (Nat.le_refl n))
    · intro d r hd
      cases hd
  | verified e n reachable =>
    have below : e < n := numbered e rfl
    refine ⟨numbered, ?_, ?_, ?_⟩
    · intro d hd
      have other : e ≠ d := by
        have : n ≤ d := hd
        omega
      rw [verdicts_append, fresh d hd]
      simp [verdicts, verdict?, other]
    · intro d hd
      cases hd
    · intro d r hd
      obtain ⟨rfl, rfl⟩ := Tenure.verified.inj hd
      rw [verdicts_append, unverified e rfl]
      simp [verdicts, verdict?]

theorem leads (h : Vouched es c) (k : c.Leads fs c') : Vouched (es ++ fs) c' := by
  induction k generalizing es with
  | nil =>
    rw [List.append_nil]
    exact h
  | cons move _ ih =>
    rw [List.append_cons]
    exact ih (h.snoc move)

end Vouched

/-- Connecting fails for want of a driver only: there is none, and creating or verifying one fails. -/
theorem connect_fails_iff (site : Site) (link : Link) :
    (∃ failure, (connect.run site link).result = .error failure) ↔
      link.driver = none ∧ Site.Failing site := by
  cases driver : link.driver with
  | some d => simp [connect_of_some driver]
  | none =>
    rw [connect_of_none driver]
    cases create : site.database.create site.endpoint with
    | some fault =>
      obtain ⟨logs, -, run⟩ := openDriver_of_some link create
      rw [run_bind_error (by rw [run])]
      simp [Site.Failing, create]
    | none =>
      have run : openDriver.run site link = _ := openDriver_of_none create
      obtain ⟨record, verified⟩ := verify_run link.created site ⟨some link.created, link.created + 1⟩
      rw [run_bind_ok (by rw [run]), run, verified]
      cases verify : site.database.verify <;> simp [verification, Site.Failing, create, verify]

/-- After any run a connect comes to a driver with exactly one verdict, which need not be favourable: a
driver that failed its verification is handed out like any other. -/
theorem connect_one_verdict (guard : Guard) (steps : List (Site × Step)) (site : Site) :
    let past := Step.runAll guard Link.initial steps
    let o := connect.run site past.1
    (∀ d, o.result = .ok d → ∃ reachable, verdicts d (past.2 ++ o.events) = [reachable]) ∧
      ((∃ failure, o.result = .error failure) ↔ past.1.driver = none ∧ Site.Failing site) := by
  intro past o
  refine ⟨?_, connect_fails_iff site past.1⟩
  intro d hd
  obtain ⟨c, leads, link, rest⟩ := Step.runAll_kept guard steps (Custody.AtRest.vacant 0)
  have same : o = connect.run site c.link := congrArg (connect.run site) link
  rw [same] at hd ⊢
  obtain ⟨c', kept, -, inPlace⟩ := Custody.connect_kept rest site
  obtain ⟨reachable, tenure⟩ := inPlace d hd
  have vouched := (Vouched.initial.leads leads).leads kept.leads
  exact ⟨reachable, vouched.verified d reachable tenure⟩

/-- A server that can be called but never answers. -/
def silentServer : Site where
  endpoint := ⟨"bolt://localhost:7687", "neo4j", "secret", none⟩
  database := ⟨fun _ => none, some (.service .any "unreachable"), fun _ _ => ⟨[], none, none⟩⟩

/-- The second of two connects to a server that never answers comes to a driver all the same. -/
theorem connect_of_failed_verdict :
    let past := Step.runAll Guard.Policy.standard Link.initial [(silentServer, .connect)]
    let o := connect.run silentServer past.1
    o.result = .ok 0 ∧ verdicts 0 (past.2 ++ o.events) = [false] :=
  ⟨rfl, rfl⟩

end CypherGate.Connection
