import CypherGate.Proofs.Custody
import CypherGate.Proofs.Together
/-!
# Custody among calls made together

What calls made together do, taken in the order in which it happens, keeps to the order of a driver's
life. Between the turns of the call that creates a driver the driver is in place unverified; nothing
but its verification can happen to it then, for closes wait for the lock.
-/
namespace CypherGate.Connection.Batch

open CypherGate.Action CypherGate.Trace

variable {α : Type} {site : Site} {i : Nat} {b : Batch} {start c : Custody}

def history (b : Batch) : List Event := b.events.map Prod.snd

/-- The history of a batch leads to a custody of its link. -/
structure Recorded (start : Custody) (b : Batch) (c : Custody) : Prop where
  leads : start.Leads b.history c
  link : b.link = c.link

inductive InCustody (start : Custody) (b : Batch) : Prop
  | resting (c : Custody) (recorded : Recorded start b c) (rest : c.AtRest)
    (none : ∀ i d, (i, Phase.verifying d) ∉ b.ready)
  | verifying (d n : Nat) (recorded : Recorded start b ⟨.unverified d, n, false⟩)
    (going : ∃ i, (i, Phase.verifying d) ∈ b.ready)

theorem history_perform (site : Site) (i : Nat) (action : Action α) (b : Batch) :
    (b.perform site i action).2.history = b.history ++ (action.run site b.link).events := by
  simp [history, perform, Function.comp_def]

theorem Recorded.perform {c' : Custody} {action : Action α} (h : Recorded start b c)
    (kept : c.Leads (action.run site c.link).events c')
    (link : (action.run site c.link).link = c'.link) :
    Recorded start (b.perform site i action).2 c' := by
  constructor
  · rw [history_perform, h.link]
    exact h.leads.append kept
  · rw [← link, ← h.link]
    rfl

theorem Recorded.release (h : Recorded start b c) : Recorded start b.release c := by
  constructor
  · rw [history, events_release]
    exact h.leads
  · rw [link_release]
    exact h.link

theorem verifying_notMem_release (h : ∀ i d, (i, Phase.verifying d) ∉ b.ready) :
    ∀ i d, (i, Phase.verifying d) ∉ b.release.ready := by
  intro i d
  cases w : b.waiting with
  | nil =>
    rw [release_of_nil b w]
    exact h i d
  | cons head rest =>
    obtain ⟨j, call⟩ := head
    rw [release_of_cons j call b w]
    simpa using h i d

theorem InCustody.of_release {result : Except Failure Unit} (recorded : Recorded start b c)
    (rest : c.AtRest) (none : ∀ i d, (i, Phase.verifying d) ∉ b.ready) :
    InCustody start (b.release.finish i result) :=
  .resting c ⟨recorded.release.leads, recorded.release.link⟩ rest (verifying_notMem_release none)

theorem InCustody.enter_close (recorded : Recorded start b c) (rest : c.AtRest)
    (none : ∀ i d, (i, Phase.verifying d) ∉ b.ready) :
    InCustody start (b.enter site i .close) := by
  rw [Batch.enter_close]
  have kept := Custody.close_kept rest site
  exact .of_release (recorded.perform kept.leads kept.link) kept.rest none

theorem InCustody.enter_connect (recorded : Recorded start b c) (rest : c.AtRest)
    (none : ∀ i d, (i, Phase.verifying d) ∉ b.ready) :
    InCustody start (b.enter site i .connect) := by
  cases rest with
  | verified d n reachable =>
    have driver : b.link.driver.isSome := by rw [recorded.link]; rfl
    rw [enter_connect_of_isSome driver]
    exact .of_release recorded (.verified d n reachable) none
  | vacant n =>
    have driver : b.link.driver = Option.none := by rw [recorded.link]; rfl
    cases create : site.database.create site.endpoint with
    | some fault =>
      obtain ⟨logs, unseen, run⟩ := openDriver_of_some ⟨Option.none, n⟩ create
      rw [enter_connect_of_some driver create]
      refine .of_release (recorded.perform ?_ ?_) (.vacant n) none
      · simp only [Custody.link, Tenure.driver?, run]
        exact .cons (.requested n _ _ _) (Custody.leads_of_unseen unseen _)
      · simp only [Custody.link, Tenure.driver?, run]
    | none =>
      have run : openDriver.run site ⟨Option.none, n⟩ = _ := openDriver_of_none create
      have created : b.link.created = n := by rw [recorded.link]; rfl
      rw [enter_connect_of_none driver create, created]
      have opened : Recorded start (b.perform site i openDriver).2 ⟨.unverified n, n + 1, false⟩ := by
        refine recorded.perform ?_ ?_
        · simp only [Custody.link, Tenure.driver?, run]
          exact .cons (.requested n _ _ _) (.single (.created n))
        · simp only [Custody.link, Tenure.driver?, run]
      exact .verifying n (n + 1) ⟨opened.leads, opened.link⟩ ⟨i, by simp⟩

theorem InCustody.turn_resting {phase : Phase} (recorded : Recorded start b c) (rest : c.AtRest)
    (none : ∀ i d, (i, Phase.verifying d) ∉ b.ready) (other : ∀ d, phase ≠ .verifying d) :
    InCustody start (b.turn site i phase) := by
  have enter : ∀ call locked, InCustody start ({ b with locked }.enter site i call) := by
    intro call locked
    have recorded' : Recorded start { b with locked } c := ⟨recorded.leads, recorded.link⟩
    cases call with
    | close => exact .enter_close recorded' rest none
    | connect => exact .enter_connect recorded' rest none
  cases phase with
  | verifying d => exact absurd rfl (other d)
  | admitted call => exact enter call b.locked
  | starting call =>
    unfold turn
    dsimp only
    split
    · exact .resting c ⟨recorded.leads, recorded.link⟩ rest none
    · split
      · exact .resting c ⟨recorded.leads, recorded.link⟩ rest none
      · exact enter call true

theorem InCustody.turn_starting {d n : Nat} {call : Call}
    (recorded : Recorded start b ⟨.unverified d, n, false⟩)
    (going : ∃ i, (i, Phase.verifying d) ∈ b.ready) (locked : b.locked = true) :
    InCustody start (b.turn site i (.starting call)) := by
  have driver : b.link.driver = some d := by rw [recorded.link]; rfl
  cases call with
  | connect =>
    simp only [turn, driver, Option.isSome_some, and_self, if_true]
    exact .verifying d n ⟨recorded.leads, recorded.link⟩ going
  | close =>
    simp only [turn, reduceCtorEq, false_and, if_false, locked, if_true]
    exact .verifying d n ⟨recorded.leads, recorded.link⟩ going

theorem InCustody.turn_verifying {d n : Nat}
    (recorded : Recorded start b ⟨.unverified d, n, false⟩) (last : b.ready = []) :
    InCustody start (b.turn site i (.verifying d)) := by
  obtain ⟨record, run⟩ := verify_run d site ⟨some d, n⟩
  have verified : Recorded start (b.perform site i (verify d)).2
      ⟨.verified d site.database.verify.isNone, n, false⟩ := by
    refine recorded.perform ?_ ?_
    · simp only [Custody.link, Tenure.driver?, run]
      exact .cons (.verified d n _) (.single (.logged _ record))
    · simp only [Custody.link, Tenure.driver?, run]
  refine .of_release verified (.verified d n _) ?_
  intro j e
  simp [last]

theorem InCustody.turn {calls : List Call} {before : Link} {phase : Phase}
    {rest : List (Nat × Phase)} (h : InCustody start b) (progress : Progress calls before b)
    (ready : b.ready = (i, phase) :: rest) :
    InCustody start ({ b with ready := rest }.turn site i phase) := by
  cases h with
  | resting c recorded resting none =>
    refine turn_resting ⟨recorded.leads, recorded.link⟩ resting ?_ ?_
    · intro j d hj
      exact none j d (ready ▸ List.mem_cons_of_mem _ hj)
    · rintro d rfl
      exact none i d (ready ▸ List.mem_cons_self)
  | verifying d n recorded going =>
    obtain ⟨j, going⟩ := going
    cases progress with
    | free k h => simp [h.ready, starts, List.mem_drop_iff_getElem] at going
    | closing c' k h => simp [h.ready] at going
    | ended c' h => simp [h.ready] at going
    | verifying c' e k h =>
      have same : e = d := by
        have driver : b.link.driver = some d := by rw [recorded.link]; rfl
        exact Option.some.inj (h.connected.symm.trans driver)
      subst e
      by_cases known : k < calls.length
      · obtain ⟨⟨rfl, rfl⟩, rfl⟩ : (k = i ∧ .starting calls[k] = phase) ∧
            starts calls (k + 1) ++ [(c', .verifying d)] = rest := by
          simpa [h.ready, starts_cons known] using ready
        exact turn_starting ⟨recorded.leads, recorded.link⟩ ⟨c', by simp⟩ h.locked
      · obtain ⟨⟨rfl, rfl⟩, rfl⟩ : (c' = i ∧ .verifying d = phase) ∧ [] = rest := by
          simpa [h.ready, starts_eq_nil (Nat.le_of_not_lt known)] using ready
        exact turn_verifying ⟨recorded.leads, recorded.link⟩ rfl

theorem runTogether_recorded {c : Custody} (rest : c.AtRest) (site : Nat → Site)
    (calls : List Call) :
    ∃ c', Recorded c (runTogether site c.link calls) c' ∧ c'.AtRest := by
  have first : InCustody c (Batch.start c.link calls) := by
    refine .resting c ⟨.nil c, rfl⟩ rest ?_
    intro i d
    simp [Batch.start, List.mem_mapIdx]
  obtain ⟨⟨-, held⟩, ready⟩ := run_induction (P := fun b => Progress calls c.link b ∧ InCustody c b)
    (fun b i phase rest ready h => ⟨h.1.turn ready, h.2.turn h.1 ready⟩)
    (Batch.start c.link calls) ⟨Progress.start c.link calls, first⟩
  cases held with
  | resting c' recorded rest' => exact ⟨c', recorded, rest'⟩
  | verifying d n recorded going =>
    obtain ⟨i, going⟩ := going
    simp [ready] at going

/-- Only connects are left to begin, and they will find the link as it is. -/
structure Untouched (link : Link) (b : Batch) : Prop where
  ready : ∀ p ∈ b.ready, p.2 = Phase.starting .connect
  link : b.link = link

theorem Untouched.initial {calls : List Call} (connects : .close ∉ calls) (link : Link) :
    Untouched link (Batch.start link calls) := by
  refine ⟨?_, rfl⟩
  intro p hp
  obtain ⟨i, below, rfl⟩ := List.mem_mapIdx.mp hp
  cases call : calls[i] with
  | connect => rfl
  | close => exact absurd (call ▸ List.getElem_mem below) connects

theorem Untouched.turn {link : Link} {phase : Phase} {rest : List (Nat × Phase)}
    (h : Untouched link b) (driver : link.driver.isSome) (ready : b.ready = (i, phase) :: rest) :
    Untouched link ({ b with ready := rest }.turn site i phase) := by
  obtain rfl : phase = .starting .connect := h.ready (i, phase) (ready ▸ List.mem_cons_self)
  simp only [Batch.turn, h.link, driver, and_self, if_true]
  exact ⟨fun p hp => h.ready p (ready ▸ List.mem_cons_of_mem _ hp), rfl⟩

/-- Without a close, calls made together leave a driver in place alone. -/
theorem runTogether_of_connects {link : Link} {calls : List Call} (driver : link.driver.isSome)
    (connects : .close ∉ calls) (site : Nat → Site) :
    (runTogether site link calls).link = link :=
  (run_induction (P := Untouched link) (fun _ _ _ _ ready h => h.turn driver ready) _
    (Untouched.initial connects link)).1.link

end CypherGate.Connection.Batch
