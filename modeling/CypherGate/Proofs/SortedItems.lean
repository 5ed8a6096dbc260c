import CypherGate.Proofs.Checks
import CypherGate.Sort.Adaptive
import Mathlib.Tactic.Tauto
/-!
# Items of a sorted list

Sorting makes nothing up: whatever the comparison says, every item of the outcome was in the list. Each step
takes its items from those that it is given, so that a run of steps does, too.
-/
namespace CypherGate.Sort

variable {α ε : Type} {before : α → α → Except ε Bool}

theorem extendRun_subset {descending : Bool} {run rest run' rest' : List α}
    (h : extendRun before descending run rest = .ok (run', rest')) : run' ++ rest' ⊆ run ++ rest := by
  induction rest generalizing run with
  | nil =>
    rw [extendRun] at h
    obtain ⟨rfl, rfl⟩ := Prod.mk.inj (Except.ok.inj h)
    exact List.Subset.refl _
  | cons next rest ih =>
    cases run with
    | nil =>
      rw [extendRun] at h
      · obtain ⟨rfl, rfl⟩ := Prod.mk.inj (Except.ok.inj h)
        exact List.Subset.refl _
      · nofun
    | cons last run =>
      rw [extendRun] at h
      obtain ⟨less, -, h⟩ := ok_of_bind h
      split at h
      · refine List.Subset.trans (ih h) fun x hx => ?_
        simp only [List.cons_append, List.mem_cons, List.mem_append] at hx ⊢
        tauto
      · obtain ⟨rfl, rfl⟩ := Prod.mk.inj (Except.ok.inj h)
        exact List.Subset.refl _

theorem naturalRun_subset {items run rest : List α} (h : naturalRun before items = .ok (run, rest)) :
    run ++ rest ⊆ items := by
  unfold naturalRun at h
  split at h
  next first second others =>
    obtain ⟨descending, -, h⟩ := ok_of_bind h
    obtain ⟨⟨run', rest'⟩, extended, h⟩ := ok_of_bind h
    obtain ⟨rfl, rfl⟩ := Prod.mk.inj (Except.ok.inj h)
    intro x hx
    have member : x ∈ run' ++ rest' := by
      cases descending <;> simpa using hx
    have known := extendRun_subset extended member
    simp only [List.cons_append, List.nil_append, List.mem_cons] at known ⊢
    tauto
  next =>
    obtain ⟨rfl, rfl⟩ := Prod.mk.inj (Except.ok.inj h)
    rw [List.append_nil]
    exact List.Subset.refl _

theorem insertItem_subset {run out : List α} {item : α} (h : insertItem before run item = .ok out) :
    out ⊆ item :: run := by
  obtain ⟨i, -, h⟩ := ok_of_bind h
  obtain rfl := Except.ok.inj h
  intro x hx
  rcases List.mem_append.mp hx with front | back
  · exact List.mem_cons_of_mem _ (List.mem_of_mem_take front)
  · exact List.cons_subset_cons item (List.drop_subset i run) back

theorem foldlM_insertItem_subset {items run out : List α}
    (h : items.foldlM (insertItem before) run = .ok out) : out ⊆ run ++ items := by
  induction items generalizing run with
  | nil =>
    obtain rfl := Except.ok.inj h
    simp
  | cons item rest ih =>
    rw [List.foldlM_cons] at h
    obtain ⟨longer, inserted, h⟩ := ok_of_bind h
    intro x hx
    rcases List.mem_append.mp (ih h hx) with known | known
    · have known := insertItem_subset inserted known
      simp only [List.mem_cons, List.mem_append] at known ⊢
      tauto
    · exact List.mem_append_right run (List.mem_cons_of_mem item known)

theorem nextRun_subset {least : Nat} {items run rest : List α}
    (h : nextRun before least items = .ok (run, rest)) : run ++ rest ⊆ items := by
  obtain ⟨⟨natural, others⟩, found, h⟩ := ok_of_bind h
  obtain ⟨longer, inserted, h⟩ := ok_of_bind h
  obtain ⟨rfl, rfl⟩ := Prod.mk.inj (Except.ok.inj h)
  intro x hx
  apply naturalRun_subset found
  rcases List.mem_append.mp hx with known | known
  · rcases List.mem_append.mp (foldlM_insertItem_subset inserted known) with known | known
    · exact List.mem_append_left others known
    · exact List.mem_append_right natural (List.mem_of_mem_take known)
  · exact List.mem_append_right natural (List.mem_of_mem_drop known)

namespace Merge

variable {e : End} {m m' : Merge α}

/-- The items of a merge under way, in no order. -/
def all (m : Merge α) : List α := m.taken ++ (m.left ++ m.right)

theorem takeLeft_subset (n : Nat) (m : Merge α) : (m.takeLeft n).all ⊆ m.all := by
  intro x hx
  have front : x ∈ m.left.take n → x ∈ m.left := List.mem_of_mem_take
  have back : x ∈ m.left.drop n → x ∈ m.left := List.mem_of_mem_drop
  simp only [all, takeLeft, List.mem_append, List.mem_reverse] at hx ⊢
  tauto

theorem takeRight_subset (n : Nat) (m : Merge α) : (m.takeRight n).all ⊆ m.all := by
  intro x hx
  have front : x ∈ m.right.take n → x ∈ m.right := List.mem_of_mem_take
  have back : x ∈ m.right.drop n → x ∈ m.right := List.mem_of_mem_drop
  simp only [all, takeRight, List.mem_append, List.mem_reverse] at hx ⊢
  tauto

theorem items_subset (e : End) (m : Merge α) : m.items e ⊆ m.all := by
  intro x hx
  cases e <;>
    · simp only [items, all, List.mem_append, List.mem_reverse] at hx ⊢
      tauto

theorem round_subset {longest : Nat} (h : round before e m = .ok (longest, m')) : m'.all ⊆ m.all := by
  obtain ⟨lefts, -, h⟩ := ok_of_bind h
  dsimp only at h
  have first := takeLeft_subset lefts m
  generalize m.takeLeft lefts = m₁ at h first
  split at h
  · obtain ⟨-, rfl⟩ := Prod.mk.inj (Except.ok.inj h)
    exact first
  have second := List.Subset.trans (takeRight_subset 1 m₁) first
  generalize m₁.takeRight 1 = m₂ at h second
  split at h
  · obtain ⟨-, rfl⟩ := Prod.mk.inj (Except.ok.inj h)
    exact second
  obtain ⟨rights, -, h⟩ := ok_of_bind h
  have third := List.Subset.trans (takeRight_subset rights m₂) second
  generalize m₂.takeRight rights = m₃ at h third
  split at h
  · obtain ⟨-, rfl⟩ := Prod.mk.inj (Except.ok.inj h)
    exact third
  · obtain ⟨-, rfl⟩ := Prod.mk.inj (Except.ok.inj h)
    exact List.Subset.trans (takeLeft_subset 1 m₃) third

theorem rounds_subset {fuel threshold threshold' : Nat}
    (h : rounds before e fuel threshold m = .ok (threshold', m')) : m'.all ⊆ m.all := by
  induction fuel generalizing threshold m with
  | zero =>
    obtain ⟨-, rfl⟩ := Prod.mk.inj (Except.ok.inj h)
    exact List.Subset.refl _
  | succ fuel ih =>
    rw [rounds] at h
    obtain ⟨⟨longest, next⟩, step, h⟩ := ok_of_bind h
    have known := round_subset step
    dsimp only at h
    split at h
    · obtain ⟨-, rfl⟩ := Prod.mk.inj (Except.ok.inj h)
      exact known
    split at h
    · obtain ⟨-, rfl⟩ := Prod.mk.inj (Except.ok.inj h)
      exact known
    · exact List.Subset.trans (ih h) known

theorem finish_subset {fuel threshold lefts rights threshold' : Nat}
    (h : finish before e fuel threshold lefts rights m = .ok (threshold', m')) : m'.all ⊆ m.all := by
  induction fuel generalizing threshold lefts rights m with
  | zero =>
    obtain ⟨-, rfl⟩ := Prod.mk.inj (Except.ok.inj h)
    exact List.Subset.refl _
  | succ fuel ih =>
    rw [finish] at h
    split at h
    · obtain ⟨-, rfl⟩ := Prod.mk.inj (Except.ok.inj h)
      exact List.Subset.refl _
    split at h
    next l _ r _ _ =>
      obtain ⟨less, -, h⟩ := ok_of_bind h
      obtain ⟨lefts', rights', next, known, h⟩ : ∃ lefts' rights' next, all next ⊆ all m ∧
          (if next.isOver e then pure (threshold, next)
            else if max lefts' rights' < threshold then finish before e fuel threshold lefts' rights' next
            else rounds before e fuel threshold next >>= fun r => finish before e fuel r.1 0 0 r.2) =
              .ok (threshold', m') := by
        cases same : less == (e == .front) with
        | true => exact ⟨0, rights + 1, m.takeRight 1, takeRight_subset 1 m, by simpa [same] using h⟩
        | false => exact ⟨lefts + 1, 0, m.takeLeft 1, takeLeft_subset 1 m, by simpa [same] using h⟩
      split at h
      · obtain ⟨-, rfl⟩ := Prod.mk.inj (Except.ok.inj h)
        exact known
      split at h
      · exact List.Subset.trans (ih h) known
      · obtain ⟨⟨threshold₁, later⟩, step, h⟩ := ok_of_bind h
        exact List.Subset.trans (List.Subset.trans (ih h) (rounds_subset step)) known
    next =>
      obtain ⟨-, rfl⟩ := Prod.mk.inj (Except.ok.inj h)
      exact List.Subset.refl _

end Merge

theorem mergeRuns_subset {threshold threshold' : Nat} {left right out : List α}
    (h : mergeRuns before threshold left right = .ok (threshold', out)) : out ⊆ left ++ right := by
  unfold mergeRuns at h
  split at h
  next r others =>
    obtain ⟨settled, -, h⟩ := ok_of_bind h
    dsimp only at h
    split at h
    next l _ =>
      obtain ⟨moving, -, h⟩ := ok_of_bind h
      split at h
      · obtain ⟨-, rfl⟩ := Prod.mk.inj (Except.ok.inj h)
        exact List.Subset.refl _
      have front : ∀ {x}, x ∈ left.take settled ∨ x ∈ left.drop settled → x ∈ left :=
        fun hx => hx.elim List.mem_of_mem_take List.mem_of_mem_drop
      have back : ∀ {x}, x ∈ (r :: others).take moving ∨ x ∈ (r :: others).drop moving →
          x ∈ r :: others :=
        fun hx => hx.elim List.mem_of_mem_take List.mem_of_mem_drop
      generalize picked : (if (left.drop settled).length ≤ ((r :: others).take moving).length then
        (End.front, Merge.takeRight 1 _) else (End.back, Merge.takeLeft 1 _)) = start at h
      have begins : start.2.all ⊆ left ++ r :: others := by
        rw [← picked]
        split
        · refine List.Subset.trans (Merge.takeRight_subset 1 _) fun x hx => ?_
          simp only [Merge.all, List.nil_append, List.mem_append] at hx ⊢
          exact hx.imp (front ∘ .inr) (back ∘ .inl)
        · refine List.Subset.trans (Merge.takeLeft_subset 1 _) fun x hx => ?_
          simp only [Merge.all, List.nil_append, List.mem_append, List.mem_reverse] at hx ⊢
          exact hx.imp (front ∘ .inr) (back ∘ .inl)
      obtain ⟨⟨threshold₁, m⟩, finished, h⟩ := ok_of_bind h
      obtain ⟨-, rfl⟩ := Prod.mk.inj (Except.ok.inj h)
      intro x hx
      simp only [List.mem_append] at hx
      rcases hx with (settled | merged) | still
      · exact List.mem_append_left _ (front (.inl settled))
      · exact begins (Merge.finish_subset finished (Merge.items_subset _ m merged))
      · exact List.mem_append_right _ (back (.inr still))
    next =>
      obtain ⟨-, rfl⟩ := Prod.mk.inj (Except.ok.inj h)
      exact List.Subset.refl _
  next =>
    obtain ⟨-, rfl⟩ := Prod.mk.inj (Except.ok.inj h)
    simp

def pendingItems (stack : List (Pending α)) : List α := stack.flatMap Pending.items

theorem collapse_subset {power threshold threshold' : Nat} {stack stack' : List (Pending α)}
    (h : collapse before power threshold stack = .ok (threshold', stack')) :
    pendingItems stack' ⊆ pendingItems stack := by
  induction size : stack.length generalizing threshold stack with
  | zero =>
    obtain rfl := List.length_eq_zero_iff.mp size
    rw [collapse] at h
    · obtain ⟨-, rfl⟩ := Prod.mk.inj (Except.ok.inj h)
      exact List.Subset.refl _
    · simp
  | succ n ih =>
    rcases stack with _ | ⟨top, _ | ⟨next, rest⟩⟩
    · cases size
    · rw [collapse] at h
      · obtain ⟨-, rfl⟩ := Prod.mk.inj (Except.ok.inj h)
        exact List.Subset.refl _
      · simp
    · rw [collapse] at h
      split at h
      · obtain ⟨⟨threshold₁, merged⟩, run, h⟩ := ok_of_bind h
        refine List.Subset.trans (ih h (by simpa using size)) fun x hx => ?_
        have known : x ∈ merged → x ∈ next.items ++ top.items := fun hx => mergeRuns_subset run hx
        simp only [pendingItems, List.flatMap_cons, List.mem_append] at hx known ⊢
        tauto
      · obtain ⟨-, rfl⟩ := Prod.mk.inj (Except.ok.inj h)
        exact List.Subset.refl _

theorem mergeAll_subset {threshold : Nat} {stack : List (Pending α)} {out : List α}
    (h : mergeAll before threshold stack = .ok out) : out ⊆ pendingItems stack := by
  induction size : stack.length generalizing threshold stack with
  | zero =>
    obtain rfl := List.length_eq_zero_iff.mp size
    rw [mergeAll] at h
    obtain rfl := Except.ok.inj h
    exact List.nil_subset _
  | succ n ih =>
    rcases stack with _ | ⟨last, _ | ⟨middle, _ | ⟨first, rest⟩⟩⟩
    · cases size
    · rw [mergeAll] at h
      obtain rfl := Except.ok.inj h
      simp [pendingItems]
    · rw [mergeAll] at h
      obtain ⟨⟨threshold₁, merged⟩, run, h⟩ := ok_of_bind h
      obtain rfl := Except.ok.inj h
      intro x hx
      have known := mergeRuns_subset run hx
      simp only [pendingItems, List.flatMap_cons, List.mem_append] at known ⊢
      tauto
    · rw [mergeAll] at h
      split at h
      all_goals
        obtain ⟨⟨threshold₁, merged⟩, run, h⟩ := ok_of_bind h
        refine List.Subset.trans (ih h (by simpa using size)) fun x hx => ?_
        have known := mergeRuns_subset run (a := x)
        simp only [pendingItems, List.flatMap_cons, List.mem_append] at hx known ⊢
        tauto

theorem pendingItems_setPower (power : Nat) (stack : List (Pending α)) :
    pendingItems (setPower power stack) = pendingItems stack := by
  cases stack <;> rfl

theorem addRuns_subset {whole fuel start threshold : Nat} {stack : List (Pending α)}
    {items out : List α} (h : addRuns before whole fuel start threshold stack items = .ok out) :
    out ⊆ pendingItems stack ++ items := by
  induction fuel generalizing start threshold stack items with
  | zero =>
    rw [addRuns] at h
    exact List.Subset.trans (mergeAll_subset h) (List.subset_append_left _ _)
  | succ fuel ih =>
    cases items with
    | nil =>
      rw [addRuns] at h
      · exact List.Subset.trans (mergeAll_subset h) (List.subset_append_left _ _)
      · nofun
    | cons item others =>
      rw [addRuns] at h
      · obtain ⟨⟨run, rest⟩, found, h⟩ := ok_of_bind h
        obtain ⟨⟨threshold₁, collapsed⟩, collapsing, h⟩ := ok_of_bind h
        refine List.Subset.trans (ih h) fun x hx => ?_
        have known := nextRun_subset found (a := x)
        have known' := collapse_subset collapsing (a := x)
        rw [List.mem_append] at known
        rw [pendingItems, List.flatMap_cons, ← pendingItems, pendingItems_setPower] at hx
        simp only [List.mem_append] at hx ⊢
        tauto
      · nofun

theorem adaptive_subset {items sorted : List α} (h : adaptive before items = .ok sorted) :
    sorted ⊆ items :=
  addRuns_subset h

end CypherGate.Sort
