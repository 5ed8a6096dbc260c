import CypherGate.Proofs.FirstCall
/-!
# The language of a policy

The queries that a policy accepts, told by its tables alone, and for any other query the first rule that
it breaks: the forbidden words come before the call, and the call before the opening.
-/
namespace CypherGate.Guard

open Text

theorem CallIn.callHere? {text before blanks name after : List Char}
    (h : CallIn text before blanks name after) :
    callHere? (text.drop before.length) = some name := by
  refine callHere?_eq_some_iff.mpr ⟨blanks, after, { h with split := ?_ }⟩
  rw [h.split, List.drop_left]
  rfl

theorem FirstCall.name_unique {text before blanks name after before' blanks' name' after' : List Char}
    (h : FirstCall text before blanks name after) (k : FirstCall text before' blanks' name' after') :
    name = name' := by
  have place : before.length = before'.length :=
    Nat.le_antisymm (h.2 _ _ _ _ k.1) (k.2 _ _ _ _ h.1)
  have here := h.1.callHere?
  rw [place, k.1.callHere?] at here
  exact (Option.some.inj here).symm

theorem firstCall?_eq_none_iff {text : List Char} :
    firstCall? text = none ↔ ∀ before blanks name after, ¬CallIn text before blanks name after := by
  rw [firstCall?, List.head?_eq_none_iff, List.eq_nil_iff_forall_not_mem]
  constructor
  · intro none before blanks name after call
    exact none name (mem_calls_iff.mpr ⟨before, blanks, after, call⟩)
  · intro none name member
    obtain ⟨before, blanks, after, call⟩ := mem_calls_iff.mp member
    exact none before blanks name after call

theorem firstCall?_eq_some_iff {text name : List Char} :
    firstCall? text = some name ↔ ∃ before blanks after, FirstCall text before blanks name after := by
  constructor
  · exact firstCall?_eq_some
  · rintro ⟨before, blanks, after, call⟩
    cases found : firstCall? text with
    | none => exact absurd call.1 (firstCall?_eq_none_iff.mp found before blanks name after)
    | some name' =>
      obtain ⟨before', blanks', after', call'⟩ := firstCall?_eq_some found
      rw [call'.name_unique call]

namespace Policy

variable (p : Policy) (text : List Char)

/-! ## The rules -/

/-- The call marker, a plain space included. -/
def Marked (text : List Char) : Prop := "call ".toList <:+: text

def Lists (table : List String) (name : List Char) : Prop := ∃ start ∈ table, start.toList <+: name

/-- No word of a table occurs. -/
def FreeOf (words : List String) (text : List Char) : Prop := ∀ word ∈ words, ¬word.toList <:+: text

/-- In a marked text there is a call, and the first one is of an allowed procedure. -/
def CallsRightly : Prop :=
  Marked text → ∃ before blanks name after,
    FirstCall text before blanks name after ∧ Lists p.procedures name

structure Accepts : Prop where
  clean : FreeOf p.forbidden text
  calls : p.CallsRightly text
  opening : Lists p.openings text

/-- The reasons for which a text is refused. The rules before the one that is broken are kept. -/
inductive RefusedWith : String → Prop where
  | forbidden {earlier later : List String} {word : String}
    (table : p.forbidden = earlier ++ word :: later) (clean : FreeOf earlier text)
    (occurs : word.toList <:+: text) : RefusedWith ("forbidden keyword '" ++ word ++ "'")
  | malformedCall (clean : FreeOf p.forbidden text) (marked : Marked text)
    (noCall : ∀ before blanks name after, ¬CallIn text before blanks name after) :
    RefusedWith "malformed procedure call"
  | procedure {before blanks name after : List Char} (clean : FreeOf p.forbidden text)
    (marked : Marked text) (call : FirstCall text before blanks name after)
    (unlisted : ¬Lists p.procedures name) :
    RefusedWith ("procedure '" ++ String.ofList name ++ "' is not allowed")
  | opening (clean : FreeOf p.forbidden text) (calls : p.CallsRightly text)
    (closed : ¬Lists p.openings text) :
    RefusedWith "query does not start with a read-only clause"

variable {p text}

theorem forbiddenIn?_eq_none_iff : p.forbiddenIn? text = none ↔ FreeOf p.forbidden text := by
  simp only [forbiddenIn?, List.find?_eq_none, occursIn_iff, FreeOf]

theorem forbiddenIn?_eq_some_iff {word : String} :
    p.forbiddenIn? text = some word ↔ ∃ earlier later,
      p.forbidden = earlier ++ word :: later ∧ FreeOf earlier text ∧ word.toList <:+: text := by
  simp only [forbiddenIn?, List.find?_eq_some_iff_append, occursIn_iff, FreeOf, Bool.not_eq_true',
    ← Bool.not_eq_true]
  constructor
  · rintro ⟨occurs, earlier, later, table, clean⟩
    exact ⟨earlier, later, table, clean, occurs⟩
  · rintro ⟨earlier, later, table, clean, occurs⟩
    exact ⟨occurs, earlier, later, table, clean⟩

theorem opens_iff : p.opens text ↔ Lists p.openings text := by
  simp [opens, Lists, List.any_eq_true]

theorem callRefusal?_of_unmarked (h : ¬Marked text) : p.callRefusal? text = none := by
  have absent : occursIn "call ".toList text = false :=
    Bool.eq_false_iff.mpr fun found => h (occursIn_iff.mp found)
  rw [callRefusal?, absent]
  rfl

theorem callRefusal?_of_marked (h : Marked text) :
    p.callRefusal? text = match firstCall? text with
      | none => some .malformedCall
      | some name => if p.allows name then none else some (.procedure (String.ofList name)) := by
  have found : occursIn "call ".toList text = true := occursIn_iff.mpr h
  rw [callRefusal?, found]
  rfl

theorem callRefusal?_eq_none_iff : p.callRefusal? text = none ↔ p.CallsRightly text := by
  by_cases marked : Marked text
  · rw [callRefusal?_of_marked marked]
    cases found : firstCall? text with
    | none =>
      have noCall := firstCall?_eq_none_iff.mp found
      constructor
      · rintro ⟨⟩
      · intro calls
        obtain ⟨before, blanks, name, after, call, -⟩ := calls marked
        exact absurd call.1 (noCall before blanks name after)
    | some name =>
      obtain ⟨before, blanks, after, call⟩ := firstCall?_eq_some found
      have decided : p.CallsRightly text ↔ p.allows name := by
        rw [allows_iff]
        constructor
        · intro calls
          obtain ⟨_, _, name', _, call', listed⟩ := calls marked
          exact call'.name_unique call ▸ listed
        · exact fun listed _ => ⟨before, blanks, name, after, call, listed⟩
      rw [decided]
      by_cases allowed : p.allows name <;> simp [allowed]
  · exact ⟨fun _ h => absurd h marked, fun _ => callRefusal?_of_unmarked marked⟩

theorem callRefusal?_eq_some_iff {refusal : Refusal} :
    p.callRefusal? text = some refusal ↔ Marked text ∧
      (refusal = .malformedCall ∧ firstCall? text = none ∨
        ∃ name, refusal = .procedure (String.ofList name) ∧ firstCall? text = some name ∧
          ¬Lists p.procedures name) := by
  by_cases marked : Marked text
  · rw [callRefusal?_of_marked marked]
    cases firstCall? text with
    | none => simp [marked, eq_comm]
    | some name =>
      have decided : p.allows name ↔ Lists p.procedures name := allows_iff
      constructor
      · intro refused
        by_cases allowed : p.allows name
        · simp [allowed] at refused
        · simp only [allowed, Bool.false_eq_true, if_false, Option.some.injEq] at refused
          exact ⟨marked, .inr ⟨name, refused.symm, rfl, mt decided.mpr allowed⟩⟩
      · rintro ⟨-, ⟨-, ⟨⟩⟩ | ⟨name', rfl, same, unlisted⟩⟩
        obtain rfl := Option.some.inj same
        exact if_neg (mt decided.mp unlisted)
  · rw [callRefusal?_of_unmarked marked]
    simp [marked]

theorem judge_eq_safe_iff : p.judge text = .safe ↔ p.Accepts text := by
  have checks : p.Accepts text ↔
      p.forbiddenIn? text = none ∧ p.callRefusal? text = none ∧ p.opens text := by
    rw [forbiddenIn?_eq_none_iff, callRefusal?_eq_none_iff, opens_iff]
    exact ⟨fun h => ⟨h.clean, h.calls, h.opening⟩, fun ⟨clean, calls, opening⟩ =>
      ⟨clean, calls, opening⟩⟩
  rw [checks]
  unfold judge
  cases p.forbiddenIn? text with
  | some word => simp
  | none =>
    cases p.callRefusal? text with
    | some refusal => simp
    | none => simp

theorem judge_eq_rejected_iff {refusal : Refusal} :
    p.judge text = .rejected refusal ↔
      (∃ word, p.forbiddenIn? text = some word ∧ refusal = .forbidden word) ∨
      p.forbiddenIn? text = none ∧ (p.callRefusal? text = some refusal ∨
        p.callRefusal? text = none ∧ p.opens text = false ∧ refusal = .opening) := by
  unfold judge
  cases p.forbiddenIn? text with
  | some word =>
    constructor
    · rintro ⟨⟩
      exact .inl ⟨word, rfl, rfl⟩
    · rintro (⟨word', same, rfl⟩ | ⟨⟨⟩, -⟩)
      obtain rfl := Option.some.inj same
      rfl
  | none =>
    cases p.callRefusal? text with
    | some refusal' => simp
    | none => cases p.opens text <;> simp [@eq_comm _ _ refusal]

theorem refusedWith_of_judge {refusal : Refusal} (h : p.judge text = .rejected refusal) :
    p.RefusedWith text refusal.reason := by
  rcases judge_eq_rejected_iff.mp h with ⟨word, found, rfl⟩ | ⟨clean, rest⟩
  · obtain ⟨earlier, later, table, clean, occurs⟩ := forbiddenIn?_eq_some_iff.mp found
    exact .forbidden table clean occurs
  have clean := forbiddenIn?_eq_none_iff.mp clean
  rcases rest with refused | ⟨passed, closed, rfl⟩
  · obtain ⟨marked, ⟨rfl, none⟩ | ⟨name, rfl, found, unlisted⟩⟩ := callRefusal?_eq_some_iff.mp refused
    · exact .malformedCall clean marked (firstCall?_eq_none_iff.mp none)
    · obtain ⟨before, blanks, after, call⟩ := firstCall?_eq_some found
      exact .procedure clean marked call unlisted
  · refine .opening clean (callRefusal?_eq_none_iff.mp passed) fun opens => ?_
    rw [opens_iff.mpr opens] at closed
    cases closed

theorem judge_of_refusedWith {reason : String} (h : p.RefusedWith text reason) :
    ∃ refusal, p.judge text = .rejected refusal ∧ refusal.reason = reason := by
  cases h with
  | @forbidden earlier later word table clean occurs =>
    have found := forbiddenIn?_eq_some_iff.mpr ⟨earlier, later, table, clean, occurs⟩
    exact ⟨.forbidden word, judge_eq_rejected_iff.mpr (.inl ⟨word, found, rfl⟩), rfl⟩
  | malformedCall clean marked noCall =>
    have clean := forbiddenIn?_eq_none_iff.mpr clean
    have refused : p.callRefusal? text = some .malformedCall := callRefusal?_eq_some_iff.mpr
      ⟨marked, .inl ⟨rfl, firstCall?_eq_none_iff.mpr noCall⟩⟩
    exact ⟨.malformedCall, judge_eq_rejected_iff.mpr (.inr ⟨clean, .inl refused⟩), rfl⟩
  | @procedure before blanks name after clean marked call unlisted =>
    have clean := forbiddenIn?_eq_none_iff.mpr clean
    have found := firstCall?_eq_some_iff.mpr ⟨before, blanks, after, call⟩
    have refused := callRefusal?_eq_some_iff.mpr ⟨marked, .inr ⟨name, rfl, found, unlisted⟩⟩
    exact ⟨.procedure (String.ofList name), judge_eq_rejected_iff.mpr (.inr ⟨clean, .inl refused⟩),
      rfl⟩
  | opening clean calls closed =>
    have clean := forbiddenIn?_eq_none_iff.mpr clean
    have passed := callRefusal?_eq_none_iff.mpr calls
    have closed : p.opens text = false := Bool.eq_false_iff.mpr fun opens => closed (opens_iff.mp opens)
    exact ⟨.opening, judge_eq_rejected_iff.mpr (.inr ⟨clean, .inr ⟨passed, closed, rfl⟩⟩), rfl⟩

/-- A policy accepts exactly the queries that keep its rules, and tells of any other query the first
rule that it breaks. -/
theorem classify_iff_rules (p : Policy) (query : String) :
    (p.classify query = .safe ↔ p.Accepts (normalForm query)) ∧
      ∀ reason, (∃ refusal, p.classify query = .rejected refusal ∧ refusal.reason = reason) ↔
        p.RefusedWith (normalForm query) reason := by
  refine ⟨judge_eq_safe_iff, fun reason => ⟨?_, judge_of_refusedWith⟩⟩
  rintro ⟨refusal, rejected, rfl⟩
  exact refusedWith_of_judge rejected

end Policy

end CypherGate.Guard
