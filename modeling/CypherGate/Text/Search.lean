/-!
# Searching in text
-/
namespace CypherGate.Text

/-- Whether `k` stands somewhere in `t` as consecutive characters. -/
def occursIn (k : List Char) : List Char → Bool
  | [] => k.isEmpty
  | c :: t => k.isPrefixOf (c :: t) || occursIn k t

theorem occursIn_iff {k t : List Char} : occursIn k t ↔ k <:+: t := by
  induction t with
  | nil => cases k <;> simp [occursIn]
  | cons c t ih => rw [List.infix_cons_iff, ← ih, ← List.isPrefixOf_iff_prefix]; simp [occursIn]

/-- The part after the last `d`, or the whole text when there is none. -/
def afterLast (d : Char) (s : List Char) : List Char :=
  (s.reverse.takeWhile (· != d)).reverse

theorem takeWhile_eq_self {p : Char → Bool} {s : List Char} (h : ∀ c ∈ s, p c = true) :
    s.takeWhile p = s := by
  induction s with
  | nil => rfl
  | cons c r ih =>
    rw [List.takeWhile_cons_of_pos (h c List.mem_cons_self),
      ih fun x hx => h x (List.mem_cons_of_mem c hx)]

theorem bne_of_notMem {d : Char} {t : List Char} (h : d ∉ t) : ∀ c ∈ t.reverse, (c != d) = true := by
  intro c hc
  simpa using fun e : c = d => h (by simpa [e] using hc)

theorem afterLast_append_cons {d : Char} {p t : List Char} (h : d ∉ t) :
    afterLast d (p ++ d :: t) = t := by
  simp [afterLast, List.takeWhile_append_of_pos (bne_of_notMem h)]

theorem afterLast_of_notMem {d : Char} {t : List Char} (h : d ∉ t) : afterLast d t = t := by
  rw [afterLast, takeWhile_eq_self (bne_of_notMem h), List.reverse_reverse]

end CypherGate.Text
