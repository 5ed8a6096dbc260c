import CypherGate.Guard.Call
import CypherGate.Guard.Classify
/-!
# The first call of a query

Where the calls of a text are, told without a search for them. The guard looks at the one that begins
first, and only in a text in which `call` is followed by a plain space at some place.
-/
namespace CypherGate.Guard

open Text

/-- The word, blanks behind it, and a name as long as can be. -/
structure CallIn (text before blanks name after : List Char) : Prop where
  split : text = before ++ 'c' :: 'a' :: 'l' :: 'l' :: (blanks ++ (name ++ after))
  blank : blanks.all isBlank
  some_blank : blanks ≠ []
  nameChar : name.all isNameChar
  some_nameChar : name ≠ []
  longest : after.head?.all (!isNameChar ·)

theorem isBlank_of_isNameChar {c : Char} (h : isNameChar c) : isBlank c = false := by
  have visible : 0x2E ≤ c.toNat ∧ c.toNat ≤ 0x7A := by
    simp only [isNameChar, Bool.or_eq_true, Bool.and_eq_true, decide_eq_true_eq, beq_iff_eq] at h
    rcases h with ((⟨low, high⟩ | ⟨low, high⟩) | rfl) | rfl
    · exact ⟨Nat.le_trans (by decide) (Char.le_def.mp low), Char.le_def.mp high⟩
    · exact ⟨Nat.le_trans (by decide) (Char.le_def.mp low),
        Nat.le_trans (Char.le_def.mp high) (by decide)⟩
    · decide
    · decide
  simp only [isBlank, isWhiteSpace, Bool.or_eq_false_iff, Bool.and_eq_false_iff,
    decide_eq_false_iff_not, beq_eq_false_iff_ne]
  omega

theorem takeWhile_name {name after : List Char} (nameChar : name.all isNameChar)
    (longest : after.head?.all (!isNameChar ·)) : (name ++ after).takeWhile isNameChar = name := by
  rw [List.takeWhile_append_of_pos (List.all_eq_true.mp nameChar)]
  cases after with
  | nil => simp
  | cons c rest =>
    have stop : isNameChar c = false := by simpa using longest
    simp [stop]

theorem dropWhile_blank (after : List Char) {blanks name : List Char} (blank : blanks.all isBlank)
    (nameChar : name.all isNameChar) (some_nameChar : name ≠ []) :
    (blanks ++ (name ++ after)).dropWhile isBlank = name ++ after := by
  rw [List.dropWhile_append_of_pos (List.all_eq_true.mp blank)]
  cases name with
  | nil => exact absurd rfl some_nameChar
  | cons c rest =>
    have begins : isNameChar c := List.all_eq_true.mp nameChar c List.mem_cons_self
    simp [isBlank_of_isNameChar begins]

theorem longest_dropWhile (s : List Char) : (s.dropWhile isNameChar).head?.all (!isNameChar ·) := by
  have stop := List.head?_dropWhile_not isNameChar s
  cases first : (s.dropWhile isNameChar).head? with
  | none => rfl
  | some c =>
    rw [first] at stop
    simpa using stop

theorem callHere?_eq_some_iff {text name : List Char} :
    callHere? text = some name ↔ ∃ blanks after, CallIn text [] blanks name after := by
  constructor
  · intro h
    unfold callHere? at h
    split at h
    · next b rest =>
      simp only [Bool.and_eq_true, Bool.not_eq_true', List.isEmpty_eq_false_iff] at h
      split at h
      · next conditions =>
        cases h
        refine ⟨b :: rest.takeWhile isBlank, (rest.dropWhile isBlank).dropWhile isNameChar, ?_⟩
        constructor
        · simp
        · simp [conditions.1]
        · simp
        · simp
        · exact conditions.2
        · exact longest_dropWhile (rest.dropWhile isBlank)
      · cases h
    · cases h
  · rintro ⟨blanks, after, call⟩
    obtain ⟨split, blank, some_blank, nameChar, some_nameChar, longest⟩ := call
    cases blanks with
    | nil => exact absurd rfl some_blank
    | cons b blanks =>
      simp only [List.all_cons, Bool.and_eq_true] at blank
      have drop := dropWhile_blank after blank.2 nameChar some_nameChar
      rw [split]
      simp [callHere?, drop, takeWhile_name nameChar longest, blank.1, some_nameChar]

theorem CallIn.cons {c : Char} {text before blanks name after : List Char}
    (h : CallIn text before blanks name after) :
    CallIn (c :: text) (c :: before) blanks name after :=
  { h with split := by rw [h.split, List.cons_append] }

theorem CallIn.of_cons {c d : Char} {text before blanks name after : List Char}
    (h : CallIn (c :: text) (d :: before) blanks name after) :
    CallIn text before blanks name after :=
  { h with split := (List.cons.inj h.split).2 }

theorem mem_calls_iff {text name : List Char} :
    name ∈ calls text ↔ ∃ before blanks after, CallIn text before blanks name after := by
  induction text with
  | nil =>
    constructor
    · intro h
      cases h
    · rintro ⟨before, blanks, after, call⟩
      simpa using call.split
  | cons c rest ih =>
    simp only [calls, List.mem_append, Option.mem_toList, callHere?_eq_some_iff, ih]
    constructor
    · rintro (⟨blanks, after, here⟩ | ⟨before, blanks, after, later⟩)
      · exact ⟨[], blanks, after, here⟩
      · exact ⟨c :: before, blanks, after, later.cons⟩
    · rintro ⟨before, blanks, after, call⟩
      cases before with
      | nil => exact .inl ⟨blanks, after, call⟩
      | cons d before => exact .inr ⟨before, blanks, after, call.of_cons⟩

/-- A call before which no other call begins. -/
def FirstCall (text before blanks name after : List Char) : Prop :=
  CallIn text before blanks name after ∧
    ∀ before' blanks' name' after', CallIn text before' blanks' name' after' →
      before.length ≤ before'.length

theorem firstCall?_eq_some {text name : List Char} (h : firstCall? text = some name) :
    ∃ before blanks after, FirstCall text before blanks name after := by
  induction text with
  | nil => cases h
  | cons c rest ih =>
    cases here : callHere? (c :: rest) with
    | some name' =>
      simp only [firstCall?, calls, here, Option.toList_some, List.cons_append, List.head?_cons,
        Option.some.injEq] at h
      subst h
      obtain ⟨blanks, after, call⟩ := callHere?_eq_some_iff.mp here
      exact ⟨[], blanks, after, call, fun _ _ _ _ _ => Nat.zero_le _⟩
    | none =>
      simp only [firstCall?, calls, here, Option.toList_none, List.nil_append] at h
      obtain ⟨before, blanks, after, call, first⟩ := ih h
      refine ⟨c :: before, blanks, after, call.cons, ?_⟩
      intro before' blanks' name' after' other
      cases before' with
      | nil =>
        have found := callHere?_eq_some_iff.mpr ⟨blanks', after', other⟩
        rw [here] at found
        cases found
      | cons d before' =>
        exact Nat.succ_le_succ (first before' blanks' name' after' other.of_cons)

namespace Policy

theorem allows_iff {p : Policy} {name : List Char} :
    p.allows name ↔ ∃ start ∈ p.procedures, start.toList <+: name := by
  simp [allows, List.any_eq_true]

theorem callRefusal?_of_safe {p : Policy} {query : String} (h : p.classify query = .safe) :
    p.callRefusal? (normalForm query) = none := by
  unfold classify judge at h
  split at h
  · cases h
  · split at h
    · cases h
    · assumption

/-- A safe query that has the marker has a first call, and this is of an allowed procedure. -/
theorem firstCall_allowed (p : Policy) (query : String) (safe : p.classify query = .safe)
    (marked : "call ".toList <:+: normalForm query) :
    ∃ before blanks name after, FirstCall (normalForm query) before blanks name after ∧
      ∃ start ∈ p.procedures, start.toList <+: name := by
  have accepted := callRefusal?_of_safe safe
  have found : occursIn "call ".toList (normalForm query) = true := occursIn_iff.mpr marked
  simp only [callRefusal?, found, Bool.not_true, Bool.false_eq_true, if_false] at accepted
  cases first : firstCall? (normalForm query) with
  | none =>
    rw [first] at accepted
    cases accepted
  | some name =>
    obtain ⟨before, blanks, after, call⟩ := firstCall?_eq_some first
    refine ⟨before, blanks, name, after, call, allows_iff.mp ?_⟩
    by_cases allowed : p.allows name
    · exact allowed
    · simp [first, allowed] at accepted

theorem firstCall_allowed_labels :
    (standard.classify "CALL db.labels() YIELD label" = .safe ∧
      "call ".toList <:+: normalForm "CALL db.labels() YIELD label") ∧
    ∃ before blanks name after,
      FirstCall (normalForm "CALL db.labels() YIELD label") before blanks name after ∧
        ∃ start ∈ standard.procedures, start.toList <+: name := by
  have form : normalForm "CALL db.labels() YIELD label" = "call db.labels() yield label".toList := by
    rw [normalForm, lower_of_ascii (by decide +kernel)]
    decide +kernel
  have safe : standard.classify "CALL db.labels() YIELD label" = .safe := by
    rw [classify, form, standard_eq]
    decide +kernel
  have marked : "call ".toList <:+: normalForm "CALL db.labels() YIELD label" := by
    rw [form]
    decide +kernel
  exact ⟨⟨safe, marked⟩, firstCall_allowed standard _ safe marked⟩

/-- Calls after the first are not looked at, and no call is where the marker is missing. -/
theorem safe_with_unlisted_calls :
    (standard.classify "CALL db.labels() CALL custom.danger()" = .safe ∧
      CallIn (normalForm "CALL db.labels() CALL custom.danger()") "call db.labels() ".toList
        " ".toList "custom.danger".toList "()".toList) ∧
    (standard.classify "MATCH (n) CALL\tcustom.danger() RETURN n" = .safe ∧
      CallIn (normalForm "MATCH (n) CALL\tcustom.danger() RETURN n") "match (n) ".toList
        "\t".toList "custom.danger".toList "() return n".toList) ∧
    ∀ start ∈ standard.procedures, ¬start.toList <+: "custom.danger".toList := by
  have second : normalForm "CALL db.labels() CALL custom.danger()" =
      "call db.labels() call custom.danger()".toList := by
    rw [normalForm, lower_of_ascii (by decide +kernel)]
    decide +kernel
  have unmarked : normalForm "MATCH (n) CALL\tcustom.danger() RETURN n" =
      "match (n) call\tcustom.danger() return n".toList := by
    rw [normalForm, lower_of_ascii (by decide +kernel)]
    decide +kernel
  rw [classify, classify, second, unmarked, standard_eq]
  refine ⟨⟨by decide +kernel, ?_⟩, ⟨by decide +kernel, ?_⟩, by decide +kernel⟩
  · constructor <;> decide +kernel
  · constructor <;> decide +kernel

end Policy

end CypherGate.Guard
