import CypherGate.Text.Blank
import CypherGate.Text.Case
import Mathlib.Data.List.Forall2
/-!
# Lower case and its surroundings

Only a capital sigma looks at the text around it, and only cased and case-ignorable characters count for
it. Blanks are neither, and the two forms of an ASCII letter count alike. What has been lower-cased stays
as it is when it is lower-cased again.
-/
namespace CypherGate.Text

theorem lowerAfter_append {s : List Char} (noSigma : '\u03A3' ∉ s) (before rest : List Char) :
    lowerAfter before (s ++ rest) = s.flatMap lowerChar ++ lowerAfter (s.reverse ++ before) rest := by
  induction s generalizing before with
  | nil => rfl
  | cons c s ih =>
    have here : c ≠ '\u03A3' := fun h => noSigma (h ▸ List.mem_cons_self)
    have later : '\u03A3' ∉ s := fun h => noSigma (List.mem_cons_of_mem c h)
    rw [List.cons_append, lowerAfter, if_neg here, ih later]
    simp

theorem lower_of_noSigma {s : List Char} (noSigma : '\u03A3' ∉ s) : lower s = s.flatMap lowerChar := by
  simpa [lower, lowerAfter] using lowerAfter_append noSigma [] []

theorem lower_infix {s : List Char} (noSigma : '\u03A3' ∉ s) (front back : List Char) :
    lower s <:+: lower (front ++ (s ++ back)) := by
  rw [lower_of_noSigma noSigma, lower]
  generalize ([] : List Char) = before
  induction front generalizing before with
  | nil =>
    rw [List.nil_append, lowerAfter_append noSigma]
    exact (List.prefix_append _ _).isInfix
  | cons c front ih =>
    rw [List.cons_append, lowerAfter]
    exact (ih (c :: before)).trans (List.suffix_append _ _).isInfix

/-! ## Lower-cased characters -/

/-- A character that lower-casing leaves as it is, wherever it stands. -/
def Lowered (c : Char) : Prop := c ≠ '\u03A3' ∧ lowerChar c = [c]

instance (c : Char) : Decidable (Lowered c) := inferInstanceAs (Decidable (_ ∧ _))

theorem noSigma_of_lowered {s : List Char} (h : ∀ c ∈ s, Lowered c) : '\u03A3' ∉ s :=
  fun sigma => (h _ sigma).1 rfl

theorem flatMap_of_lowered {s : List Char} (h : ∀ c ∈ s, Lowered c) : s.flatMap lowerChar = s := by
  induction s with
  | nil => rfl
  | cons c s ih =>
    rw [List.flatMap_cons, (h c List.mem_cons_self).2, ih fun d hd => h d (List.mem_cons_of_mem c hd)]
    rfl

theorem lowerAfter_of_lowered {s : List Char} (h : ∀ c ∈ s, Lowered c) (before rest : List Char) :
    lowerAfter before (s ++ rest) = s ++ lowerAfter (s.reverse ++ before) rest := by
  rw [lowerAfter_append (noSigma_of_lowered h), flatMap_of_lowered h]

theorem lower_of_lowered {s : List Char} (h : ∀ c ∈ s, Lowered c) : lower s = s := by
  rw [lower_of_noSigma (noSigma_of_lowered h), flatMap_of_lowered h]

/-- The characters that a run maps. -/
def CaseRun.Has (r : CaseRun) (n : Nat) : Prop :=
  r.first ≤ n ∧ n ≤ r.last ∧ (n - r.first) % r.step = 0

instance (r : CaseRun) (n : Nat) : Decidable (r.Has n) := inferInstanceAs (Decidable (_ ∧ _ ∧ _))

theorem CaseRun.image?_eq_some_iff {r : CaseRun} {n m : Nat} :
    r.image? n = some m ↔ r.Has n ∧ r.image + (n - r.first) = m := by
  simp [image?, Has, and_assoc]

/-- The images of the first run are no characters of the second: they lie beside them or, where these
are every other character, between them. -/
def CaseRun.avoids (r s : CaseRun) : Bool :=
  Nat.blt s.last r.image || Nat.blt (r.image + (r.last - r.first)) s.first ||
    (s.step == 2 && (r.step == 2 || r.first == r.last) && (r.image + s.first) % 2 == 1)

theorem CaseRun.avoids_sound {r s : CaseRun} (apart : r.avoids s) {n : Nat} (has : r.Has n) :
    ¬s.Has (r.image + (n - r.first)) := by
  obtain ⟨low, high, even⟩ := has
  rintro ⟨low', high', even'⟩
  simp only [avoids, Bool.or_eq_true, Bool.and_eq_true, beq_iff_eq, Nat.blt_eq] at apart
  rcases apart with (right | left) | ⟨⟨every, some⟩, odd⟩
  · omega
  · omega
  · rw [every] at even'
    rcases some with two | single
    · rw [two] at even
      omega
    · omega

/-- All characters that lower-casing changes, capital sigma and dotted capital I among them. -/
def capitalRuns : List CaseRun := ⟨0x130, 0x130, 1, 0x69⟩ :: ⟨0x3A3, 0x3A3, 1, 0x3C3⟩ :: lowerRuns

theorem lowerRuns_avoid_capitals : lowerRuns.all fun r => capitalRuns.all r.avoids := by
  decide +kernel

theorem lowered_of_no_capital {c : Char} (h : ∀ r ∈ capitalRuns, ¬r.Has c.toNat) : Lowered c := by
  have dotted : c ≠ '\u0130' := by
    rintro rfl
    exact h _ List.mem_cons_self (by decide)
  have sigma : c ≠ '\u03A3' := by
    rintro rfl
    exact h _ (List.mem_cons_of_mem _ List.mem_cons_self) (by decide)
  have unmapped : lowerRuns.findSome? (·.image? c.toNat) = none := by
    rw [List.findSome?_eq_none_iff]
    intro r hr
    have without := h r (List.mem_cons_of_mem _ (List.mem_cons_of_mem _ hr))
    by_contra mapped
    obtain ⟨m, image⟩ := Option.ne_none_iff_exists'.mp mapped
    exact without (CaseRun.image?_eq_some_iff.mp image).1
  refine ⟨sigma, ?_⟩
  rw [lowerChar, if_neg dotted, mapByRuns, unmapped]

theorem lowered_ofNat {n : Nat} (h : ∀ r ∈ capitalRuns, ¬r.Has n) : Lowered (Char.ofNat n) := by
  by_cases valid : n.isValidChar
  · apply lowered_of_no_capital
    have same : (Char.ofNat n).toNat = n := by
      rw [Char.ofNat, dif_pos valid]
      rfl
    rwa [same]
  · rw [Char.ofNat, dif_neg valid]
    decide +kernel

theorem lowered_lowerChar {c : Char} (sigma : c ≠ '\u03A3') : ∀ d ∈ lowerChar c, Lowered d := by
  intro d hd
  by_cases dotted : c = '\u0130'
  · rw [lowerChar, if_pos dotted] at hd
    obtain rfl | rfl : d = 'i' ∨ d = '\u0307' := by simpa using hd
    · decide +kernel
    · decide +kernel
  · rw [lowerChar, if_neg dotted, List.mem_singleton] at hd
    subst hd
    rw [mapByRuns]
    split
    · next m image =>
      obtain ⟨r, hr, image⟩ := List.exists_of_findSome?_eq_some image
      obtain ⟨has, rfl⟩ := CaseRun.image?_eq_some_iff.mp image
      have avoids := List.all_eq_true.mp (List.all_eq_true.mp lowerRuns_avoid_capitals r hr)
      exact lowered_ofNat fun s hs => CaseRun.avoids_sound (avoids s hs) has
    · next none =>
      refine ⟨sigma, ?_⟩
      rw [lowerChar, if_neg dotted, mapByRuns, none]

theorem lowered_lowerSigma (before after : List Char) : Lowered (lowerSigma before after) := by
  unfold lowerSigma
  split
  · decide +kernel
  · decide +kernel

theorem lowered_lowerAfter (before s : List Char) : ∀ d ∈ lowerAfter before s, Lowered d := by
  induction s generalizing before with
  | nil => simp [lowerAfter]
  | cons c s ih =>
    intro d hd
    rw [lowerAfter, List.mem_append] at hd
    rcases hd with here | later
    · by_cases sigma : c = '\u03A3'
      · rw [if_pos sigma, List.mem_singleton] at here
        exact here ▸ lowered_lowerSigma before s
      · rw [if_neg sigma] at here
        exact lowered_lowerChar sigma d here
    · exact ih (c :: before) d later

theorem lowered_lower (s : List Char) : ∀ d ∈ lower s, Lowered d := lowered_lowerAfter [] s

theorem lower_lower (s : List Char) : lower (lower s) = lower s :=
  lower_of_lowered (lowered_lower s)

def blankNumbers : List Nat :=
  List.range' 0x09 5 ++ List.range' 0x1C 5 ++ [0x85, 0xA0, 0x1680] ++ List.range' 0x2000 11 ++
    [0x2028, 0x2029, 0x202F, 0x205F, 0x3000]

theorem mem_blankNumbers {c : Char} (blank : isBlank c) : c.toNat ∈ blankNumbers := by
  simp only [isBlank, isWhiteSpace, Bool.or_eq_true, Bool.and_eq_true, decide_eq_true_eq,
    beq_iff_eq] at blank
  simp only [blankNumbers, List.mem_append, List.mem_range'_1, List.mem_cons, List.not_mem_nil,
    or_false]
  omega

theorem blankNumbers_beside_capitals : capitalRuns.all fun r => blankNumbers.all fun n =>
    Nat.blt n r.first || Nat.blt r.last n := by
  decide +kernel

theorem lowered_of_isBlank {c : Char} (blank : isBlank c) : Lowered c := by
  refine lowered_of_no_capital fun r hr has => ?_
  obtain ⟨low, high, -⟩ := has
  have beside := List.all_eq_true.mp (List.all_eq_true.mp blankNumbers_beside_capitals r hr) c.toNat
    (mem_blankNumbers blank)
  simp only [Bool.or_eq_true, Nat.blt_eq] at beside
  omega

theorem blankNumbers_caseless : ∀ n ∈ blankNumbers,
    isCased (Char.ofNat n) = false ∧ isCaseIgnorable (Char.ofNat n) = false := by
  decide +kernel

theorem caseless_of_isBlank {c : Char} (blank : isBlank c) :
    isCased c = false ∧ isCaseIgnorable c = false := by
  have caseless := blankNumbers_caseless c.toNat (mem_blankNumbers blank)
  rwa [Char.ofNat_toNat] at caseless

theorem lowered_of_blank {s : List Char} (blank : s.all isBlank) : ∀ c ∈ s, Lowered c :=
  fun c hc => lowered_of_isBlank (List.all_eq_true.mp blank c hc)

/-! ## The case of ASCII letters -/

/-- The same character, or the other form of an ASCII letter. No other letter has two forms here. -/
def SameLetter (c d : Char) : Prop := d = c ∨ d = c.toLower ∨ d = c.toUpper

instance (c d : Char) : Decidable (SameLetter c d) := inferInstanceAs (Decidable (_ ∨ _ ∨ _))

theorem toLower_of_not_ascii {c : Char} (h : ¬isAscii c) : c.toLower = c := by
  refine dif_neg fun upper => h (decide_eq_true ?_)
  exact Nat.lt_of_le_of_lt (UInt32.le_iff_toNat_le.mp upper.2) (by decide)

theorem toUpper_of_not_ascii {c : Char} (h : ¬isAscii c) : c.toUpper = c := by
  refine dif_neg fun lower => h (decide_eq_true ?_)
  exact Nat.lt_of_le_of_lt (UInt32.le_iff_toNat_le.mp lower.2) (by decide)

/-- What lower-casing asks of a character. -/
structure Alike (c d : Char) : Prop where
  sigma : c = '\u03A3' ↔ d = '\u03A3'
  lower : lowerChar c = lowerChar d
  cased : isCased c = isCased d
  ignorable : isCaseIgnorable c = isCaseIgnorable d

theorem Alike.refl (c : Char) : Alike c c := ⟨.rfl, rfl, rfl, rfl⟩

theorem ne_of_isAscii {c d : Char} (ascii : isAscii c) (beyond : ¬isAscii d) : c ≠ d := by
  rintro rfl
  exact beyond ascii

theorem noSigma_of_ascii {s : List Char} (ascii : s.all isAscii) : '\u03A3' ∉ s :=
  fun sigma => ne_of_isAscii (List.all_eq_true.mp ascii _ sigma) (by decide) rfl

theorem lowerChar_of_ascii {c : Char} (ascii : isAscii c) : lowerChar c = [c.toLower] := by
  rw [lowerChar, if_neg (ne_of_isAscii ascii (by decide)), mapByRuns_of_ascii ascii]

/-- Within ASCII, the same letter with the same part in what decides on a sigma. -/
def AsciiAlike (c d : Char) : Prop :=
  isAscii d ∧ c.toLower = d.toLower ∧ isCased c = isCased d ∧ isCaseIgnorable c = isCaseIgnorable d

instance (c d : Char) : Decidable (AsciiAlike c d) := inferInstanceAs (Decidable (_ ∧ _ ∧ _ ∧ _))

theorem ascii_forms : ∀ n < 0x80, AsciiAlike (Char.ofNat n) (Char.ofNat n).toLower ∧
    AsciiAlike (Char.ofNat n) (Char.ofNat n).toUpper := by
  decide +kernel

theorem AsciiAlike.alike {c d : Char} (ascii : isAscii c) (h : AsciiAlike c d) : Alike c d := by
  obtain ⟨ascii', lower, cased, ignorable⟩ := h
  refine ⟨?_, ?_, cased, ignorable⟩
  · exact iff_of_false (ne_of_isAscii ascii (by decide)) (ne_of_isAscii ascii' (by decide))
  · rw [lowerChar_of_ascii ascii, lowerChar_of_ascii ascii', lower]

theorem SameLetter.alike {c d : Char} (h : SameLetter c d) : Alike c d := by
  by_cases ascii : isAscii c
  · have forms := ascii_forms c.toNat (of_decide_eq_true ascii)
    rw [Char.ofNat_toNat] at forms
    rcases h with rfl | rfl | rfl
    · exact .refl d
    · exact forms.1.alike ascii
    · exact forms.2.alike ascii
  · rw [SameLetter, toLower_of_not_ascii ascii, toUpper_of_not_ascii ascii] at h
    obtain rfl : d = c := by simpa using h
    exact .refl d

theorem meetsCased_cons (c : Char) (s : List Char) :
    meetsCased (c :: s) = if isCaseIgnorable c then meetsCased s else isCased c := by
  unfold meetsCased
  by_cases ignorable : isCaseIgnorable c
  · rw [List.dropWhile_cons_of_pos ignorable, if_pos ignorable]
  · rw [List.dropWhile_cons_of_neg ignorable, if_neg ignorable]

theorem meetsCased_of_blank {s : List Char} (blank : s.all isBlank) : meetsCased s = false := by
  cases s with
  | nil => rfl
  | cons c s =>
    obtain ⟨cased, ignorable⟩ := caseless_of_isBlank (List.all_eq_true.mp blank c List.mem_cons_self)
    rw [meetsCased_cons, ignorable, cased]
    rfl

theorem meetsCased_variant {s t far : List Char} (same : List.Forall₂ SameLetter s t)
    (blank : far.all isBlank) : meetsCased (t ++ far) = meetsCased s := by
  induction same with
  | nil => exact meetsCased_of_blank blank
  | cons here _ ih =>
    rw [List.cons_append, meetsCased_cons, meetsCased_cons, ih, here.alike.cased, here.alike.ignorable]

theorem lowerAfter_variant {s t before before' front back : List Char}
    (same : List.Forall₂ SameLetter s t) (same_before : List.Forall₂ SameLetter before before')
    (blank_front : front.all isBlank) (blank_back : back.all isBlank) :
    lowerAfter (before' ++ front) (t ++ back) = lowerAfter before s ++ back := by
  -- The text before is kept nearest character first, so the blanks in front are at its far end.
  induction same generalizing before before' with
  | nil =>
    have unchanged := lowerAfter_of_lowered (lowered_of_blank blank_back) (before' ++ front) []
    simpa [lowerAfter] using unchanged
  | @cons c d s t here later ih =>
    have alike := here.alike
    have rest := ih (same_before.cons here)
    simp only [List.cons_append] at rest
    have sigma : lowerSigma (before' ++ front) (t ++ back) = lowerSigma before s := by
      rw [lowerSigma, lowerSigma, meetsCased_variant same_before blank_front,
        meetsCased_variant later blank_back]
    rw [List.cons_append, lowerAfter, lowerAfter, rest, sigma, alike.lower, List.append_assoc]
    simp only [alike.sigma]

/-- Blanks around a text and the case of ASCII letters make no difference to its lower case. -/
theorem lower_variant {s t front back : List Char} (same : List.Forall₂ SameLetter s t)
    (blank_front : front.all isBlank) (blank_back : back.all isBlank) :
    lower (front ++ (t ++ back)) = front ++ (lower s ++ back) := by
  have blank_before : front.reverse.all isBlank := by simpa using blank_front
  have rest := lowerAfter_variant same .nil blank_before blank_back
  rw [List.nil_append] at rest
  rw [lower, lowerAfter_of_lowered (lowered_of_blank blank_front), List.append_nil, rest]
  rfl

end CypherGate.Text

namespace CypherGate

theorem lowerCase_lowerCase (s : String) : lowerCase (lowerCase s) = lowerCase s := by
  rw [lowerCase, lowerCase, String.toList_ofList, Text.lower_lower]

end CypherGate
