import CypherGate.Number.FloatText
import CypherGate.Proofs.ShortestDecimal
/-!
# Numbers as text, and back

A text of digits spells their values. A float is written with the digits of its shortest decimal, with a
point among them or an exponent after them; whichever layout it is, reading sees a decimal of the same
value, and a number that is no integer.
-/
namespace CypherGate

namespace Text

/-- A text of ASCII digits and their values. -/
def Spells (s : List Char) (ds : List Nat) : Prop := s.map asciiDigit? = ds.map some

def NoDigit (rest : List Char) : Prop := ∀ c ∈ rest.head?, asciiDigit? c = none

namespace Spells

variable {s t : List Char} {ds es : List Nat}

theorem append (h : Spells s ds) (k : Spells t es) : Spells (s ++ t) (ds ++ es) := by
  unfold Spells at *
  rw [List.map_append, List.map_append, h, k]

theorem take (h : Spells s ds) (k : Nat) : Spells (s.take k) (ds.take k) := by
  unfold Spells at *
  rw [List.map_take, List.map_take, h]

theorem drop (h : Spells s ds) (k : Nat) : Spells (s.drop k) (ds.drop k) := by
  unfold Spells at *
  rw [List.map_drop, List.map_drop, h]

theorem zeros (k : Nat) : Spells (List.replicate k '0') (List.replicate k 0) := by
  unfold Spells
  rw [List.map_replicate, List.map_replicate]
  rfl

theorem digit {n : Nat} (h : n < 10) : Spells [Nat.digitChar n] [n] := by
  have : ∀ n < 10, asciiDigit? (Nat.digitChar n) = some n := by decide
  simp [Spells, this n h]

theorem length (h : Spells s ds) : s.length = ds.length := by
  simpa using congrArg List.length h

theorem isSome (h : Spells s ds) : ∀ c ∈ s, (asciiDigit? c).isSome := by
  intro c hc
  have mem : asciiDigit? c ∈ ds.map some := h ▸ List.mem_map_of_mem hc
  obtain ⟨d, -, hd⟩ := List.mem_map.mp mem
  simp [← hd]

theorem filterMap (h : Spells s ds) : s.filterMap asciiDigit? = ds := by
  have : (s.map asciiDigit?).filterMap id = (ds.map some).filterMap id := congrArg _ h
  simpa [List.filterMap_map] using this

theorem cons_head (h : Spells s ds) {d : Nat} {es : List Nat} (hd : ds = d :: es) :
    ∃ c t, s = c :: t ∧ asciiDigit? c = some d ∧ Spells t es := by
  subst hd
  cases s with
  | nil => simp [Spells] at h
  | cons c t =>
    simp only [Spells, List.map_cons, List.cons.injEq] at h
    exact ⟨c, t, rfl, h⟩

end Spells

theorem foldl_digits (n : Nat) (ds : List Nat) :
    ds.foldl (fun n d => 10 * n + d) n = n * 10 ^ ds.length + digitsValue ds := by
  induction ds generalizing n with
  | nil => simp [digitsValue]
  | cons d ds ih =>
    have first : digitsValue (d :: ds) = d * 10 ^ ds.length + digitsValue ds := by
      rw [digitsValue, List.foldl_cons, ih, Nat.mul_zero, Nat.zero_add]
    rw [List.foldl_cons, ih, first, List.length_cons]
    ring

theorem digitsValue_append (ds es : List Nat) :
    digitsValue (ds ++ es) = digitsValue ds * 10 ^ es.length + digitsValue es := by
  rw [digitsValue, List.foldl_append, foldl_digits]
  rfl

@[simp] theorem digitsValue_singleton (d : Nat) : digitsValue [d] = d := by simp [digitsValue]

@[simp] theorem digitsValue_zeros (k : Nat) : digitsValue (List.replicate k 0) = 0 := by
  induction k with
  | zero => rfl
  | succ k ih =>
    rw [List.replicate_succ', digitsValue_append, ih]
    rfl

/-- The digits of a numeral: those of its number, without zeros in front. -/
structure Numeral (n : Nat) (s : List Char) (ds : List Nat) : Prop where
  spelled : Spells s ds
  value : digitsValue ds = n
  nonempty : ds ≠ []
  leading : ds.head? = some 0 → n = 0 ∧ ds = [0]

theorem decimal_numeral (n : Nat) : ∃ ds, Numeral n (decimal n) ds := by
  induction n using decimal.induct with
  | case1 n small =>
    rw [decimal, if_pos small]
    refine ⟨[n], .digit small, by simp [digitsValue], by simp, ?_⟩
    rintro ⟨⟩
    exact ⟨rfl, rfl⟩
  | case2 n large ih =>
    obtain ⟨ds, spelled, value, nonempty, leading⟩ := ih
    rw [decimal, if_neg large]
    refine ⟨ds ++ [n % 10], spelled.append (.digit (Nat.mod_lt _ (by decide))), ?_, by simp, ?_⟩
    · rw [digitsValue_append, value]
      simp [digitsValue]
      omega
    · intro head
      rw [List.head?_append_of_ne_nil _ nonempty] at head
      have := (leading head).1
      omega

end Text

namespace FloatStyle

open Text

variable {s rest : List Char} {ds : List Nat}

theorem digitPart_append (h : Spells s ds) (stop : NoDigit rest) :
    digitPart (s ++ rest) = (ds, rest) := by
  have digits := h.isSome
  unfold digitPart
  rw [List.span_eq_takeWhile_dropWhile, List.takeWhile_append_of_pos digits,
    List.dropWhile_append_of_pos digits]
  cases rest with
  | nil => simp [h.filterMap]
  | cons c rest =>
    have : asciiDigit? c = none := stop c rfl
    simp [this, h.filterMap]

/-- What may come after a number. -/
def Ends (rest : List Char) : Prop :=
  ∀ c ∈ rest.head?, asciiDigit? c = none ∧ c ≠ '.' ∧ c ≠ 'e' ∧ c ≠ 'E'

theorem Ends.noDigit (h : Ends rest) : NoDigit rest := fun c hc => (h c hc).1

theorem noDigit_cons {c : Char} (h : asciiDigit? c = none) : NoDigit (c :: rest) := by
  rintro d ⟨⟩
  exact h

theorem fractionPart_of_ne (h : ∀ c ∈ rest.head?, c ≠ '.') : fractionPart rest = some ([], rest) := by
  unfold fractionPart
  split
  next t => exact absurd rfl (h '.' rfl)
  next => rfl

theorem fractionPart_append (h : Spells s ds) (nonempty : ds ≠ []) (stop : NoDigit rest) :
    fractionPart ('.' :: (s ++ rest)) = some (ds, rest) := by
  rw [fractionPart, digitPart_append h stop]
  simp [nonempty]

theorem exponentPart_of_ends (h : Ends rest) : exponentPart rest = some (0, rest) := by
  unfold exponentPart
  split
  next c t =>
    have ends := h c rfl
    rw [if_neg (by tauto)]
  next => rfl

theorem exponentPart_append (negative : Bool) (h : Spells s ds) (nonempty : ds ≠ [])
    (stop : NoDigit rest) :
    exponentPart ('e' :: (if negative then '-' else '+') :: (s ++ rest)) =
      some (applySign negative (digitsValue ds), rest) := by
  have sign : takeSign ((if negative then '-' else '+') :: (s ++ rest)) = (negative, s ++ rest) := by
    cases negative <;> rfl
  rw [exponentPart, if_pos (.inl rfl), sign]
  simp [digitPart_append h stop, nonempty]

theorem readNumber_of_parts {fs : List Nat} {e : ℤ} {after after' : List Char} (negative : Bool)
    (whole : Spells s ds) (nonempty : ds ≠ []) (stop : NoDigit after)
    (fraction : fractionPart after = some (fs, after'))
    (exponent : exponentPart after' = some (e, rest)) :
    readNumber (sign negative ++ (s ++ after)) =
      some (⟨negative, ds, fs, e, rest.length == after.length⟩, rest) := by
  have signed : takeMinus (sign negative ++ (s ++ after)) = (negative, s ++ after) := by
    cases negative with
    | true => rfl
    | false =>
      obtain ⟨d, es, hd⟩ := List.exists_cons_of_ne_nil nonempty
      obtain ⟨c, t, rfl, digit, -⟩ := whole.cons_head hd
      have : c ≠ '-' := by
        rintro rfl
        cases digit
      simp [sign, takeMinus, this]
  unfold readNumber
  rw [signed]
  simp [digitPart_append whole stop, nonempty, fraction, exponent]

theorem readNumber_of_noDigit (h : NoDigit (takeMinus s).2) : readNumber s = none := by
  have spelled : Spells [] [] := rfl
  have none := digitPart_append spelled h
  unfold readNumber
  rw [List.nil_append] at none
  simp [none]

theorem head_of_readNumber {r : Written × List Char} (h : readNumber s = some r) :
    ∃ c t, (s = c :: t ∨ s = '-' :: c :: t) ∧ '0' ≤ c ∧ c ≤ '9' := by
  have digit : ∃ c t, (takeMinus s).2 = c :: t ∧ (asciiDigit? c).isSome := by
    by_contra none
    have stop : NoDigit (takeMinus s).2 := by
      intro c hc
      by_contra some
      obtain ⟨t, ht⟩ := List.head?_eq_some_iff.mp hc
      exact none ⟨c, t, ht, Option.isSome_iff_ne_none.mpr some⟩
    rw [readNumber_of_noDigit stop] at h
    cases h
  obtain ⟨c, t, body, isSome⟩ := digit
  refine ⟨c, t, ?_, ?_⟩
  · unfold takeMinus at body
    split at body
    · exact .inr (congrArg _ body)
    · exact .inl body
  · unfold asciiDigit? at isSome
    split at isSome
    · assumption
    · cases isSome

/-- What was read has a sign and a value, and is not an integer. -/
structure Written.Denotes (w : Written) (negative : Bool) (v : ℚ) : Prop where
  sign : w.negative = negative
  value : Binary64.Decimal.value
    ⟨digitsValue (w.whole ++ w.fraction), w.exponent - w.fraction.length⟩ = v
  broken : w.integral = false
  leading : w.whole.head? = some 0 → w.whole.length = 1

/-- A text that is read as a value with either sign before it. -/
def Reads (s : List Char) (v : ℚ) : Prop :=
  ∀ negative rest, Ends rest →
    ∃ w, readNumber (sign negative ++ (s ++ rest)) = some (w, rest) ∧ w.Denotes negative v

theorem reads_of_parts (f x : List Char) {fs : List Nat} {e : ℤ} (whole : Spells s ds)
    (nonempty : ds ≠ []) (leading : ds.head? = some 0 → ds.length = 1)
    (stop : ∀ rest, Ends rest → NoDigit (f ++ (x ++ rest)))
    (fraction : ∀ rest, Ends rest → fractionPart (f ++ (x ++ rest)) = some (fs, x ++ rest))
    (exponent : ∀ rest, Ends rest → exponentPart (x ++ rest) = some (e, rest))
    (broken : f ++ x ≠ []) :
    Reads (s ++ (f ++ x)) (digitsValue (ds ++ fs) * 10 ^ (e - fs.length)) := by
  intro negative rest ends
  have read := readNumber_of_parts negative whole nonempty (stop rest ends) (fraction rest ends)
    (exponent rest ends)
  have longer : rest.length ≠ (f ++ (x ++ rest)).length := by
    have := List.length_pos_of_ne_nil broken
    simp only [List.length_append] at this ⊢
    omega
  have assoc : s ++ (f ++ x) ++ rest = s ++ (f ++ (x ++ rest)) := by simp
  rw [assoc]
  exact ⟨_, read, rfl, rfl, beq_eq_false_iff_ne.mpr longer, leading⟩

theorem reads_with_fraction {f : List Char} {fs : List Nat} (whole : Spells s ds)
    (nonempty : ds ≠ []) (leading : ds.head? = some 0 → ds.length = 1) (spelled : Spells f fs)
    (nonempty' : fs ≠ []) :
    Reads (s ++ '.' :: f) (digitsValue (ds ++ fs) * 10 ^ (-fs.length : ℤ)) := by
  have h := reads_of_parts ('.' :: f) [] whole nonempty leading
    (fun rest ends => noDigit_cons rfl)
    (fun rest ends => fractionPart_append spelled nonempty' ends.noDigit)
    (fun rest ends => exponentPart_of_ends ends) (by simp)
  simpa using h

section

variable {n : Nat} {point : ℤ}

theorem point_before_reads (h : Numeral n s ds) (before : point ≤ 0) :
    Reads ('0' :: '.' :: List.replicate point.natAbs '0' ++ s) (n * 10 ^ (point - ds.length)) := by
  obtain ⟨spelled, value, nonempty, -⟩ := h
  have zero_spelled : Spells ['0'] [0] := .zeros 1
  have read := reads_with_fraction zero_spelled (by simp) (fun _ => rfl)
    ((Spells.zeros point.natAbs).append spelled) (by simp [nonempty])
  have number : digitsValue ([0] ++ (List.replicate point.natAbs 0 ++ ds)) = n := by
    rw [digitsValue_append, digitsValue_append, value]
    simp
  have exponent : -((List.replicate point.natAbs 0 ++ ds).length : ℤ) = point - ds.length := by
    rw [List.length_append, List.length_replicate]
    omega
  rw [number, exponent] at read
  simpa using read

theorem point_behind_reads (h : Numeral n s ds) (zero : n = 0 → point = 1) (after : 0 < point)
    (filled : s.length ≤ point.natAbs) :
    Reads (s ++ List.replicate (point.natAbs - s.length) '0' ++ ['.', '0'])
      (n * 10 ^ (point - ds.length)) := by
  obtain ⟨spelled, value, nonempty, leading⟩ := h
  have length := spelled.length
  have zero_spelled : Spells ['0'] [0] := .zeros 1
  generalize zeros : point.natAbs - s.length = k
  have single : (ds ++ List.replicate k 0).head? = some 0 →
      (ds ++ List.replicate k 0).length = 1 := by
    intro head
    rw [List.head?_append_of_ne_nil _ nonempty] at head
    obtain ⟨rfl, rfl⟩ := leading head
    obtain rfl := zero rfl
    simp at length zeros ⊢
    omega
  have read := reads_with_fraction (spelled.append (.zeros k)) (by simp [nonempty]) single
    zero_spelled (by simp)
  have number : digitsValue (ds ++ List.replicate k 0 ++ [0]) = n * 10 ^ k * 10 := by
    rw [digitsValue_append, digitsValue_append, value]
    simp
  have exponent : point - ds.length = k := by omega
  have amount : ((n * 10 ^ k * 10 : ℕ) : ℚ) * 10 ^ (-([0] : List Nat).length : ℤ) =
      n * 10 ^ (point - ds.length) := by
    rw [exponent, zpow_natCast, List.length_singleton, Nat.cast_one, zpow_neg_one]
    push_cast
    ring
  rw [number, amount] at read
  simpa using read

theorem point_inside_reads (h : Numeral n s ds) (zero : n = 0 → point = 1) (after : 0 < point)
    (inside : point.natAbs < s.length) :
    Reads (s.take point.natAbs ++ '.' :: s.drop point.natAbs) (n * 10 ^ (point - ds.length)) := by
  obtain ⟨spelled, value, nonempty, leading⟩ := h
  have length := spelled.length
  have taken : (ds.take point.natAbs).length = point.natAbs := by
    rw [List.length_take]
    omega
  have single : (ds.take point.natAbs).head? = some 0 → (ds.take point.natAbs).length = 1 := by
    intro head
    rw [List.head?_take, if_neg (by omega)] at head
    obtain rfl := zero (leading head).1
    exact taken
  have read := reads_with_fraction (spelled.take point.natAbs)
    (List.ne_nil_of_length_pos (by omega)) single (spelled.drop point.natAbs)
    (List.ne_nil_of_length_pos (by rw [List.length_drop]; omega))
  have exponent : -((ds.drop point.natAbs).length : ℤ) = point - ds.length := by
    rw [List.length_drop]
    omega
  rw [List.take_append_drop, value, exponent] at read
  exact read

theorem positional_reads (h : Numeral n s ds) (zero : n = 0 → point = 1) :
    Reads (positional s point) (n * 10 ^ (point - ds.length)) := by
  unfold positional
  simp only
  split
  next before => exact point_before_reads h before
  next after =>
    have after := Int.not_le.mp after
    split
    next filled => exact point_behind_reads h zero after filled
    next inside => exact point_inside_reads h zero after (Nat.not_le.mp inside)

end

theorem size_spells (n : Nat) :
    ∃ xs, Spells (if (decimal n).length < 2 then '0' :: decimal n else decimal n) xs ∧
      digitsValue xs = n ∧ xs ≠ [] := by
  obtain ⟨ds, spelled, value, nonempty, -⟩ := decimal_numeral n
  split
  · have padded : Spells ['0'] [0] := .zeros 1
    refine ⟨[0] ++ ds, padded.append spelled, ?_, by simp⟩
    rw [digitsValue_append, value]
    simp
  · exact ⟨ds, spelled, value, nonempty⟩

theorem exponentPart_text (e : ℤ) (ends : Ends rest) :
    exponentPart (exponentText e ++ rest) = some (e, rest) := by
  obtain ⟨xs, spelled, value, nonempty⟩ := size_spells e.natAbs
  have read := exponentPart_append (decide (e < 0)) spelled nonempty ends.noDigit
  have signed : applySign (decide (e < 0)) (digitsValue xs) = e := by
    rw [value, applySign]
    split
    next negative =>
      have := of_decide_eq_true negative
      omega
    next nonnegative =>
      have := of_decide_eq_false (eq_false_of_ne_true nonnegative)
      omega
  rw [signed] at read
  simpa [exponentText] using read

theorem scientific_reads {n : Nat} (point : ℤ) (h : Numeral n s ds) :
    Reads (scientific s point) (n * 10 ^ (point - ds.length)) := by
  obtain ⟨spelled, value, nonempty, -⟩ := h
  obtain ⟨d, es, rfl⟩ := List.exists_cons_of_ne_nil nonempty
  obtain ⟨c, t, rfl, digit, tail⟩ := spelled.cons_head rfl
  have first : Spells [c] [d] := by simp [Spells, digit]
  have exponent := fun rest (ends : Ends rest) => exponentPart_text (point - 1) ends
  have stop : ∀ rest, NoDigit (exponentText (point - 1) ++ rest) := fun rest => noDigit_cons rfl
  have shift : point - 1 - es.length = point - (d :: es).length := by
    rw [List.length_cons]
    omega
  unfold scientific
  cases t with
  | nil =>
    obtain rfl : es = [] := by simpa [Spells] using tail
    have read := reads_of_parts [] (exponentText (point - 1)) first (by simp) (fun _ => rfl)
      (fun rest _ => stop rest) (fun rest _ => fractionPart_of_ne (by simp [exponentText])) exponent
      (by simp [exponentText])
    rw [List.append_nil, value, shift] at read
    exact read
  | cons c' t' =>
    have more : es ≠ [] := by
      rintro rfl
      simp [Spells] at tail
    have read := reads_of_parts ('.' :: c' :: t') (exponentText (point - 1)) first (by simp)
      (fun _ => rfl) (fun rest _ => noDigit_cons rfl)
      (fun rest _ => fractionPart_append tail more (stop rest)) exponent (by simp)
    rw [List.singleton_append, List.singleton_append, value, shift] at read
    exact read

theorem magnitudeText_reads (style : FloatStyle) (n : Nat) :
    Reads (style.magnitudeText n) (Binary64.shortest n).value := by
  obtain ⟨ds, numeral⟩ := decimal_numeral (Binary64.shortest n).coefficient
  have length := numeral.spelled.length
  have value : (Binary64.shortest n).value = (Binary64.shortest n).coefficient *
      10 ^ ((Binary64.shortest n).exponent + (decimal (Binary64.shortest n).coefficient).length
        - ds.length) := by
    rw [length, add_sub_cancel_right]
    rfl
  unfold magnitudeText
  simp only
  rw [value]
  split
  · refine positional_reads numeral fun zero => ?_
    rw [Binary64.shortest_of_coefficient_eq_zero zero]
    simp [decimal]
  · exact scientific_reads _ numeral

theorem signedDecimal_reads (n : ℤ) (ends : Ends rest) :
    ∃ w, readNumber (signedDecimal n ++ rest) = some (w, rest) ∧
      applySign w.negative (digitsValue w.whole) = n ∧ w.integral = true ∧
      (w.whole.head? = some 0 → w.whole.length = 1) ∧
      w.whole.length ≤ (signedDecimal n).length := by
  have digits : ∀ negative k, applySign negative k = n →
      signedDecimal n = sign negative ++ decimal k →
      ∃ w, readNumber (signedDecimal n ++ rest) = some (w, rest) ∧
        applySign w.negative (digitsValue w.whole) = n ∧ w.integral = true ∧
        (w.whole.head? = some 0 → w.whole.length = 1) ∧
        w.whole.length ≤ (signedDecimal n).length := by
    intro negative k signed written
    obtain ⟨ds, spelled, value, nonempty, leading⟩ := decimal_numeral k
    have read := readNumber_of_parts negative spelled nonempty ends.noDigit
      (fractionPart_of_ne fun c hc => (ends c hc).2.1) (exponentPart_of_ends ends)
    rw [written, List.append_assoc]
    refine ⟨_, read, by rw [value]; exact signed, by simp, fun head => ?_, ?_⟩
    · rw [(leading head).2]
      rfl
    · rw [List.length_append, spelled.length]
      exact Nat.le_add_left _ _
  cases n with
  | ofNat k => exact digits false k rfl rfl
  | negSucc k => exact digits true (k + 1) rfl rfl

theorem text_reads (style : FloatStyle) (negative : Bool) (n : Fin magnitudeCount)
    (ends : Ends rest) :
    ∃ w, readNumber (style.text (.finite negative n) ++ rest) = some (w, rest) ∧
      w.value = .finite negative n ∧ w.integral = false ∧
      (w.whole.head? = some 0 → w.whole.length = 1) := by
  obtain ⟨w, read, rfl, value, broken, leading⟩ := magnitudeText_reads style n negative rest ends
  refine ⟨w, by rw [text, List.append_assoc, read], ?_, broken, leading⟩
  have rounds := Binary64.shortest_rounds n
  rw [← value] at rounds
  exact Binary64.ofDecimal_of_rounds rounds n.isLt w.negative

end FloatStyle

end CypherGate
