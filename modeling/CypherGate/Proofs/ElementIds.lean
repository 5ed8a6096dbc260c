import CypherGate.Graph.Identity
import CypherGate.Proofs.LetterCase
import Mathlib.Data.List.TakeDrop
import Mathlib.Data.List.TakeWhile
/-!
# Identities in element ids

The last part of an element id tells the identity: a run of decimal digits is the number of the entity,
and a part that has other characters than digits leaves the element id as it is. Between the two are parts
of digits that make no numeral, either because a digit has no decimal value or because there are too many.
-/
namespace CypherGate

namespace Text

variable {run rest : List Char} {ds : List Nat}

theorem other_numbers : ∀ n ∈ blankNumbers ++ ['+'.toNat, '-'.toNat, '_'.toNat],
    isDigit (Char.ofNat n) = false := by
  decide +kernel

theorem usual_of_isDigit {c : Char} (digit : isDigit c) :
    isWhiteSpace c = false ∧ c ≠ '+' ∧ c ≠ '-' ∧ c ≠ '_' := by
  have other : c.toNat ∉ blankNumbers ++ ['+'.toNat, '-'.toNat, '_'.toNat] := by
    intro member
    have none := other_numbers c.toNat member
    rw [Char.ofNat_toNat, digit] at none
    cases none
  simp only [List.mem_append, List.mem_cons, List.not_mem_nil, or_false, not_or] at other
  obtain ⟨blank, plus, minus, underscore⟩ := other
  refine ⟨Bool.eq_false_iff.mpr fun white => ?_, ?_, ?_, ?_⟩
  · exact blank (mem_blankNumbers (isBlank_of_isWhiteSpace white))
  · rintro rfl
    exact plus rfl
  · rintro rfl
    exact minus rfl
  · rintro rfl
    exact underscore rfl

theorem isDigit_of_decimal {c : Char} (decimal : (decimalValue? c).isSome) : isDigit c := by
  simp [isDigit, decimal]

theorem exists_cut (p : Char → Bool) (s : List Char) :
    ∃ run rest, s = run ++ rest ∧ (∀ c ∈ run, p c) ∧ ∀ c ∈ rest.head?, p c = false := by
  refine ⟨s.takeWhile p, s.dropWhile p, List.takeWhile_append_dropWhile.symm,
    fun c => List.mem_takeWhile_imp, fun c hc => ?_⟩
  have first := List.head?_dropWhile_not p s
  rw [Option.mem_def.mp hc] at first
  exact first

theorem takeSign_of_isDigit {c : Char} (digit : isDigit c) (s : List Char) :
    takeSign (c :: s) = (false, c :: s) := by
  obtain ⟨-, plus, minus, -⟩ := usual_of_isDigit digit
  unfold takeSign
  split
  next eq => exact absurd (List.cons.inj eq).1 minus
  next eq => exact absurd (List.cons.inj eq).1 plus
  next => rfl

theorem singleUnderscores_of_notMem {s : List Char} (none : '_' ∉ s) (inside : Bool) :
    singleUnderscores inside s = (inside || !s.isEmpty) := by
  induction s generalizing inside with
  | nil => simp [singleUnderscores]
  | cons c s ih =>
    obtain ⟨here, later⟩ := not_or.mp (mt List.mem_cons.mpr none)
    rw [singleUnderscores, if_neg (Ne.symm here), ih later]
    simp

theorem isSome_of_decimals (decimals : run.map decimalValue? = ds.map some) :
    ∀ c ∈ run, (decimalValue? c).isSome := by
  intro c hc
  have member : decimalValue? c ∈ ds.map some := decimals ▸ List.mem_map_of_mem hc
  obtain ⟨d, -, eq⟩ := List.mem_map.mp member
  simp [← eq]

theorem isDigit_of_decimals (decimals : run.map decimalValue? = ds.map some) : ∀ c ∈ run, isDigit c := by
  intro c hc
  exact isDigit_of_decimal (isSome_of_decimals decimals c hc)

theorem exists_decimals (decimal : ∀ c ∈ run, (decimalValue? c).isSome) :
    ∃ ds : List Nat, run.map decimalValue? = ds.map some := by
  induction run with
  | nil => exact ⟨[], rfl⟩
  | cons c run ih =>
    obtain ⟨here, later⟩ := List.forall_mem_cons.mp decimal
    obtain ⟨d, hd⟩ := Option.isSome_iff_exists.mp here
    obtain ⟨ds, hds⟩ := ih later
    exact ⟨d :: ds, by simp [hd, hds]⟩

theorem filterMap_of_decimals (decimals : run.map decimalValue? = ds.map some) :
    run.filterMap decimalValue? = ds := by
  have := congrArg (List.filterMap id) decimals
  simpa [List.filterMap_map] using this

theorem readInteger_of_digits (decimals : run.map decimalValue? = ds.map some)
    (digits : ∀ c ∈ run ++ rest, isDigit c) (stop : ∀ c ∈ rest.head?, decimalValue? c = none) :
    readInteger .unicode (run ++ rest) =
      if ds = [] then .error .malformed
      else if maxDigits < ds.length then .error (.tooLong ds.length)
      else if rest = [] then .ok (digitsValue ds) else .error .malformed := by
  have white : (run ++ rest).dropWhile isWhiteSpace = run ++ rest := by
    rw [List.dropWhile_eq_self_iff]
    intro nonempty
    simp [(usual_of_isDigit (digits _ (List.getElem_mem nonempty))).1]
  have sign : takeSign (run ++ rest) = (false, run ++ rest) := by
    cases h : run ++ rest with
    | nil => rfl
    | cons c s => exact takeSign_of_isDigit (digits c (h ▸ List.mem_cons_self)) s
  have inside : ∀ c ∈ run, ((decimalValue? c).isSome || c == '_') = true := by
    intro c hc
    simp [isSome_of_decimals decimals c hc]
  have outside : ∀ c ∈ rest.head?, ((decimalValue? c).isSome || c == '_') = false := by
    intro c hc
    have digit := digits c (List.mem_append_right run (List.mem_of_mem_head? hc))
    simp [stop c hc, (usual_of_isDigit digit).2.2.2]
  have span : (run ++ rest).span (fun c => (decimalValue? c).isSome || c == '_') = (run, rest) := by
    rw [List.span_eq_takeWhile_dropWhile, List.takeWhile_append_of_pos inside,
      List.dropWhile_append_of_pos inside]
    cases rest with
    | nil => simp
    | cons c rest => simp [outside c rfl]
  have single : singleUnderscores false run = !ds.isEmpty := by
    have none : '_' ∉ run := fun member =>
      (usual_of_isDigit (digits _ (List.mem_append_left rest member))).2.2.2 rfl
    have same := congrArg List.isEmpty decimals
    rw [List.isEmpty_map, List.isEmpty_map] at same
    rw [singleUnderscores_of_notMem none, Bool.false_or, same]
  have blank : rest.all isWhiteSpace = rest.isEmpty := by
    cases rest with
    | nil => rfl
    | cons c rest => simp [(usual_of_isDigit (digits c (by simp))).1]
  simp only [readInteger, Alphabet.unicode, white, sign, span, filterMap_of_decimals decimals, single,
    blank, applySign, List.isEmpty_iff, Bool.not_eq_true', Bool.not_not, gt_iff_lt]
  simp

/-- What follows the last delimiter of a text, or all of the text if it has none. -/
def LastPart (d : Char) (s part : List Char) : Prop :=
  d ∉ part ∧ (s = part ∨ ∃ front, s = front ++ d :: part)

theorem lastPart_afterLast (d : Char) (s : List Char) : LastPart d s (afterLast d s) := by
  have whole := @List.takeWhile_append_dropWhile _ (· != d) s.reverse
  have first := List.head?_dropWhile_not (· != d) s.reverse
  refine ⟨fun member => ?_, ?_⟩
  · have passes := List.mem_takeWhile_imp (List.mem_reverse.mp member)
    simp at passes
  · cases behind : s.reverse.dropWhile (· != d) with
    | nil =>
      rw [behind, List.append_nil] at whole
      exact .inl (by rw [afterLast, whole, List.reverse_reverse])
    | cons c front =>
      rw [behind] at whole first
      obtain rfl : c = d := by simpa using first
      have split := congrArg List.reverse whole
      rw [List.reverse_reverse, List.reverse_append, List.reverse_cons, List.append_assoc] at split
      exact .inr ⟨front.reverse, split.symm⟩

theorem LastPart.afterLast_eq {d : Char} {s part : List Char} (h : LastPart d s part) :
    afterLast d s = part := by
  obtain ⟨none, rfl | ⟨front, rfl⟩⟩ := h
  · exact afterLast_of_notMem none
  · exact afterLast_append_cons none

end Text

namespace Identity

open Text

/-- What an element id comes to, by its last part: a number, the element id itself or, where digits make
no numeral, neither. -/
inductive Reads (elementId : String) : Except NumeralError Identity → Prop where
  | number {part : List Char} {ds : List Nat} (last : LastPart ':' elementId.toList part)
    (decimals : part.map decimalValue? = ds.map some) (nonempty : ds ≠ [])
    (short : ds.length ≤ maxDigits) : Reads elementId (.ok (.number (digitsValue ds)))
  | name {part : List Char} (last : LastPart ':' elementId.toList part)
    (other : part = [] ∨ ∃ c ∈ part, ¬isDigit c) : Reads elementId (.ok (.name elementId))
  | malformed {run rest : List Char} {c : Char} {ds : List Nat}
    (last : LastPart ':' elementId.toList (run ++ c :: rest))
    (digits : ∀ d ∈ run ++ c :: rest, isDigit d) (decimals : run.map decimalValue? = ds.map some)
    (stop : decimalValue? c = none) (short : ds.length ≤ maxDigits) :
    Reads elementId (.error ⟨quoted (run ++ c :: rest), .malformed⟩)
  | oversized {run rest : List Char} {ds : List Nat}
    (last : LastPart ':' elementId.toList (run ++ rest)) (digits : ∀ d ∈ run ++ rest, isDigit d)
    (decimals : run.map decimalValue? = ds.map some) (stop : ∀ c ∈ rest.head?, decimalValue? c = none)
    (long : maxDigits < ds.length) : Reads elementId (.error ⟨quoted (run ++ rest), .tooLong ds.length⟩)

variable {elementId : String} {part : List Char}

theorem ofElementId_of_digits (last : LastPart ':' elementId.toList part) (nonempty : part ≠ [])
    (digits : ∀ c ∈ part, isDigit c) :
    ofElementId elementId =
      match readInteger .unicode part with
      | .ok n => .ok (.number n)
      | .error fault => .error ⟨quoted part, fault⟩ := by
  unfold ofElementId
  rw [tail, last.afterLast_eq]
  exact if_pos (by simpa [nonempty] using digits)

theorem ofElementId_of_other (last : LastPart ':' elementId.toList part)
    (other : part = [] ∨ ∃ c ∈ part, ¬isDigit c) : ofElementId elementId = .ok (.name elementId) := by
  unfold ofElementId
  rw [tail, last.afterLast_eq]
  refine if_neg ?_
  rcases other with rfl | ⟨c, member, none⟩
  · simp
  · intro all
    rw [Bool.and_eq_true, List.all_eq_true] at all
    exact none (all.2 c member)

theorem Reads.eq {result : Except NumeralError Identity} (h : Reads elementId result) :
    ofElementId elementId = result := by
  cases h with
  | @number part ds last decimals nonempty short =>
    have digits : ∀ c ∈ part ++ [], isDigit c := by simpa using isDigit_of_decimals decimals
    have reads := readInteger_of_digits decimals digits (by simp)
    rw [if_neg nonempty, if_neg (Nat.not_lt.mpr short), if_pos rfl, List.append_nil] at reads
    have part_nonempty : part ≠ [] := by
      rintro rfl
      exact nonempty (List.map_eq_nil_iff.mp decimals.symm)
    rw [ofElementId_of_digits last part_nonempty (by simpa using digits), reads]
  | name last other => exact ofElementId_of_other last other
  | @malformed run rest c ds last digits decimals stop short =>
    have reads := readInteger_of_digits decimals digits (by simpa using stop)
    rw [if_neg (Nat.not_lt.mpr short), if_neg (List.cons_ne_nil c rest), ite_self] at reads
    rw [ofElementId_of_digits last (by simp) digits, reads]
  | @oversized run rest ds last digits decimals stop long =>
    have nonempty : ds ≠ [] := List.ne_nil_of_length_pos (by omega)
    have reads := readInteger_of_digits decimals digits stop
    rw [if_neg nonempty, if_pos long] at reads
    have part_nonempty : run ++ rest ≠ [] := by
      intro empty
      rw [(List.append_eq_nil_iff.mp empty).1] at decimals
      exact nonempty (List.map_eq_nil_iff.mp decimals.symm)
    rw [ofElementId_of_digits last part_nonempty digits, reads]

theorem reads_ofElementId (elementId : String) : Reads elementId (ofElementId elementId) := by
  suffices ∃ result, Reads elementId result by
    obtain ⟨result, reads⟩ := this
    rwa [reads.eq]
  have last := lastPart_afterLast ':' elementId.toList
  generalize afterLast ':' elementId.toList = part at last
  by_cases other : part = [] ∨ ∃ c ∈ part, ¬isDigit c
  · exact ⟨_, .name last other⟩
  · simp only [not_or, not_exists, not_and, not_not] at other
    obtain ⟨nonempty, digits⟩ := other
    obtain ⟨run, rest, rfl, decimal, stop⟩ := exists_cut (fun c => (decimalValue? c).isSome) part
    obtain ⟨ds, decimals⟩ := exists_decimals decimal
    have stop : ∀ c ∈ rest.head?, decimalValue? c = none := fun c hc => by simpa using stop c hc
    by_cases long : maxDigits < ds.length
    · exact ⟨_, .oversized last digits decimals stop long⟩
    have short := Nat.not_lt.mp long
    cases rest with
    | cons c rest => exact ⟨_, .malformed last digits decimals (stop c rfl) short⟩
    | nil =>
      rw [List.append_nil] at last nonempty
      have ds_nonempty : ds ≠ [] := by
        rintro rfl
        exact nonempty (List.map_eq_nil_iff.mp decimals)
      exact ⟨_, .number last decimals ds_nonempty short⟩

end Identity

end CypherGate
