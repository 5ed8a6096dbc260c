import CypherGate.Json.Reader
import CypherGate.Json.Writer
import CypherGate.Proofs.NumberText
/-!
# How JSON values start

The first character tells the reader what a value is, once the blanks before it are skipped. A number is
no literal, and the text of a tree starts neither with a blank nor with the end of a list.
-/
namespace CypherGate.Json

open FloatStyle

theorem readLiteral_of_readNumber {s : List Char} {r : Written × List Char}
    (h : FloatStyle.readNumber s = some r) : readLiteral s = none := by
  obtain ⟨c, t, start, low, high⟩ := head_of_readNumber h
  have digit : ∀ {d : Char} {word : List Char}, d :: word <+: c :: t → '0' ≤ d ∧ d ≤ '9' := by
    intro d word before
    obtain ⟨rfl, -⟩ := List.cons_prefix_cons.mp before
    exact ⟨low, high⟩
  have miss : ∀ p ∈ literals, ¬p.1.toList <+: s := by
    intro p hp before
    simp only [literals, List.mem_cons, List.not_mem_nil, or_false] at hp
    rcases start with rfl | rfl
    · rcases hp with rfl | rfl | rfl | rfl | rfl | rfl <;> exact absurd (digit before) (by decide)
    · rcases hp with rfl | rfl | rfl | rfl | rfl | rfl
      case inr.inr.inr.inr.inr =>
        exact absurd (digit (List.cons_prefix_cons.mp before).2) (by decide)
      all_goals exact absurd (List.cons_prefix_cons.mp before).1 (by decide)
  unfold readLiteral
  rw [List.findSome?_eq_none_iff]
  intro p hp
  exact if_neg fun before => miss p hp (List.isPrefixOf_iff_prefix.mp before)

theorem readValue_scalar (digits fuel nesting : Nat) {s : List Char}
    (h : ∀ c ∈ s.head?, c ≠ '\x22' ∧ c ≠ '[' ∧ c ≠ '\x7b') :
    readValue digits (fuel + 1) nesting s = readScalar digits s := by
  rw [readValue]
  · rintro r rfl
    exact (h _ rfl).1 rfl
  · rintro r rfl
    exact (h _ rfl).2.1 rfl
  · rintro r rfl
    exact (h _ rfl).2.2 rfl

def numberTree (w : Written) : Tree :=
  if w.integral then .int (Text.applySign w.negative (Text.digitsValue w.whole)) else .float w.value

theorem readValue_number {digits : Nat} (fuel nesting : Nat) {s rest : List Char} {w : Written}
    (read : FloatStyle.readNumber s = some (w, rest))
    (leading : w.whole.head? = some 0 → w.whole.length = 1)
    (borne : w.integral → w.whole.length ≤ digits) :
    readValue digits (fuel + 1) nesting s = .ok (numberTree w, rest) := by
  have scalar : readScalar digits s = .ok (numberTree w, rest) := by
    have allowed : ¬(w.whole.head? = some 0 ∧ w.whole.length ≠ 1) := by tauto
    have number : readNumber digits s = some (numberTree w, rest) := by
      unfold readNumber numberTree
      rw [read]
      by_cases integral : w.integral
      · have few : ¬digits < w.whole.length := Nat.not_lt.mpr (borne integral)
        simp [allowed, integral, few]
      · simp [allowed, integral]
    rw [readScalar, readLiteral_of_readNumber read, number]
    rfl
  rw [readValue_scalar, scalar]
  obtain ⟨c, t, start, low, high⟩ := head_of_readNumber read
  rcases start with rfl | rfl
  · rintro d ⟨⟩
    refine ⟨?_, ?_, ?_⟩
    · rintro rfl
      exact absurd low (by decide)
    · rintro rfl
      exact absurd high (by decide)
    · rintro rfl
      exact absurd high (by decide)
  · rintro d ⟨⟩
    decide

theorem skipSpace_of_head {s : List Char} (h : ∀ c ∈ s.head?, isSpace c = false) :
    skipSpace s = s := by
  cases s with
  | nil => rfl
  | cons c t => exact List.dropWhile_cons_of_neg (by simp [h c rfl])

theorem skipSpace_line (level : Nat) (s : List Char) : skipSpace (line level ++ s) = skipSpace s := by
  refine List.dropWhile_append_of_pos ?_
  intro c hc
  rcases List.mem_cons.mp hc with rfl | hc
  · rfl
  · rw [List.eq_of_mem_replicate hc]
    rfl

theorem skipSpace_close {c : Char} (h : isSpace c = false) (level : Nat) (rest : List Char) :
    skipSpace (line level ++ c :: rest) = c :: rest := by
  rw [skipSpace_line]
  refine skipSpace_of_head ?_
  rintro d ⟨⟩
  exact h

/-- How a value starts: neither with a space nor with the end of a list. -/
def Starts (s : List Char) : Prop := ∃ c t, s = c :: t ∧ isSpace c = false ∧ c ≠ ']'

theorem Starts.skipSpace {s : List Char} (h : Starts s) (rest : List Char) :
    skipSpace (s ++ rest) = s ++ rest := by
  obtain ⟨c, t, rfl, space, -⟩ := h
  refine skipSpace_of_head ?_
  rintro d ⟨⟩
  exact space

theorem Starts.length_pos {s : List Char} (h : Starts s) : 0 < s.length := by
  obtain ⟨c, t, rfl, -⟩ := h
  exact Nat.succ_pos _

theorem starts_of_readNumber {s : List Char} {r : Written × List Char}
    (h : FloatStyle.readNumber s = some r) : Starts s := by
  obtain ⟨c, t, start, low, high⟩ := head_of_readNumber h
  rcases start with rfl | rfl
  · refine ⟨c, t, rfl, ?_, ?_⟩
    · have : ∀ d : Char, d < '0' → (c == d) = false := by
        intro d hd
        refine beq_eq_false_iff_ne.mpr ?_
        rintro rfl
        exact absurd low (Char.not_le.mpr hd)
      simp only [isSpace, this ' ' (by decide), this '\t' (by decide), this '\n' (by decide),
        this '\r' (by decide)]
      rfl
    · rintro rfl
      exact absurd high (by decide)
  · exact ⟨'-', c :: t, rfl, rfl, by decide⟩

theorem ends_nil : Ends [] := by
  rintro c ⟨⟩

theorem ends_cons {c : Char} (h : Text.asciiDigit? c = none ∧ c ≠ '.' ∧ c ≠ 'e' ∧ c ≠ 'E')
    (rest : List Char) : Ends (c :: rest) := by
  rintro d ⟨⟩
  exact h

theorem ends_line (level : Nat) (rest : List Char) : Ends (line level ++ rest) :=
  ends_cons (by decide) _

theorem starts_string (key : String) : Starts (string key) := ⟨'\x22', _, rfl, rfl, by decide⟩

theorem starts_write (level : Nat) (t : Tree) : Starts (write level t) := by
  cases t with
  | null => exact ⟨'n', _, rfl, rfl, by decide⟩
  | bool b =>
    cases b with
    | true => exact ⟨'t', _, rfl, rfl, by decide⟩
    | false => exact ⟨'f', _, rfl, rfl, by decide⟩
  | int n =>
    obtain ⟨w, read, -⟩ := signedDecimal_reads n ends_nil
    rw [List.append_nil] at read
    rw [write]
    exact starts_of_readNumber read
  | float x =>
    rw [write]
    cases x with
    | nan => exact ⟨'N', _, rfl, rfl, by decide⟩
    | infinite negative =>
      cases negative with
      | true => exact ⟨'-', _, rfl, rfl, by decide⟩
      | false => exact ⟨'I', _, rfl, rfl, by decide⟩
    | finite negative n =>
      obtain ⟨w, read, -⟩ := text_reads json negative n ends_nil
      rw [List.append_nil] at read
      exact starts_of_readNumber read
  | str s => exact starts_string s
  | other s => exact starts_string s.text
  | list items =>
    cases items with
    | nil => exact ⟨'[', _, by rw [write], rfl, by decide⟩
    | cons t rest => exact ⟨'[', _, by rw [write]; rfl, rfl, by decide⟩
  | map entries =>
    cases entries with
    | nil => exact ⟨'\x7b', _, by rw [write], rfl, by decide⟩
    | cons entry rest => exact ⟨'\x7b', _, by rw [write]; rfl, rfl, by decide⟩

end CypherGate.Json
