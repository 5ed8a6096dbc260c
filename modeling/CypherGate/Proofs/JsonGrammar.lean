import CypherGate.Proofs.FiniteFloats
import CypherGate.Proofs.JsonText
/-!
# The grammar of JSON

What JSON is, said without the reader: that one also takes words which JSON lacks. A document is a value
with blanks around it. Numbers, strings, lists and maps are written in JSON, so that a tree is JSON text
if all its floats are finite.
-/
namespace CypherGate

namespace Json

open Text FloatStyle

variable {s t rest : List Char} {ds : List Nat}

def IsDigits (s : List Char) : Prop := s ≠ [] ∧ ∀ c ∈ s, '0' ≤ c ∧ c ≤ '9'

inductive IsFraction : List Char → Prop where
  | absent : IsFraction []
  | digits {s : List Char} (h : IsDigits s) : IsFraction ('.' :: s)

inductive IsExponent : List Char → Prop where
  | absent : IsExponent []
  | digits {mark : Char} {sign s : List Char} (power : mark = 'e' ∨ mark = 'E')
    (signed : sign = [] ∨ sign = ['+'] ∨ sign = ['-']) (h : IsDigits s) :
    IsExponent (mark :: (sign ++ s))

/-- A zero in front stands alone. -/
inductive IsNumber : List Char → Prop where
  | parts {minus whole fraction exponent : List Char} (signed : minus = [] ∨ minus = ['-'])
    (digits : IsDigits whole) (leading : whole.head? = some '0' → whole.length = 1)
    (broken : IsFraction fraction) (scaled : IsExponent exponent) :
    IsNumber (minus ++ (whole ++ (fraction ++ exponent)))

theorem isDigits_of_spells (h : Spells s ds) (nonempty : ds ≠ []) : IsDigits s := by
  refine ⟨?_, fun c hc => ?_⟩
  · rintro rfl
    exact nonempty (List.length_eq_zero_iff.mp h.length.symm)
  · have isSome := h.isSome c hc
    unfold asciiDigit? at isSome
    split at isSome
    · assumption
    · cases isSome

theorem digitPart_sound (s : List Char) :
    ∃ t, s = t ++ (digitPart s).2 ∧ Spells t (digitPart s).1 := by
  simp only [digitPart, List.span_eq_takeWhile_dropWhile]
  refine ⟨_, List.takeWhile_append_dropWhile.symm, ?_⟩
  have digits := List.all_eq_true.mp (List.all_takeWhile (p := fun c => (asciiDigit? c).isSome) (l := s))
  generalize s.takeWhile (fun c => (asciiDigit? c).isSome) = run at digits
  induction run with
  | nil => rfl
  | cons c run ih =>
    obtain ⟨first, others⟩ := List.forall_mem_cons.mp digits
    obtain ⟨d, hd⟩ := Option.isSome_iff_exists.mp first
    have tail := ih others
    unfold Spells at tail ⊢
    simp [hd, tail]

theorem fractionPart_sound (h : fractionPart s = some (ds, rest)) :
    ∃ t, s = t ++ rest ∧ IsFraction t := by
  unfold fractionPart at h
  split at h
  next s =>
    obtain ⟨t, split, spelled⟩ := digitPart_sound s
    simp only [Option.ite_none_left_eq_some, Option.some.injEq, Prod.mk.injEq] at h
    obtain ⟨some, -, rfl⟩ := h
    exact ⟨'.' :: t, congrArg _ split, .digits (isDigits_of_spells spelled (by simpa using some))⟩
  next =>
    obtain ⟨rfl, rfl⟩ := Prod.mk.inj (Option.some.inj h)
    exact ⟨[], rfl, .absent⟩

theorem takeSign_eq (s : List Char) :
    ∃ sign, s = sign ++ (takeSign s).2 ∧ (sign = [] ∨ sign = ['+'] ∨ sign = ['-']) := by
  unfold takeSign
  split
  · exact ⟨['-'], rfl, by simp⟩
  · exact ⟨['+'], rfl, by simp⟩
  · exact ⟨[], rfl, by simp⟩

theorem exponentPart_sound {e : ℤ} (h : exponentPart s = some (e, rest)) :
    ∃ t, s = t ++ rest ∧ IsExponent t := by
  unfold exponentPart at h
  split at h
  next c s =>
    split at h
    next power =>
      obtain ⟨sign, split, signed⟩ := takeSign_eq s
      obtain ⟨t, body, spelled⟩ := digitPart_sound (takeSign s).2
      simp only [Option.ite_none_left_eq_some, Option.some.injEq, Prod.mk.injEq] at h
      obtain ⟨some, -, rfl⟩ := h
      refine ⟨c :: (sign ++ t), ?_, .digits power signed
        (isDigits_of_spells spelled (by simpa using some))⟩
      rw [List.cons_append, List.append_assoc, ← body, ← split]
    next =>
      obtain ⟨-, rfl⟩ := Prod.mk.inj (Option.some.inj h)
      exact ⟨[], rfl, .absent⟩
  next =>
    obtain ⟨-, rfl⟩ := Prod.mk.inj (Option.some.inj h)
    exact ⟨[], rfl, .absent⟩

theorem takeMinus_eq (s : List Char) :
    ∃ minus, s = minus ++ (takeMinus s).2 ∧ (minus = [] ∨ minus = ['-']) := by
  unfold takeMinus
  split
  · exact ⟨['-'], rfl, by simp⟩
  · exact ⟨[], rfl, by simp⟩

theorem isNumber_of_readNumber {w : Written} (h : FloatStyle.readNumber s = some (w, []))
    (leading : w.whole.head? = some 0 → w.whole.length = 1) : IsNumber s := by
  obtain ⟨minus, split, signed⟩ := takeMinus_eq s
  obtain ⟨whole, body, spelled⟩ := digitPart_sound (takeMinus s).2
  unfold FloatStyle.readNumber at h
  by_cases none : (digitPart (takeMinus s).2).1.isEmpty
  · simp [none] at h
  simp only [none, Bool.false_eq_true, if_false, Option.bind_eq_bind, Option.bind_eq_some_iff] at h
  obtain ⟨⟨fs, after⟩, fractional, ⟨e, rest⟩, scaled, h⟩ := h
  obtain ⟨rfl, rfl⟩ := Prod.mk.inj (Option.some.inj h)
  obtain ⟨fraction, first, isFraction⟩ := fractionPart_sound fractional
  obtain ⟨exponent, last, isExponent⟩ := exponentPart_sound scaled
  have digits : IsDigits whole := isDigits_of_spells spelled (by simpa using none)
  rw [split, body, first, show after = _ from last, List.append_nil]
  refine .parts signed digits (fun zero => ?_) isFraction isExponent
  rw [spelled.length]
  refine leading ?_
  have heads := congrArg List.head? spelled
  rw [List.head?_map, zero, List.head?_map] at heads
  obtain ⟨d, hd, same⟩ := Option.map_eq_some_iff.mp heads.symm
  rw [hd, ← Option.some.inj same.symm]
  rfl

theorem isNumber_signedDecimal (n : ℤ) : IsNumber (signedDecimal n) := by
  obtain ⟨w, read, -, -, leading, -⟩ := signedDecimal_reads n ends_nil
  rw [List.append_nil] at read
  exact isNumber_of_readNumber read leading

theorem isNumber_text (negative : Bool) (n : Fin magnitudeCount) :
    IsNumber (json.text (.finite negative n)) := by
  obtain ⟨w, read, -, -, leading⟩ := text_reads json negative n ends_nil
  rw [List.append_nil] at read
  exact isNumber_of_readNumber read leading

def IsHexDigit (c : Char) : Prop :=
  '0' ≤ c ∧ c ≤ '9' ∨ 'a' ≤ c ∧ c ≤ 'f' ∨ 'A' ≤ c ∧ c ≤ 'F'

instance (c : Char) : Decidable (IsHexDigit c) := inferInstanceAs (Decidable (_ ∨ _ ∨ _))

/-- What may stand between the quotes of a string. -/
inductive IsContent : List Char → Prop where
  | nil : IsContent []
  | plain {c : Char} {s : List Char} (printable : 0x20 ≤ c.toNat) (quote : c ≠ '\x22')
    (backslash : c ≠ '\\') (h : IsContent s) : IsContent (c :: s)
  | short {c : Char} {s : List Char} (escape : c ∈ "\x22\\/bfnrt".toList) (h : IsContent s) :
    IsContent ('\\' :: c :: s)
  | unit {a b c d : Char} {s : List Char} (hex : ∀ x ∈ [a, b, c, d], IsHexDigit x)
    (h : IsContent s) : IsContent ('\\' :: 'u' :: a :: b :: c :: d :: s)

def IsString (s : List Char) : Prop := ∃ content, IsContent content ∧ s = '\x22' :: (content ++ ['\x22'])

theorem isContent_unit (n : Nat) (h : IsContent s) :
    IsContent ('\\' :: 'u' :: (hexDigits 4 n ++ s)) := by
  have digit : ∀ d < 16, IsHexDigit (Nat.digitChar d) := by decide
  have place : ∀ m, IsHexDigit (Nat.digitChar (m % 16)) := fun m =>
    digit _ (Nat.mod_lt m (by decide))
  simp only [hexDigits, List.nil_append, List.cons_append]
  exact .unit (by simp [place]) h

theorem isContent_escapeChar (c : Char) (h : IsContent s) : IsContent (escapeChar c ++ s) := by
  unfold escapeChar
  split
  next quoted => rcases quoted with rfl | rfl <;> exact .short (by decide) h
  iterate 5
    split
    next => exact .short (by decide) h
  split
  next unquoted _ _ _ _ _ visible =>
    obtain ⟨quote, backslash⟩ := not_or.mp unquoted
    exact .plain visible.1 quote backslash h
  next =>
    induction units c with
    | nil => exact h
    | cons u us ih => simpa using isContent_unit u ih

theorem isString_string (s : String) : IsString (string s) := by
  refine ⟨s.toList.flatMap escapeChar, ?_, by simp [string]⟩
  induction s.toList with
  | nil => exact .nil
  | cons c cs ih => exact isContent_escapeChar c ih

def IsBlank (s : List Char) : Prop := ∀ c ∈ s, c = ' ' ∨ c = '\t' ∨ c = '\n' ∨ c = '\r'

/-- The parts of a document that are made of parts. Elements and members are those of lists and maps. -/
inductive Part where
  | value
  | element
  | elements
  | member
  | members

inductive Derives : Part → List Char → Prop where
  | word {w : String} (h : w ∈ ["null", "true", "false"]) : Derives .value w.toList
  | number {s : List Char} (h : IsNumber s) : Derives .value s
  | string {s : List Char} (h : IsString s) : Derives .value s
  | emptyList {s : List Char} (h : IsBlank s) : Derives .value ('[' :: (s ++ [']']))
  | list {s : List Char} (h : Derives .elements s) : Derives .value ('[' :: (s ++ [']']))
  | emptyMap {s : List Char} (h : IsBlank s) : Derives .value ('\x7b' :: (s ++ ['\x7d']))
  | map {s : List Char} (h : Derives .members s) : Derives .value ('\x7b' :: (s ++ ['\x7d']))
  | element {before s after : List Char} (leads : IsBlank before) (h : Derives .value s)
    (trails : IsBlank after) : Derives .element (before ++ (s ++ after))
  | lastElement {s : List Char} (h : Derives .element s) : Derives .elements s
  | nextElement {s t : List Char} (h : Derives .element s) (k : Derives .elements t) :
    Derives .elements (s ++ ',' :: t)
  | member {before key after s : List Char} (leads : IsBlank before) (named : IsString key)
    (trails : IsBlank after) (h : Derives .element s) :
    Derives .member (before ++ (key ++ (after ++ ':' :: s)))
  | lastMember {s : List Char} (h : Derives .member s) : Derives .members s
  | nextMember {s t : List Char} (h : Derives .member s) (k : Derives .members t) :
    Derives .members (s ++ ',' :: t)

def IsDocument (s : List Char) : Prop := Derives .element s

theorem isBlank_nil : IsBlank [] := by
  rintro c ⟨⟩

theorem isBlank_line (level : Nat) : IsBlank (line level) := by
  intro c hc
  rcases List.mem_cons.mp hc with rfl | hc
  · simp
  · exact .inl (List.eq_of_mem_replicate hc)

/-! ## Trees -/

theorem derives_elements {t : Tree} {ts : List Tree}
    (each : ∀ u ∈ t :: ts, ∀ level, Derives .value (write level u)) (level outer : Nat) :
    Derives .elements (line level ++ (write level t ++ (writeItems level ts ++ line outer))) := by
  have first := each t List.mem_cons_self level
  induction ts generalizing t with
  | nil => exact .lastElement (.element (isBlank_line level) first (isBlank_line outer))
  | cons u us ih =>
    have each' : ∀ v ∈ u :: us, ∀ level, Derives .value (write level v) := fun v hv =>
      each v (List.mem_cons_of_mem t hv)
    have others := ih each' (each' u List.mem_cons_self level)
    rw [writeItems_cons]
    simpa using Derives.nextElement (.element (isBlank_line level) first isBlank_nil) others

theorem derives_members {key : String} {t : Tree} {entries : List (String × Tree)}
    (each : ∀ e ∈ (key, t) :: entries, ∀ level, Derives .value (write level e.2))
    (level outer : Nat) :
    Derives .members (line level ++ (string key ++
      ':' :: ' ' :: (write level t ++ (writeEntries level entries ++ line outer)))) := by
  have space : IsBlank [' '] := by simp [IsBlank]
  have first : Derives .value (write level t) := each (key, t) List.mem_cons_self level
  induction entries generalizing key t with
  | nil =>
    exact .lastMember (.member (isBlank_line level) (isString_string key) isBlank_nil
      (.element space first (isBlank_line outer)))
  | cons entry entries ih =>
    obtain ⟨key', u⟩ := entry
    have each' : ∀ e ∈ (key', u) :: entries, ∀ level, Derives .value (write level e.2) :=
      fun e he => each e (List.mem_cons_of_mem _ he)
    have others := ih each' (each' (key', u) List.mem_cons_self level)
    rw [writeEntries_cons]
    simpa using Derives.nextMember (.member (isBlank_line level) (isString_string key) isBlank_nil
      (.element space first isBlank_nil)) others

theorem derives_write {t : Tree} (h : t.FiniteFloats) (level : Nat) :
    Derives .value (write level t) := by
  induction h generalizing level with
  | null => exact .word (w := "null") (by simp)
  | bool b =>
    cases b with
    | true => exact .word (w := "true") (by simp)
    | false => exact .word (w := "false") (by simp)
  | int n =>
    rw [write]
    exact .number (isNumber_signedDecimal n)
  | @float x finite =>
    rw [write]
    cases x with
    | finite negative n => exact .number (isNumber_text negative n)
    | _ => cases finite
  | str s =>
    rw [write]
    exact .string (isString_string s)
  | other s =>
    rw [write]
    exact .string (isString_string s.text)
  | @list items each ih =>
    cases items with
    | nil =>
      rw [write]
      exact .emptyList isBlank_nil
    | cons t rest => simpa [write] using Derives.list (derives_elements ih (level + 1) level)
  | @map entries each ih =>
    cases entries with
    | nil =>
      rw [write]
      exact .emptyMap isBlank_nil
    | cons entry rest =>
      obtain ⟨key, t⟩ := entry
      simpa [write] using Derives.map (derives_members ih (level + 1) level)

end Json

end CypherGate
