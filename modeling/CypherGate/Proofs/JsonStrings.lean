import CypherGate.Json.Reader
import CypherGate.Json.Writer
/-!
# Strings as JSON text, and back

Every character of a string is written as itself or as an escape, and read as the code units that it
stands for: one, or two surrogates beyond U+FFFF. Joining the units of a text gives the text.
-/
namespace CypherGate.Json

theorem hexValue?_digitChar : ∀ d < 16, hexValue? (Nat.digitChar d) = some d := by decide

theorem hexNumber?_hexDigits {n : Nat} (h : n < 0x10000) :
    hexNumber? (Text.hexDigits 4 n) = some n := by
  have digit : ∀ m : Nat, hexValue? (Nat.digitChar (m % 16)) = some (m % 16) := fun m =>
    hexValue?_digitChar _ (Nat.mod_lt m (by decide))
  simp [Text.hexDigits, hexNumber?, List.foldlM, digit]
  omega

theorem readUnits_unit {n : Nat} (h : n < 0x10000) {rest after : List Char} {us : List Nat}
    (read : readUnits rest = some (us, after)) :
    readUnits ('\\' :: 'u' :: (Text.hexDigits 4 n ++ rest)) = some (n :: us, after) := by
  have number := hexNumber?_hexDigits h
  simp only [Text.hexDigits, List.nil_append, List.cons_append] at number ⊢
  simp [readUnits, number, read]

/-- A character that needs no escape. -/
def IsPlain (c : Char) : Prop := 0x20 ≤ c.toNat ∧ c.toNat ≤ 0x7E ∧ c ≠ '\x22' ∧ c ≠ '\\'

theorem readUnits_plain {c : Char} (h : IsPlain c) {rest after : List Char} {us : List Nat}
    (read : readUnits rest = some (us, after)) :
    readUnits (c :: rest) = some (c.toNat :: us, after) := by
  obtain ⟨low, -, quote, backslash⟩ := h
  rw [readUnits]
  · simp [read, backslash]
    omega
  · exact quote
  · rintro _ _ _ _ _ rfl _
    exact backslash rfl
  · rintro _ _ rfl _
    exact backslash rfl

theorem toNat_valid (c : Char) : c.toNat < 0xD800 ∨ 0xDFFF < c.toNat ∧ c.toNat < 0x110000 := c.valid

theorem units_of_lt {c : Char} (h : c.toNat < 0x10000) : units c = [c.toNat] := if_pos h

theorem units_of_le {c : Char} (h : 0x10000 ≤ c.toNat) :
    units c = [0xD800 + (c.toNat - 0x10000) / 0x400, 0xDC00 + (c.toNat - 0x10000) % 0x400] :=
  if_neg (Nat.not_lt.mpr h)

theorem units_lt (c : Char) : ∀ u ∈ units c, u < 0x10000 := by
  have valid := toNat_valid c
  rcases Nat.lt_or_ge c.toNat 0x10000 with small | large
  · simpa [units_of_lt small] using small
  · simp [units_of_le large]
    omega

theorem readUnits_units {vs : List Nat} (h : ∀ u ∈ vs, u < 0x10000) {rest after : List Char}
    {us : List Nat} (read : readUnits rest = some (us, after)) :
    readUnits ((vs.flatMap fun u => '\\' :: 'u' :: Text.hexDigits 4 u) ++ rest) =
      some (vs ++ us, after) := by
  induction vs with
  | nil => exact read
  | cons v vs ih =>
    obtain ⟨first, others⟩ := List.forall_mem_cons.mp h
    simpa using readUnits_unit first (ih others)

theorem readUnits_escapeChar (c : Char) {rest after : List Char} {us : List Nat}
    (read : readUnits rest = some (us, after)) :
    readUnits (escapeChar c ++ rest) = some (units c ++ us, after) := by
  have short : ∀ e, simpleEscape? e = some c → e ≠ 'u' → units c = [c.toNat] →
      readUnits ('\\' :: e :: rest) = some (units c ++ us, after) := by
    intro e escape other unit
    rw [unit, readUnits]
    · simp [escape, read]
    · intro _ _ _ _ _ h
      exact absurd h other
  unfold escapeChar
  split
  next quoted =>
    rcases quoted with rfl | rfl
    · exact short _ rfl (by decide) rfl
    · exact short _ rfl (by decide) rfl
  split
  next h =>
    subst h
    exact short 'n' rfl (by decide) rfl
  split
  next h =>
    subst h
    exact short 'r' rfl (by decide) rfl
  split
  next h =>
    subst h
    exact short 't' rfl (by decide) rfl
  split
  next h =>
    subst h
    exact short 'b' rfl (by decide) rfl
  split
  next h =>
    subst h
    exact short 'f' rfl (by decide) rfl
  split
  next unquoted _ _ _ _ _ visible =>
    obtain ⟨quote, backslash⟩ := not_or.mp unquoted
    rw [units_of_lt (by omega)]
    exact readUnits_plain ⟨visible.1, visible.2, quote, backslash⟩ read
  next => exact readUnits_units (units_lt c) read

theorem joinUnits_units (c : Char) (us : List Nat) :
    joinUnits (units c ++ us) = c :: joinUnits us := by
  have valid := toNat_valid c
  rcases Nat.lt_or_ge c.toNat 0x10000 with small | large
  · have high : isHighSurrogate c.toNat = false := by
      simp [isHighSurrogate]
      omega
    have low : isLowSurrogate c.toNat = false := by
      simp [isLowSurrogate]
      omega
    have same : charOf c.toNat = c := by simp [charOf, high, low]
    rw [units_of_lt small]
    cases us <;> simp [joinUnits, high, same]
  · have high : isHighSurrogate (0xD800 + (c.toNat - 0x10000) / 0x400) := by
      simp [isHighSurrogate]
      omega
    have low : isLowSurrogate (0xDC00 + (c.toNat - 0x10000) % 0x400) := by
      simp [isLowSurrogate]
      omega
    have same : 0x10000 + (c.toNat - 0x10000) / 0x400 * 0x400 + (c.toNat - 0x10000) % 0x400 =
        c.toNat := by omega
    rw [units_of_le large]
    simp [joinUnits, high, low, same]

theorem joinUnits_flatMap (cs : List Char) : joinUnits (cs.flatMap units) = cs := by
  induction cs with
  | nil => rfl
  | cons c cs ih => rw [List.flatMap_cons, joinUnits_units, ih]

theorem readUnits_string (cs rest : List Char) :
    readUnits (cs.flatMap escapeChar ++ '\x22' :: rest) = some (cs.flatMap units, rest) := by
  induction cs with
  | nil => simp [readUnits]
  | cons c cs ih =>
    rw [List.flatMap_cons, List.append_assoc]
    exact readUnits_escapeChar c ih

theorem readString_string (s : String) (rest : List Char) :
    readString (s.toList.flatMap escapeChar ++ '\x22' :: rest) = .ok (s, rest) := by
  simp [readString, readUnits_string, joinUnits_flatMap]

end CypherGate.Json
