import CypherGate.Proofs.JsonText
/-!
# JSON text without loss

The text of every tree is visible: printable ASCII and line breaks. The plain form of a value is a keyed
tree, so its text tells the tree, and two plain forms with the same text are the same but for the kinds of
leaves that JSON lacks.
-/
namespace CypherGate

/-- Printable ASCII and line breaks only. -/
def Visible (s : List Char) : Prop := ∀ c ∈ s, c = '\n' ∨ 0x20 ≤ c.toNat ∧ c.toNat ≤ 0x7E

instance (s : List Char) : Decidable (Visible s) := List.decidableBAll _ s

@[simp] theorem visible_nil : Visible [] := by
  rintro c ⟨⟩

@[simp] theorem visible_cons {c : Char} {s : List Char} :
    Visible (c :: s) ↔ (c = '\n' ∨ 0x20 ≤ c.toNat ∧ c.toNat ≤ 0x7E) ∧ Visible s :=
  List.forall_mem_cons

@[simp] theorem visible_append {s t : List Char} : Visible (s ++ t) ↔ Visible s ∧ Visible t :=
  List.forall_mem_append

theorem visible_flatMap {α : Type} {xs : List α} {f : α → List Char} (h : ∀ x ∈ xs, Visible (f x)) :
    Visible (xs.flatMap f) := by
  intro c hc
  obtain ⟨x, hx, hc⟩ := List.mem_flatMap.mp hc
  exact h x hx c hc

theorem Visible.mono {s t : List Char} (h : Visible t) (le : s ⊆ t) : Visible s :=
  fun c hc => h c (le hc)

theorem Text.Spells.visible {s : List Char} {ds : List Nat} (h : Spells s ds) : Visible s := by
  intro c hc
  have digit := h.isSome c hc
  unfold asciiDigit? at digit
  split at digit
  next bounds =>
    have low : 0x30 ≤ c.toNat := bounds.1
    have high : c.toNat ≤ 0x39 := bounds.2
    exact .inr ⟨by omega, by omega⟩
  next => cases digit

theorem visible_decimal (n : Nat) : Visible (Text.decimal n) := by
  obtain ⟨ds, numeral⟩ := Text.decimal_numeral n
  exact numeral.spelled.visible

theorem visible_signedDecimal (n : Int) : Visible (Text.signedDecimal n) := by
  cases n with
  | ofNat k => exact visible_decimal k
  | negSucc k => exact visible_cons.mpr ⟨by decide, visible_decimal (k + 1)⟩

namespace FloatStyle

variable {digits : List Char}

theorem visible_positional (h : Visible digits) (point : Int) : Visible (positional digits point) := by
  have zeros : ∀ k, Visible (List.replicate k '0') := fun k => (Text.Spells.zeros k).visible
  unfold positional
  simp only
  split
  · simp [zeros, h]
  split
  · simp [zeros, h]
  · simp [h.mono (List.take_subset _ _), h.mono (List.drop_subset _ _)]

theorem visible_exponentText (e : Int) : Visible (exponentText e) := by
  have size : Visible (if (Text.decimal e.natAbs).length < 2 then '0' :: Text.decimal e.natAbs
      else Text.decimal e.natAbs) := by
    obtain ⟨xs, spelled, -⟩ := size_spells e.natAbs
    exact spelled.visible
  refine visible_cons.mpr ⟨by decide, visible_cons.mpr ⟨?_, size⟩⟩
  split <;> decide

theorem visible_scientific (h : Visible digits) (point : Int) : Visible (scientific digits point) := by
  refine visible_append.mpr ⟨?_, visible_exponentText _⟩
  match digits, h with
  | [], _ => exact visible_nil
  | [d], h => exact h
  | d :: d' :: rest, h =>
    obtain ⟨first, others⟩ := visible_cons.mp h
    exact visible_cons.mpr ⟨first, visible_cons.mpr ⟨by decide, others⟩⟩

theorem visible_text (x : Binary64) : Visible (json.text x) := by
  have signs : ∀ negative, Visible (sign negative) := by decide
  cases x with
  | nan => decide
  | infinite negative => exact visible_append.mpr ⟨signs negative, by decide⟩
  | finite negative n =>
    refine visible_append.mpr ⟨signs negative, ?_⟩
    unfold magnitudeText
    simp only
    split
    · exact visible_positional (visible_decimal _) _
    · exact visible_scientific (visible_decimal _) _

end FloatStyle

namespace Json

theorem visible_hexDigits (n : Nat) : Visible (Text.hexDigits 4 n) := by
  have digit : ∀ d < 16, Visible [Nat.digitChar d] := by decide
  have place : ∀ m, Visible [Nat.digitChar (m % 16)] := fun m => digit _ (Nat.mod_lt m (by decide))
  simp only [Text.hexDigits, visible_append, visible_nil, place, and_self]

theorem visible_escapeChar (c : Char) : Visible (escapeChar c) := by
  unfold escapeChar
  split
  next quoted => rcases quoted with rfl | rfl <;> decide
  iterate 5
    split
    next => decide
  split
  next shown => exact visible_cons.mpr ⟨.inr shown, visible_nil⟩
  next =>
    refine visible_flatMap fun u _ => ?_
    exact visible_cons.mpr ⟨by decide, visible_cons.mpr ⟨by decide, visible_hexDigits u⟩⟩

theorem visible_string (s : String) : Visible (string s) := by
  have body : Visible (s.toList.flatMap escapeChar) := visible_flatMap fun c _ => visible_escapeChar c
  simp [string, body]

theorem visible_line (level : Nat) : Visible (line level) := by
  refine visible_cons.mpr ⟨.inl rfl, ?_⟩
  intro c hc
  rw [List.eq_of_mem_replicate hc]
  decide

mutual
theorem visible_write (level : Nat) (t : Tree) : Visible (write level t) := by
  cases t with
  | null => rw [write]; decide
  | bool b => cases b <;> rw [write] <;> decide
  | int n => rw [write]; exact visible_signedDecimal n
  | float x => rw [write]; exact FloatStyle.visible_text x
  | str s => rw [write]; exact visible_string s
  | other s => rw [write]; exact visible_string s.text
  | list items =>
    cases items with
    | nil => rw [write]; decide
    | cons t rest =>
      have first := visible_write (level + 1) t
      have others := visible_writeItems (level + 1) rest
      simp [write, visible_line, first, others]
  | map entries =>
    cases entries with
    | nil => rw [write]; decide
    | cons entry rest =>
      obtain ⟨key, t⟩ := entry
      have first := visible_write (level + 1) t
      have others := visible_writeEntries (level + 1) rest
      simp [write, visible_line, visible_string, first, others]

theorem visible_writeItems (level : Nat) (items : List Tree) : Visible (writeItems level items) := by
  cases items with
  | nil => exact visible_nil
  | cons t rest =>
    have first := visible_write level t
    have others := visible_writeItems level rest
    simp [writeItems, visible_line, first, others]

theorem visible_writeEntries (level : Nat) (entries : List (String × Tree)) :
    Visible (writeEntries level entries) := by
  cases entries with
  | nil => exact visible_nil
  | cons entry rest =>
    obtain ⟨key, t⟩ := entry
    have first := visible_write level t
    have others := visible_writeEntries level rest
    simp [writeEntries, visible_line, visible_string, first, others]
end

end Json

/-- The plain form of a value has a text just if the value can be written. The text is visible and tells all
that JSON can show of the form: reading gives it back, and no other plain form has the same text. -/
theorem Tree.json_lossless {v : Value} {t : Tree} (h : normalize v = .ok t) :
    ((∃ text, t.json? = some text) ↔ v.Writable) ∧ ∀ text, t.json? = some text →
      Visible text.toList ∧ ofJson? text = some t.shown ∧
        ∀ v' t', normalize v' = .ok t' → t'.json? = some text → t'.shown = t.shown := by
  refine ⟨exists_json?_iff.trans (PlainForm.writable_iff h), fun text written => ?_⟩
  have back := ofJson?_of_json? (normalize_keyed v h) written
  refine ⟨?_, back, ?_⟩
  · rw [toList_of_json? written]
    exact Json.visible_write 0 t
  · intro v' t' h' same
    have back' := ofJson?_of_json? (normalize_keyed v' h') same
    rw [back] at back'
    exact (Option.some.inj back').symm

theorem Tree.json_lossless_tuple :
    let v : Value := .tuple [.int 1, .other (.date "2024-02-29"), .map [("𝄞", .str "\x7f")]]
    let t : Tree := .list [.int 1, .other (.date "2024-02-29"), .map [("𝄞", .str "\x7f")]]
    normalize v = .ok t ∧ ∃ text, t.json? = some text ∧ Visible text.toList ∧
      ofJson? text = some (.list [.int 1, .str "2024-02-29", .map [("𝄞", .str "\x7f")]]) := by
  intro v t
  have plain : normalize v = .ok t := rfl
  have written : t.json? = some _ := if_pos (by decide)
  obtain ⟨visible, back, -⟩ := (json_lossless plain).2 _ written
  exact ⟨plain, _, written, visible, back⟩

end CypherGate
