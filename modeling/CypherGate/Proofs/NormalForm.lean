import CypherGate.Proofs.LetterCase
import CypherGate.Proofs.RuleLanguage
import Mathlib.Data.List.TakeWhile
/-!
# The normal form of a query

What lower-casing and trimming keep of a query. A word that begins and ends with no blank survives them
wherever it stands, and blanks around a query or the case of its ASCII letters leave no trace.
-/
namespace CypherGate

namespace Text

variable {p : Char → Bool}

theorem dropWhile_append_of_head {s t : List Char} (first : ∃ c ∈ t.head?, p c = false) :
    (s ++ t).dropWhile p = s.dropWhile p ++ t := by
  obtain ⟨c, head, keeps⟩ := first
  cases t with
  | nil => cases head
  | cons d t =>
    obtain rfl : d = c := by simpa using head
    rw [List.dropWhile_append, List.dropWhile_cons_of_neg (by simp [keeps])]
    split
    · next all_gone => simp [List.isEmpty_iff.mp all_gone]
    · rfl

theorem trimEnd_append_of_last {s t : List Char} (last : ∃ c ∈ s.getLast?, p c = false) :
    trimEnd p (s ++ t) = s ++ trimEnd p t := by
  have first : ∃ c ∈ s.reverse.head?, p c = false := by simpa using last
  rw [trimEnd, List.reverse_append, dropWhile_append_of_head first, List.reverse_append,
    List.reverse_reverse]
  rfl

theorem trimEnd_append_of_all {s back : List Char} (gone : back.all p) :
    trimEnd p (s ++ back) = trimEnd p s := by
  have gone : ∀ c ∈ back.reverse, p c := by simpa using gone
  rw [trimEnd, List.reverse_append, List.dropWhile_append_of_pos gone]
  rfl

theorem trim_append_of_all {front s back : List Char} (gone_front : front.all p)
    (gone_back : back.all p) : trim p (front ++ (s ++ back)) = trim p s := by
  rw [trim, trim, List.dropWhile_append_of_pos (List.all_eq_true.mp gone_front), List.dropWhile_append]
  split
  · next all_gone =>
    have nothing : back.dropWhile p = [] := List.dropWhile_eq_nil_iff.mpr (List.all_eq_true.mp gone_back)
    rw [List.isEmpty_iff.mp all_gone, nothing]
  · exact trimEnd_append_of_all gone_back

/-- A text that begins and ends with a character that is no blank. -/
structure Solid (s : List Char) : Prop where
  first : ∃ c ∈ s.head?, isBlank c = false
  last : ∃ c ∈ s.getLast?, isBlank c = false

theorem trim_append_of_solid {s : List Char} (solid : Solid s) (front back : List Char) :
    trim isBlank (front ++ (s ++ back)) =
      front.dropWhile isBlank ++ (s ++ trimEnd isBlank back) := by
  have first : ∃ c ∈ (s ++ back).head?, isBlank c = false := by
    obtain ⟨c, head, keeps⟩ := solid.first
    exact ⟨c, by simp [Option.mem_def.mp head], keeps⟩
  have last : ∃ c ∈ (front.dropWhile isBlank ++ s).getLast?, isBlank c = false := by
    obtain ⟨c, tail, keeps⟩ := solid.last
    exact ⟨c, by simp [Option.mem_def.mp tail], keeps⟩
  rw [trim, dropWhile_append_of_head first, ← List.append_assoc, trimEnd_append_of_last last,
    List.append_assoc]

end Text

namespace Guard

open Text

theorem infix_normalForm {spelling : List Char} {query : String} (noSigma : '\u03A3' ∉ spelling)
    (solid : Solid (lower spelling)) (stands : spelling <:+: query.toList) :
    lower spelling <:+: normalForm query := by
  obtain ⟨front, back, split⟩ := stands
  rw [List.append_assoc] at split
  obtain ⟨front', back', lowered⟩ := lower_infix noSigma front back
  rw [normalForm, ← split, ← lowered, List.append_assoc, trim_append_of_solid solid]
  exact List.infix_append' _ _ _

namespace Policy

/-- A forbidden word is found in every spelling and at every place. -/
theorem rejected_of_spelling (p : Policy) {word spelling query : String} (listed : word ∈ p.forbidden)
    (solid : Solid word.toList) (noSigma : '\u03A3' ∉ spelling.toList)
    (spells : lowerCase spelling = word) (stands : spelling.toList <:+: query.toList) :
    ∃ named ∈ p.forbidden, p.classify query = .rejected (.forbidden named) ∧
      (Refusal.forbidden named).reason = "forbidden keyword '" ++ named ++ "'" := by
  have form : lower spelling.toList = word.toList := by rw [← spells, lowerCase, String.toList_ofList]
  have occurs := infix_normalForm noSigma (form ▸ solid) stands
  rw [form] at occurs
  cases found : p.forbiddenIn? (normalForm query) with
  | none => exact absurd occurs (forbiddenIn?_eq_none_iff.mp found word listed)
  | some named =>
    obtain ⟨earlier, later, table, -, -⟩ := forbiddenIn?_eq_some_iff.mp found
    refine ⟨named, by simp [table], ?_, rfl⟩
    exact judge_eq_rejected_iff.mpr (.inl ⟨named, found, rfl⟩)

/-- The sign for kelvin is another capital of `k`, and the letters beside the word are sigmas. -/
theorem rejected_of_spelling_kelvin :
    ("key" ∈ (ofTables ["KEY"] [] ["match"]).forbidden ∧ Solid "key".toList ∧
      '\u03A3' ∉ "\u212AeY".toList ∧ lowerCase "\u212AeY" = "key" ∧
      "\u212AeY".toList <:+: "MATCH (n) RETURN n.\u03A3\u212AeY\u03A3 ".toList) ∧
    ∃ named ∈ (ofTables ["KEY"] [] ["match"]).forbidden,
      (ofTables ["KEY"] [] ["match"]).classify "MATCH (n) RETURN n.\u03A3\u212AeY\u03A3 " =
        .rejected (.forbidden named) ∧
      (Refusal.forbidden named).reason = "forbidden keyword '" ++ named ++ "'" := by
  have listed : "key" ∈ (ofTables ["KEY"] [] ["match"]).forbidden := by decide +kernel
  have solid : Solid "key".toList := ⟨⟨'k', by decide, by decide⟩, 'y', by decide, by decide⟩
  have noSigma : '\u03A3' ∉ "\u212AeY".toList := by decide
  have spells : lowerCase "\u212AeY" = "key" := by decide +kernel
  have stands : "\u212AeY".toList <:+: "MATCH (n) RETURN n.\u03A3\u212AeY\u03A3 ".toList := by
    decide +kernel
  exact ⟨⟨listed, solid, noSigma, spells, stands⟩,
    rejected_of_spelling _ listed solid noSigma spells stands⟩

end Policy

/-- The same text but for the case of ASCII letters. -/
def CaseVariant (query variant : String) : Prop :=
  List.Forall₂ SameLetter query.toList variant.toList

instance (query variant : String) : Decidable (CaseVariant query variant) :=
  inferInstanceAs (Decidable (List.Forall₂ SameLetter _ _))

theorem normalForm_variant {query variant front back : String} (same : CaseVariant query variant)
    (blank_front : front.toList.all isBlank) (blank_back : back.toList.all isBlank) :
    normalForm (front ++ variant ++ back) = normalForm query := by
  rw [normalForm, normalForm, String.toList_append, String.toList_append, List.append_assoc,
    lower_variant same blank_front blank_back, trim_append_of_all blank_front blank_back]

namespace Policy

/-- The verdict, its reason included, is the same for every variant of a query with blanks around it. -/
theorem classify_variant (p : Policy) {query variant front back : String}
    (same : CaseVariant query variant) (blank_front : front.toList.all isBlank)
    (blank_back : back.toList.all isBlank) :
    p.classify (front ++ variant ++ back) = p.classify query := by
  rw [classify, normalForm_variant same blank_front blank_back, classify]

/-- Blanks behind a sigma at the end of a word leave it a final one. -/
theorem classify_variant_sigma :
    (CaseVariant "call db.labels() yield label as \u039F\u03A3"
        "CALL db.Labels() YIELD label AS \u039F\u03A3" ∧
      "\u3000\u001C".toList.all isBlank ∧ "\t\u2028 ".toList.all isBlank) ∧
    standard.classify ("\u3000\u001C" ++ "CALL db.Labels() YIELD label AS \u039F\u03A3" ++ "\t\u2028 ") =
      standard.classify "call db.labels() yield label as \u039F\u03A3" := by
  have same : CaseVariant "call db.labels() yield label as \u039F\u03A3"
      "CALL db.Labels() YIELD label AS \u039F\u03A3" := by
    decide +kernel
  have blank_front : "\u3000\u001C".toList.all isBlank := by decide +kernel
  have blank_back : "\t\u2028 ".toList.all isBlank := by decide +kernel
  exact ⟨⟨same, blank_front, blank_back⟩, classify_variant standard same blank_front blank_back⟩

end Policy

end Guard

end CypherGate
