import CypherGate.Proofs.NormalForm
/-!
# Queries that begin with a call

A query that begins with a call of a listed procedure keeps the rule on calls, whatever follows, so that
only the forbidden words and the openings can speak against it. The standard tables list the namespaces
`algo.` and `gds.` as procedures but have no opening for them.
-/
namespace CypherGate.Guard

open Text

/-- A character of a name as it is written in a query: capital letters count as well. -/
def isPlainChar (c : Char) : Bool := ('A' ≤ c && c ≤ 'Z') || isNameChar c

theorem isAscii_of_isPlainChar {c : Char} (plain : isPlainChar c) : isAscii c := by
  simp only [isPlainChar, isNameChar, Bool.or_eq_true, Bool.and_eq_true, decide_eq_true_eq,
    beq_iff_eq] at plain
  apply decide_eq_true
  rcases plain with ⟨-, high⟩ | ((⟨-, high⟩ | ⟨-, high⟩) | rfl) | rfl
  · exact Nat.lt_of_le_of_lt (Char.le_def.mp high) (by decide)
  · exact Nat.lt_of_le_of_lt (Char.le_def.mp high) (by decide)
  · exact Nat.lt_of_le_of_lt (Char.le_def.mp high) (by decide)
  · decide
  · decide

theorem plain_numbers : ∀ n < 0x80, isPlainChar (Char.ofNat n) → isNameChar (Char.ofNat n).toLower := by
  decide +kernel

theorem isNameChar_of_isPlainChar {c : Char} (plain : isPlainChar c) : isNameChar c.toLower := by
  have name := plain_numbers c.toNat (of_decide_eq_true (isAscii_of_isPlainChar plain))
  rw [Char.ofNat_toNat] at name
  exact name plain

/-- A name that can be called, as it is written in a query. -/
structure PlainName (name : String) : Prop where
  some_char : name ≠ ""
  plain : name.toList.all isPlainChar

instance (name : String) : Decidable (PlainName name) :=
  decidable_of_iff (name ≠ "" ∧ name.toList.all isPlainChar)
    ⟨fun h => ⟨h.1, h.2⟩, fun h => ⟨h.some_char, h.plain⟩⟩

theorem PlainName.ascii {name : String} (h : PlainName name) : name.toList.all isAscii :=
  List.all_eq_true.mpr fun c hc => isAscii_of_isPlainChar (List.all_eq_true.mp h.plain c hc)

theorem PlainName.toList_lowerCase {name : String} (h : PlainName name) :
    (lowerCase name).toList = name.toList.map Char.toLower := by
  rw [lowerCase, String.toList_ofList, lower_of_ascii h.ascii]

theorem PlainName.nameChar {name : String} (h : PlainName name) :
    (lowerCase name).toList.all isNameChar := by
  rw [h.toList_lowerCase, List.all_map]
  exact List.all_eq_true.mpr fun c hc => isNameChar_of_isPlainChar (List.all_eq_true.mp h.plain c hc)

theorem PlainName.ne_nil {name : String} (h : PlainName name) : (lowerCase name).toList ≠ [] := by
  rw [h.toList_lowerCase]
  simpa using h.some_char

theorem solid_call {name : List Char} (nameChar : name.all isNameChar) (some_nameChar : name ≠ []) :
    Solid ("call ".toList ++ name) := by
  have last := List.all_eq_true.mp nameChar (name.getLast some_nameChar) (List.getLast_mem some_nameChar)
  refine ⟨⟨'c', rfl, by decide⟩, name.getLast some_nameChar, ?_, isBlank_of_isNameChar last⟩
  rw [List.getLast?_append_of_ne_nil _ some_nameChar]
  exact List.getLast?_eq_some_getLast some_nameChar

theorem normalForm_call {name : String} (h : PlainName name) (tail : String) :
    ∃ rest, normalForm ("CALL " ++ name ++ tail) =
      "call ".toList ++ ((lowerCase name).toList ++ rest) := by
  have ascii : ("CALL " ++ name).toList.all isAscii := by
    rw [String.toList_append, List.all_append, h.ascii]
    decide
  have noSigma := noSigma_of_ascii ascii
  have begins : ("CALL " ++ name).toList.flatMap lowerChar = "call ".toList ++ (lowerCase name).toList := by
    rw [← lower_of_noSigma noSigma, lower_of_ascii ascii, String.toList_append, List.map_append,
      h.toList_lowerCase]
    rfl
  refine ⟨trimEnd isBlank (lowerAfter ("CALL " ++ name).toList.reverse tail.toList), ?_⟩
  have trimmed := trim_append_of_solid (solid_call h.nameChar h.ne_nil) []
    (lowerAfter ("CALL " ++ name).toList.reverse tail.toList)
  rw [normalForm, String.toList_append, lower, lowerAfter_append noSigma, begins, List.append_nil]
  simpa using trimmed

theorem firstCall_opening {name rest : List Char} (nameChar : name.all isNameChar)
    (some_nameChar : name ≠ []) :
    FirstCall ("call ".toList ++ (name ++ rest)) [] [' '] (name ++ rest.takeWhile isNameChar)
      (rest.dropWhile isNameChar) := by
  refine ⟨?_, fun _ _ _ _ _ => Nat.zero_le _⟩
  constructor
  · simp
  · decide
  · simp
  · simpa using nameChar
  · simp [some_nameChar]
  · exact longest_dropWhile rest

namespace Policy

variable {p : Policy}

theorem judge_of_callsRightly {text : List Char} (clean : FreeOf p.forbidden text)
    (calls : p.CallsRightly text) :
    p.judge text = if p.opens text then .safe else .rejected .opening := by
  rw [judge, forbiddenIn?_eq_none_iff.mpr clean, callRefusal?_eq_none_iff.mpr calls]

theorem callsRightly_of_opening {name rest : List Char} (nameChar : name.all isNameChar)
    (some_nameChar : name ≠ []) (listed : Lists p.procedures name) :
    p.CallsRightly ("call ".toList ++ (name ++ rest)) := by
  intro marked
  obtain ⟨start, member, begins⟩ := listed
  exact ⟨[], [' '], _, _, firstCall_opening nameChar some_nameChar, start, member,
    begins.trans (List.prefix_append name _)⟩

/-- Only the forbidden words and the openings speak against a query that begins with a call of a listed
procedure. -/
theorem classify_call {name tail : String} (h : PlainName name) (listed : lowerCase name ∈ p.procedures)
    (clean : FreeOf p.forbidden (normalForm ("CALL " ++ name ++ tail))) :
    p.classify ("CALL " ++ name ++ tail) =
      if p.opens (normalForm ("CALL " ++ name ++ tail)) then .safe else .rejected .opening := by
  apply judge_of_callsRightly clean
  obtain ⟨rest, form⟩ := normalForm_call h tail
  rw [form]
  exact callsRightly_of_opening h.nameChar h.ne_nil ⟨_, listed, List.prefix_rfl⟩

instance (table : List String) (name : List Char) : Decidable (Lists table name) :=
  inferInstanceAs (Decidable (∃ start ∈ table, start.toList <+: name))

instance (words : List String) (text : List Char) : Decidable (FreeOf words text) :=
  inferInstanceAs (Decidable (∀ word ∈ words, ¬word.toList <:+: text))

theorem Lists.append {table : List String} {name : List Char} (h : Lists table name)
    (rest : List Char) : Lists table (name ++ rest) := by
  obtain ⟨start, member, begins⟩ := h
  exact ⟨start, member, begins.trans (List.prefix_append name rest)⟩

/-- No entry of a table begins like the name, nor the name like an entry. -/
def Parted (table : List String) (name : List Char) : Prop :=
  ∀ start ∈ table, ¬start.toList <+: name ∧ ¬name <+: start.toList

instance (table : List String) (name : List Char) : Decidable (Parted table name) :=
  inferInstanceAs (Decidable (∀ start ∈ table, ¬start.toList <+: name ∧ ¬name <+: start.toList))

theorem Parted.not_lists {table : List String} {name : List Char} (h : Parted table name)
    (rest : List Char) : ¬Lists table (name ++ rest) := by
  rintro ⟨start, member, begins⟩
  rcases List.prefix_or_prefix_of_prefix begins (List.prefix_append name rest) with short | long
  · exact (h start member).1 short
  · exact (h start member).2 long

theorem standard_openings : ∀ name ∈ defaultProcedures, PlainName name ∧
    if name = "algo." ∨ name = "gds."
    then Parted standard.openings ("call ".toList ++ name.toList.map Char.toLower)
    else Lists standard.openings ("call ".toList ++ name.toList.map Char.toLower) := by
  rw [standard_eq]
  decide +kernel

/-- A query that begins with a call into a listed namespace and has no forbidden word is safe, but for the
two namespaces that no opening admits. -/
theorem standard_classify_call {name tail : String} (listed : name ∈ defaultProcedures)
    (clean : FreeOf standard.forbidden (normalForm ("CALL " ++ name ++ tail))) :
    standard.classify ("CALL " ++ name ++ tail) =
      if name = "algo." ∨ name = "gds." then .rejected .opening else .safe := by
  obtain ⟨plain, openings⟩ := standard_openings name listed
  have lowered : lowerCase name ∈ standard.procedures := List.mem_map_of_mem listed
  obtain ⟨rest, form⟩ := normalForm_call plain tail
  rw [plain.toList_lowerCase, ← List.append_assoc] at form
  rw [classify_call plain lowered clean, form]
  by_cases analytics : name = "algo." ∨ name = "gds."
  · rw [if_pos analytics] at openings
    rw [if_pos analytics, if_neg (mt opens_iff.mp (openings.not_lists rest))]
  · rw [if_neg analytics] at openings
    rw [if_neg analytics, if_pos (opens_iff.mpr (openings.append rest))]

theorem standard_classify_call_meta :
    ("apoc.meta" ∈ defaultProcedures ∧
      FreeOf standard.forbidden (normalForm ("CALL " ++ "apoc.meta" ++ ".Stats() YIELD labels "))) ∧
    standard.classify ("CALL " ++ "apoc.meta" ++ ".Stats() YIELD labels ") = .safe := by
  have listed : "apoc.meta" ∈ defaultProcedures := by decide
  have form : normalForm ("CALL " ++ "apoc.meta" ++ ".Stats() YIELD labels ") =
      "call apoc.meta.stats() yield labels".toList := by
    rw [normalForm, lower_of_ascii (by decide +kernel)]
    decide +kernel
  have clean : FreeOf standard.forbidden
      (normalForm ("CALL " ++ "apoc.meta" ++ ".Stats() YIELD labels ")) := by
    rw [form, standard_eq]
    decide +kernel
  exact ⟨⟨listed, clean⟩, (standard_classify_call listed clean).trans (if_neg (by decide))⟩

/-- The analytics library is listed, and yet no query may begin with a call to it. -/
theorem standard_rejects_listed_call :
    "CALL gds.graph.list()" = "CALL " ++ "gds." ++ "graph.list()" ∧ "gds." ∈ defaultProcedures ∧
      FreeOf standard.forbidden (normalForm "CALL gds.graph.list()") ∧
      standard.classify "CALL gds.graph.list()" = .rejected .opening := by
  have form : normalForm "CALL gds.graph.list()" = "call gds.graph.list()".toList := by
    rw [normalForm, lower_of_ascii (by decide +kernel)]
    decide +kernel
  rw [classify, form, standard_eq]
  refine ⟨by decide, by decide, ?_, ?_⟩
  · decide +kernel
  · decide +kernel

end Policy

end CypherGate.Guard
