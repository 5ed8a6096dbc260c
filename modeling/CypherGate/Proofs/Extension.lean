import CypherGate.Proofs.OpeningCall
/-!
# Extended policies

What forbidden words and procedures that are added to a policy change. The tables of a policy are
lower-cased when it is built, and lower-casing them again leaves them as they are, so that an extension
has the old tables with the new entries behind.
-/
namespace CypherGate.Guard

open Text

namespace Policy

/-- The tables are as they are once they have been lower-cased. -/
structure IsLowered (p : Policy) : Prop where
  forbidden : p.forbidden.map lowerCase = p.forbidden
  procedures : p.procedures.map lowerCase = p.procedures
  openings : p.openings.map lowerCase = p.openings

theorem map_lowerCase_twice (words : List String) :
    (words.map lowerCase).map lowerCase = words.map lowerCase := by
  rw [List.map_map]
  exact List.map_congr_left fun word _ => lowerCase_lowerCase word

theorem isLowered_ofTables (forbidden procedures openings : List String) :
    (ofTables forbidden procedures openings).IsLowered :=
  ⟨map_lowerCase_twice _, map_lowerCase_twice _, map_lowerCase_twice _⟩

/-- The opening with which a query calls a procedure. -/
def openingFor (name : String) : String := "call " ++ lowerCase name

theorem lowerCase_openingFor (name : String) : lowerCase (openingFor name) = openingFor name := by
  have lowered : ∀ c ∈ (openingFor name).toList, Lowered c := by
    intro c hc
    rw [openingFor, String.toList_append, List.mem_append] at hc
    rcases hc with word | name
    · have plain : "call ".toList.all fun c => Lowered c := by decide +kernel
      exact of_decide_eq_true (List.all_eq_true.mp plain c word)
    · rw [lowerCase, String.toList_ofList] at name
      exact lowered_lower _ c name
  rw [lowerCase, lower_of_lowered lowered, String.ofList_toList]

theorem IsLowered.extend_eq {p : Policy} (h : p.IsLowered) (words names : List String) :
    p.extend words names = ⟨p.forbidden ++ words.map lowerCase, p.procedures ++ names.map lowerCase,
      p.openings ++ names.map openingFor⟩ := by
  have new : (names.map openingFor).map lowerCase = names.map openingFor := by
    rw [List.map_map]
    exact List.map_congr_left fun name _ => lowerCase_openingFor name
  have openings : (p.openings ++ names.map openingFor).map lowerCase =
      p.openings ++ names.map openingFor := by
    rw [List.map_append, h.openings, new]
  rw [extend, ofTables, List.map_append, List.map_append, h.forbidden, h.procedures]
  exact congrArg _ openings

theorem lists_append {table more : List String} {name : List Char} :
    Lists (table ++ more) name ↔ Lists table name ∨ Lists more name := by
  simp only [Lists, List.mem_append, or_and_right, exists_or]

theorem freeOf_append {words more : List String} {text : List Char} :
    FreeOf (words ++ more) text ↔ FreeOf words text ∧ FreeOf more text := by
  simp only [FreeOf, List.mem_append, or_imp, forall_and]

variable {p q : Policy} {text : List Char}

theorem Accepts.mono (h : p.Accepts text) (forbidden : q.forbidden ⊆ p.forbidden)
    (procedures : p.procedures ⊆ q.procedures) (openings : p.openings ⊆ q.openings) :
    q.Accepts text := by
  refine ⟨fun word member => h.clean word (forbidden member), fun marked => ?_, ?_⟩
  · obtain ⟨before, blanks, name, after, call, start, member, begins⟩ := h.calls marked
    exact ⟨before, blanks, name, after, call, start, procedures member, begins⟩
  · obtain ⟨start, member, begins⟩ := h.opening
    exact ⟨start, openings member, begins⟩

theorem classify_eq_safe_iff {query : String} :
    p.classify query = .safe ↔ p.Accepts (normalForm query) := judge_eq_safe_iff

theorem forbiddenIn?_of_append {more : List String} {word : String}
    (tables : q.forbidden = p.forbidden ++ more) (found : p.forbiddenIn? text = some word) :
    q.forbiddenIn? text = some word := by
  obtain ⟨earlier, later, table, clean, occurs⟩ := forbiddenIn?_eq_some_iff.mp found
  refine forbiddenIn?_eq_some_iff.mpr ⟨earlier, later ++ more, ?_, clean, occurs⟩
  rw [tables, table, List.append_assoc, List.cons_append]

theorem forbiddenIn?_of_judge {word : String} (h : p.judge text = .rejected (.forbidden word)) :
    p.forbiddenIn? text = some word := by
  rcases judge_eq_rejected_iff.mp h with ⟨word', found, same⟩ | ⟨-, refused | ⟨-, -, opening⟩⟩
  · cases same
    exact found
  · obtain ⟨-, ⟨call, -⟩ | ⟨_, call, -⟩⟩ := callRefusal?_eq_some_iff.mp refused
    · cases call
    · cases call
  · cases opening

/-- What an extension by forbidden words and procedures promises, and what it does not touch. -/
structure Extends (p : Policy) (words names : List String) : Prop where
  /-- New forbidden words only refuse more. -/
  stricter : ∀ query, (p.extend words []).classify query = .safe → p.classify query = .safe
  /-- New procedures only accept more. -/
  wider : ∀ query, p.classify query = .safe → (p.extend [] names).classify query = .safe
  /-- A forbidden word stays the reason, whatever is added. -/
  firm : ∀ query word, p.classify query = .rejected (.forbidden word) →
    (p.extend words names).classify query = .rejected (.forbidden word)
  /-- What new procedures accept begins with a call of one of them, or has one as its first call. -/
  earned : ∀ query, (p.extend [] names).classify query = .safe → p.classify query ≠ .safe →
    ∃ name ∈ names,
      (∃ before blanks called after, FirstCall (normalForm query) before blanks called after ∧
        (lowerCase name).toList <+: called) ∨
      ("call " ++ lowerCase name).toList <+: normalForm query
  /-- A query that begins with a call of a new procedure has only forbidden words against it. -/
  granted : ∀ name ∈ names, name ≠ "" → name.toList.all isPlainChar → ∀ tail,
    (p.extend words names).classify ("CALL " ++ name ++ tail) = .safe ↔
      ∀ word ∈ p.forbidden ++ words.map lowerCase,
        ¬word.toList <:+: normalForm ("CALL " ++ name ++ tail)

theorem earned_of_safe (h : p.IsLowered) {names : List String} {query : String}
    (now : (p.extend [] names).classify query = .safe) (before : p.classify query ≠ .safe) :
    ∃ name ∈ names,
      (∃ before blanks called after, FirstCall (normalForm query) before blanks called after ∧
        (lowerCase name).toList <+: called) ∨
      (openingFor name).toList <+: normalForm query := by
  have accepted := classify_eq_safe_iff.mp now
  have refused := mt classify_eq_safe_iff.mpr before
  rw [h.extend_eq] at accepted
  obtain ⟨clean, calls, opening⟩ := accepted
  have clean : FreeOf p.forbidden (normalForm query) := (freeOf_append.mp clean).1
  by_cases rightly : p.CallsRightly (normalForm query)
  · rcases lists_append.mp opening with old | ⟨start, member, begins⟩
    · exact absurd ⟨clean, rightly, old⟩ refused
    · obtain ⟨name, new, rfl⟩ := List.mem_map.mp member
      exact ⟨name, new, .inr begins⟩
  · obtain ⟨marked, wrong⟩ := Classical.not_imp.mp rightly
    obtain ⟨before, blanks, called, after, call, listed⟩ := calls marked
    rcases lists_append.mp listed with old | ⟨start, member, begins⟩
    · exact absurd ⟨before, blanks, called, after, call, old⟩ wrong
    · obtain ⟨name, new, rfl⟩ := List.mem_map.mp member
      exact ⟨name, new, .inl ⟨before, blanks, called, after, call, begins⟩⟩

theorem granted_iff (h : p.IsLowered) {words names : List String} {name : String}
    (new : name ∈ names) (plain : PlainName name) (tail : String) :
    (p.extend words names).classify ("CALL " ++ name ++ tail) = .safe ↔
      FreeOf (p.forbidden ++ words.map lowerCase) (normalForm ("CALL " ++ name ++ tail)) := by
  have listed : lowerCase name ∈ (p.extend words names).procedures := by
    rw [h.extend_eq]
    exact List.mem_append_right _ (List.mem_map_of_mem new)
  have forbidden : (p.extend words names).forbidden = p.forbidden ++ words.map lowerCase := by
    rw [h.extend_eq]
  rw [← forbidden]
  constructor
  · exact fun safe => (classify_eq_safe_iff.mp safe).clean
  · intro clean
    obtain ⟨rest, form⟩ := normalForm_call plain tail
    have opens : (p.extend words names).opens (normalForm ("CALL " ++ name ++ tail)) := by
      refine opens_iff.mpr ⟨openingFor name, ?_, rest, ?_⟩
      · rw [h.extend_eq]
        exact List.mem_append_right _ (List.mem_map_of_mem new)
      · rw [form, openingFor, String.toList_append, List.append_assoc]
    rw [classify_call plain listed clean, if_pos opens]

/-- Every policy built from tables can be extended with the effects promised and no others. -/
theorem extends_ofTables (forbidden procedures openings words names : List String) :
    Extends (ofTables forbidden procedures openings) words names := by
  have h := isLowered_ofTables forbidden procedures openings
  constructor
  case stricter =>
    intro query safe
    have accepted := classify_eq_safe_iff.mp safe
    rw [h.extend_eq] at accepted
    exact classify_eq_safe_iff.mpr (accepted.mono (List.subset_append_left _ _) (by simp) (by simp))
  case wider =>
    intro query safe
    have accepted := classify_eq_safe_iff.mp safe
    rw [classify_eq_safe_iff, h.extend_eq]
    exact accepted.mono (by simp) (List.subset_append_left _ _) (List.subset_append_left _ _)
  case firm =>
    intro query word rejected
    have found := forbiddenIn?_of_judge rejected
    have tables : ((ofTables forbidden procedures openings).extend words names).forbidden =
        (ofTables forbidden procedures openings).forbidden ++ words.map lowerCase := by
      rw [h.extend_eq]
    exact judge_eq_rejected_iff.mpr (.inl ⟨word, forbiddenIn?_of_append tables found, rfl⟩)
  case earned =>
    intro query now before
    exact earned_of_safe h now before
  case granted =>
    intro name new some_char plain tail
    exact granted_iff h new ⟨some_char, plain⟩ tail

/-- The standard policy refuses the call for its procedure, its extension accepts it. -/
theorem extends_ofTables_readonly :
    standard.classify ("CALL " ++ "My.Readonly" ++ ".stats()") =
        .rejected (.procedure "my.readonly.stats") ∧
      (standard.extend ["Secret"] ["My.Readonly"]).classify ("CALL " ++ "My.Readonly" ++ ".stats()") =
        .safe := by
  have form : normalForm ("CALL " ++ "My.Readonly" ++ ".stats()") =
      "call my.readonly.stats()".toList := by
    rw [normalForm, lower_of_ascii (by decide +kernel)]
    decide +kernel
  have before : standard.classify ("CALL " ++ "My.Readonly" ++ ".stats()") =
      .rejected (.procedure "my.readonly.stats") := by
    rw [classify, form, standard_eq]
    decide +kernel
  have clean : ∀ word ∈ standard.forbidden ++ ["Secret"].map lowerCase,
      ¬word.toList <:+: normalForm ("CALL " ++ "My.Readonly" ++ ".stats()") := by
    rw [form, standard_eq, map_lowerCase_of_ascii (by decide +kernel)]
    decide +kernel
  have extends_standard := extends_ofTables defaultForbidden defaultProcedures defaultOpenings
    ["Secret"] ["My.Readonly"]
  exact ⟨before, (extends_standard.granted "My.Readonly" (by decide) (by decide) (by decide +kernel)
    ".stats()").mpr clean⟩

end Policy

end CypherGate.Guard
