import CypherGate.Proofs.Extension
/-!
# Extensions one after another

A policy may be extended again and again. Its tables are in lower case, and lower-casing them once more
leaves them as they are, so that each extension only puts its entries behind those that stand there. What
several extensions add one after another, a single one adds at once.
-/
namespace CypherGate.Guard.Policy

/-- What extensions do to the entries of a policy, and what they leave of them. -/
structure ExtendsByEntries (p : Policy) : Prop where
  /-- Each table has its new entries in lower case behind the old ones. Names are openings of calls too. -/
  tables : ∀ words names, p.extend words names = ⟨p.forbidden ++ words.map lowerCase,
    p.procedures ++ names.map lowerCase, p.openings ++ names.map openingFor⟩
  /-- Two extensions are one by the entries of both. -/
  joined : ∀ words names words' names',
    (p.extend words names).extend words' names' = p.extend (words ++ words') (names ++ names')
  gathered : ∀ additions : List (List String × List String),
    additions.foldl (fun q more => q.extend more.1 more.2) p =
      p.extend (additions.flatMap Prod.fst) (additions.flatMap Prod.snd)
  idle : p.extend [] [] = p
  /-- The case in which entries are given does not matter. -/
  caseless : ∀ words names,
    p.extend (words.map lowerCase) (names.map lowerCase) = p.extend words names
  kept : ∀ words names, p.forbidden <+: (p.extend words names).forbidden ∧
    p.procedures <+: (p.extend words names).procedures ∧
    p.openings <+: (p.extend words names).openings
  /-- All entries are in lower case, those of extensions too. -/
  lowered : ∀ words names, ∀ entry ∈ (p.extend words names).forbidden ++
    (p.extend words names).procedures ++ (p.extend words names).openings, lowerCase entry = entry

theorem isLowered_extend (p : Policy) (words names : List String) :
    (p.extend words names).IsLowered :=
  isLowered_ofTables _ _ _

theorem lowerCase_of_mem {table : List String} (h : table.map lowerCase = table) {entry : String}
    (member : entry ∈ table) : lowerCase entry = entry := by
  have same : table.map lowerCase = table.map id := by rw [h, List.map_id]
  exact List.map_inj_left.mp same entry member

theorem openingFor_lowerCase (name : String) : openingFor (lowerCase name) = openingFor name := by
  rw [openingFor, lowerCase_lowerCase, openingFor]

namespace IsLowered

variable {p : Policy}

theorem entry_lowered (h : p.IsLowered) :
    ∀ entry ∈ p.forbidden ++ p.procedures ++ p.openings, lowerCase entry = entry := by
  intro entry member
  rcases List.mem_append.mp member with member | opening
  · rcases List.mem_append.mp member with word | name
    · exact lowerCase_of_mem h.forbidden word
    · exact lowerCase_of_mem h.procedures name
  · exact lowerCase_of_mem h.openings opening

theorem extend_nil (h : p.IsLowered) : p.extend [] [] = p := by
  rw [h.extend_eq]
  simp only [List.map_nil, List.append_nil]

theorem extend_extend (h : p.IsLowered) (words names words' names' : List String) :
    (p.extend words names).extend words' names' = p.extend (words ++ words') (names ++ names') := by
  rw [(isLowered_extend p words names).extend_eq, h.extend_eq, h.extend_eq]
  simp only [List.map_append, List.append_assoc]

theorem foldl_extend (h : p.IsLowered) (additions : List (List String × List String)) :
    additions.foldl (fun q more => q.extend more.1 more.2) p =
      p.extend (additions.flatMap Prod.fst) (additions.flatMap Prod.snd) := by
  induction additions generalizing p with
  | nil => exact h.extend_nil.symm
  | cons more additions ih =>
    have first := isLowered_extend p more.1 more.2
    rw [List.foldl_cons, ih first, h.extend_extend, List.flatMap_cons, List.flatMap_cons]

theorem extend_map_lowerCase (h : p.IsLowered) (words names : List String) :
    p.extend (words.map lowerCase) (names.map lowerCase) = p.extend words names := by
  have openings : (names.map lowerCase).map openingFor = names.map openingFor := by
    rw [List.map_map]
    apply List.map_congr_left
    intro name _
    exact openingFor_lowerCase name
  rw [h.extend_eq, h.extend_eq, map_lowerCase_twice, map_lowerCase_twice, openings]

end IsLowered

/-- To extend a policy that was built from tables is to put lower-cased entries behind them, and nothing
else. -/
theorem extendsByEntries_ofTables (forbidden procedures openings : List String) :
    ExtendsByEntries (ofTables forbidden procedures openings) := by
  have h := isLowered_ofTables forbidden procedures openings
  constructor
  case tables =>
    intro words names
    exact h.extend_eq words names
  case joined =>
    intro words names words' names'
    exact h.extend_extend words names words' names'
  case gathered =>
    intro additions
    exact h.foldl_extend additions
  case idle => exact h.extend_nil
  case caseless =>
    intro words names
    exact h.extend_map_lowerCase words names
  case kept =>
    intro words names
    rw [h.extend_eq]
    exact ⟨List.prefix_append _ _, List.prefix_append _ _, List.prefix_append _ _⟩
  case lowered =>
    intro words names
    exact (isLowered_extend _ words names).entry_lowered

end CypherGate.Guard.Policy
