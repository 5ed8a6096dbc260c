import CypherGate.Proofs.KeyedTrees
import CypherGate.Request.Run
import Mathlib.Data.List.Nodup
import Mathlib.Data.List.Perm.Basic
/-!
# The schema of samples

Arguments for samples are accepted just if they are meaningful, whatever their order. Otherwise each
argument that is wrong by itself has one problem, the fields first, and only arguments that are all right
by themselves can be wrong together. One name cannot be used at all, since it is taken.
-/
namespace CypherGate

section

variable {α : Type} {xs ys : List (String × α)} {key : String} {v : α}

theorem lookup_isSome_of_mem (h : (key, v) ∈ xs) : (xs.lookup key).isSome :=
  List.lookup_isSome_iff.mpr ⟨(key, v), h, beq_self_eq_true key⟩

theorem lookup_eq_some_iff_mem (distinct : (xs.map Prod.fst).Nodup) :
    xs.lookup key = some v ↔ (key, v) ∈ xs := by
  refine ⟨mem_of_lookup_eq_some, fun member => ?_⟩
  obtain ⟨w, found⟩ := Option.isSome_iff_exists.mp (lookup_isSome_of_mem member)
  have same := List.inj_on_of_nodup_map distinct (mem_of_lookup_eq_some found) member rfl
  rw [found, (Prod.mk.inj same).2]

theorem lookup_eq_of_perm (h : xs.Perm ys) (distinct : (xs.map Prod.fst).Nodup) :
    (xs.lookup · : String → Option α) = (ys.lookup ·) := by
  funext key
  have distinct' : (ys.map Prod.fst).Nodup := (h.map Prod.fst).nodup_iff.mp distinct
  exact Option.ext fun v => (lookup_eq_some_iff_mem distinct).trans
    (h.mem_iff.trans (lookup_eq_some_iff_mem distinct').symm)

end

namespace Arguments

theorem nodup_given (args : Arguments) : ((given args).map Prod.fst).Nodup :=
  (nodup_collapse args).sublist (List.filter_sublist.map Prod.fst)

theorem given_perm {args other : Arguments} (h : args.Perm other) (distinct : (args.map Prod.fst).Nodup) :
    (given args).Perm (given other) := by
  have distinct' : (other.map Prod.fst).Nodup := (h.map Prod.fst).nodup_iff.mp distinct
  rw [given, given, collapse_of_nodup distinct, collapse_of_nodup distinct']
  exact h.filter _

end Arguments

def Conversion.cause? {α : Type} (conversion : Conversion α) (v : Value) : Option Cause :=
  match conversion v with
  | .ok _ => none
  | .error cause => some cause

namespace Checked

variable {α : Type}

theorem eq_error_of_problems {checked : Checked α} (h : checked.problems ≠ []) :
    checked = .error checked.problems := by
  cases checked with
  | ok a => exact absurd rfl h
  | error ps => rfl

end Checked

namespace Arguments

variable {α : Type} (args : Arguments) (name : String) (default : α) (conversion : Conversion α)

theorem problems_optional : (optional args name default conversion).problems =
    (((args.lookup name).bind conversion.cause?).map (Problem.mk name)).toList := by
  unfold optional Conversion.cause?
  cases args.lookup name with
  | none => rfl
  | some v =>
    simp only [Conversion.located, Option.bind_some]
    cases conversion v <;> rfl

theorem optional_eq_ok {a : α} : optional args name default conversion = .ok a ↔
    args.lookup name = none ∧ a = default ∨ ∃ v, args.lookup name = some v ∧ conversion v = .ok a := by
  unfold optional
  cases args.lookup name with
  | none => simp [eq_comm]
  | some v => cases h : conversion v <;> simp [Conversion.located, h, Except.mapError]

theorem exists_optional (h : ∀ v, args.lookup name = some v → ∃ a, conversion v = .ok a) :
    ∃ a, optional args name default conversion = .ok a := by
  simp only [optional_eq_ok]
  cases given : args.lookup name with
  | none => exact ⟨default, .inl ⟨rfl, rfl⟩⟩
  | some v =>
    obtain ⟨a, converted⟩ := h v given
    exact ⟨a, .inr ⟨v, rfl, converted⟩⟩

end Arguments

theorem Conversion.cause?_eq_none_iff {α : Type} {conversion : Conversion α} {v : Value} :
    conversion.cause? v = none ↔ ∃ a, conversion v = .ok a := by
  unfold cause?
  cases conversion v <;> simp

theorem Conversion.within_eq_ok_iff {least greatest : Nat} {v : Value} {n : Within least greatest} :
    within least greatest v = .ok n ↔ integer v = .ok (n.val : Int) := by
  obtain ⟨n, low, high⟩ := n
  unfold within
  cases whole : integer v with
  | error cause => simp [bind, Except.bind]
  | ok m =>
    simp only [bind, Except.bind]
    constructor
    · intro h
      split at h
      · cases h
      · split at h
        next below inside =>
          have same := congrArg Subtype.val (Except.ok.inj h)
          simp only at same
          rw [Except.ok.injEq]
          omega
        next => cases h
    · intro h
      obtain rfl := Except.ok.inj h
      rw [if_neg (by omega), dif_pos (by simpa using ⟨low, high⟩)]
      simp

theorem Conversion.exists_within_iff {least greatest : Nat} {v : Value} :
    (∃ n, within least greatest v = .ok n) ↔
      ∃ n : Int, integer v = .ok n ∧ least ≤ n ∧ n ≤ greatest := by
  constructor
  · rintro ⟨n, h⟩
    have low := n.2.1
    have high := n.2.2
    exact ⟨n.val, within_eq_ok_iff.mp h, by omega, by omega⟩
  · rintro ⟨n, whole, low, high⟩
    refine ⟨⟨n.toNat, by omega, by omega⟩, within_eq_ok_iff.mpr ?_⟩
    rw [whole, Except.ok.injEq]
    show n = (n.toNat : Int)
    omega

namespace SampleArguments

open Arguments

/-! ## Meaningful arguments -/

def typeSpellings : List String := ["relationshipType", "relationship_type"]

theorem mem_typeSpellings {name : String} :
    name ∈ typeSpellings ↔ name = "relationshipType" ∨ name = "relationship_type" := by
  simp [typeSpellings]

def knownNames : List String := "label" :: (typeSpellings ++ ["limit"])

/-- A text that may be given under any of some names, or under none of them. -/
inductive GivenText (get : String → Option Value) (names : List String) : Option String → Prop where
  | absent (missing : ∀ name ∈ names, get name = none) : GivenText get names none
  | given {name text : String} {v : Value} (spelled : name ∈ names) (value : get name = some v)
    (converted : Conversion.text v = .ok text) : GivenText get names (some text)

/-- The number of samples, which is five if it is not given. -/
inductive GivenLimit (get : String → Option Value) : Nat → Prop where
  | absent (missing : get "limit" = none) : GivenLimit get 5
  | given {v : Value} {n : Nat} (value : get "limit" = some v)
    (converted : Conversion.integer v = .ok (n : Int)) : GivenLimit get n

/-- Each argument is right by itself. -/
structure Sound (get : String → Option Value) : Prop where
  known : ∀ name, (get name).isSome → name ∈ knownNames
  one_spelling : ¬((get "relationshipType").isSome ∧ (get "relationship_type").isSome)
  texts : ∀ name ∈ "label" :: typeSpellings, ∀ v, get name = some v → ∃ s, Conversion.text v = .ok s
  limit : ∀ v, get "limit" = some v → ∃ n : Int, Conversion.integer v = .ok n ∧ 1 ≤ n ∧ n ≤ 50

/-- The arguments are also right together: they ask for nodes or for relationships, not for both. -/
structure Meaningful (get : String → Option Value) : Prop extends Sound get where
  one_target : ∀ label type, GivenText get ["label"] (some label) →
    GivenText get typeSpellings (some type) → label = "" ∨ type = ""

/-- The fields are those of the arguments. -/
structure FieldsOf (get : String → Option Value) (s : SampleArguments) : Prop where
  label : GivenText get ["label"] s.label
  relationshipType : GivenText get typeSpellings s.relationshipType
  limit : GivenLimit get s.limit.val

section

variable {get : String → Option Value}

theorem GivenText.unique {names : List String} {a b : Option String} (h : GivenText get names a)
    (k : GivenText get names b)
    (one : ∀ n ∈ names, ∀ m ∈ names, (get n).isSome → (get m).isSome → n = m) : a = b := by
  cases h with
  | absent missing =>
    cases k with
    | absent _ => rfl
    | given spelled value converted => simp [missing _ spelled] at value
  | @given name text v spelled value converted =>
    cases k with
    | absent missing => simp [missing _ spelled] at value
    | @given name' text' v' spelled' value' converted' =>
      obtain rfl := one name spelled name' spelled' (by simp [value]) (by simp [value'])
      obtain rfl := Option.some.inj (value.symm.trans value')
      rw [Except.ok.inj (converted.symm.trans converted')]

theorem one_label : ∀ n ∈ ["label"], ∀ m ∈ ["label"], (get n).isSome → (get m).isSome → n = m := by
  intro n hn m hm _ _
  rw [List.mem_singleton.mp hn, List.mem_singleton.mp hm]

theorem Sound.one_type (h : Sound get) :
    ∀ n ∈ typeSpellings, ∀ m ∈ typeSpellings, (get n).isSome → (get m).isSome → n = m := by
  intro n hn m hm given given'
  rcases mem_typeSpellings.mp hn with rfl | rfl <;> rcases mem_typeSpellings.mp hm with rfl | rfl
  · rfl
  · exact absurd ⟨given, given'⟩ h.one_spelling
  · exact absurd ⟨given', given⟩ h.one_spelling
  · rfl

theorem GivenLimit.unique {n m : Nat} (h : GivenLimit get n) (k : GivenLimit get m) : n = m := by
  cases h with
  | absent missing =>
    cases k with
    | absent _ => rfl
    | given value converted => simp [missing] at value
  | given value converted =>
    cases k with
    | absent missing => simp [missing] at value
    | given value' converted' =>
      obtain rfl := Option.some.inj (value.symm.trans value')
      have := Except.ok.inj (converted.symm.trans converted')
      omega

theorem FieldsOf.unique {s s' : SampleArguments} (sound : Sound get) (h : FieldsOf get s)
    (k : FieldsOf get s') : s = s' := by
  obtain ⟨label, type, limit, target⟩ := s
  obtain ⟨label', type', limit', target'⟩ := s'
  obtain rfl : label = label' := h.label.unique k.label one_label
  obtain rfl : type = type' := h.relationshipType.unique k.relationshipType sound.one_type
  obtain rfl : limit = limit' := Subtype.ext (h.limit.unique k.limit)
  rfl

end

/-! ## Problems of the arguments -/

section

variable {args : Arguments} {name : String} {v : Value}

theorem typeName_mem (args : Arguments) : typeName args ∈ typeSpellings := by
  rw [mem_typeSpellings]
  unfold typeName
  split
  · exact .inl rfl
  · split
    · exact .inr rfl
    · exact .inl rfl

theorem typeName_eq (one : ¬((args.lookup "relationshipType").isSome ∧
    (args.lookup "relationship_type").isSome)) (spelled : name ∈ typeSpellings)
    (given : (args.lookup name).isSome) : typeName args = name := by
  unfold typeName
  rcases mem_typeSpellings.mp spelled with rfl | rfl
  · rw [if_pos given]
  · rw [if_neg fun h => one ⟨h, given⟩, if_pos given]

theorem isSome_typeName (spelled : name ∈ typeSpellings) (given : (args.lookup name).isSome) :
    (args.lookup (typeName args)).isSome := by
  by_cases first : (args.lookup "relationshipType").isSome
  · rwa [typeName, if_pos first]
  · by_cases second : (args.lookup "relationship_type").isSome
    · rwa [typeName, if_neg first, if_pos second]
    · rcases mem_typeSpellings.mp spelled with rfl | rfl
      · exact absurd given first
      · exact absurd given second

/-- The arguments that fields are taken from, in the order of the fields. -/
def fieldNames (args : Arguments) : List String := ["label", typeName args, "limit"]

theorem mem_fieldNames_iff :
    name ∈ fieldNames args ↔ name = "label" ∨ name = typeName args ∨ name = "limit" := by
  simp [fieldNames]

/-- What an argument is wrong for by itself. A second spelling of the relationship type is as unknown as
any other name. -/
def cause? (args : Arguments) (e : String × Value) : Option Cause :=
  if e.1 = "label" ∨ e.1 = typeName args then Conversion.cause? Conversion.text e.2
  else if e.1 = "limit" then Conversion.cause? (Conversion.within 1 50) e.2
  else some .unexpected

def problem? (args : Arguments) (e : String × Value) : Option Problem :=
  (cause? args e).map (Problem.mk (locationOf e.1))

theorem cause?_label : cause? args ("label", v) = Conversion.cause? Conversion.text v :=
  if_pos (.inl rfl)

theorem cause?_typeName : cause? args (typeName args, v) = Conversion.cause? Conversion.text v :=
  if_pos (.inr rfl)

theorem typeName_ne (args : Arguments) : typeName args ≠ "label" ∧ typeName args ≠ "limit" := by
  rcases mem_typeSpellings.mp (typeName_mem args) with h | h <;> simp [h]

theorem cause?_limit :
    cause? args ("limit", v) = Conversion.cause? (Conversion.within 1 50) v := by
  refine (if_neg ?_).trans (if_pos rfl)
  simp [(typeName_ne args).2.symm]

theorem cause?_of_notMem (h : name ∉ fieldNames args) : cause? args (name, v) = some .unexpected := by
  rw [mem_fieldNames_iff, not_or, not_or] at h
  obtain ⟨label, type, limit⟩ := h
  exact (if_neg (by simp [label, type])).trans (if_neg limit)

theorem mem_fieldNames (h : cause? args (name, v) = none) : name ∈ fieldNames args := by
  by_contra other
  rw [cause?_of_notMem other] at h
  cases h

theorem spelled_of_unrefused (none : ∀ e ∈ args, cause? args e = none) (spelled : name ∈ typeSpellings)
    (given : args.lookup name = some v) : name = typeName args := by
  have field := mem_fieldNames (none _ (mem_of_lookup_eq_some given))
  rcases mem_fieldNames_iff.mp field with rfl | same | rfl
  · simp [typeSpellings] at spelled
  · exact same
  · simp [typeSpellings] at spelled

theorem sound_of_unrefused (none : ∀ e ∈ args, cause? args e = none) : Sound (args.lookup ·) where
  known := by
    intro name isSome
    obtain ⟨v, given⟩ := Option.isSome_iff_exists.mp isSome
    have field := mem_fieldNames (none _ (mem_of_lookup_eq_some given))
    rcases mem_fieldNames_iff.mp field with rfl | rfl | rfl
    · exact List.mem_cons_self
    · exact List.mem_cons_of_mem _ (List.mem_append_left _ (typeName_mem args))
    · simp [knownNames]
  one_spelling := by
    rintro ⟨first, second⟩
    obtain ⟨v, given⟩ := Option.isSome_iff_exists.mp first
    obtain ⟨w, given'⟩ := Option.isSome_iff_exists.mp second
    have same := (spelled_of_unrefused none (mem_typeSpellings.mpr (.inl rfl)) given).trans
      (spelled_of_unrefused none (mem_typeSpellings.mpr (.inr rfl)) given').symm
    simp at same
  texts := by
    intro name texts v given
    have unrefused := none _ (mem_of_lookup_eq_some given)
    rw [← Conversion.cause?_eq_none_iff]
    rcases List.mem_cons.mp texts with rfl | spelled
    · exact cause?_label ▸ unrefused
    · obtain rfl := spelled_of_unrefused none spelled given
      exact cause?_typeName ▸ unrefused
  limit := by
    intro v given
    have unrefused := none _ (mem_of_lookup_eq_some given)
    rwa [cause?_limit, Conversion.cause?_eq_none_iff, Conversion.exists_within_iff] at unrefused

theorem Sound.cause?_eq_none (sound : Sound (args.lookup ·)) (given : args.lookup name = some v) :
    cause? args (name, v) = none := by
  have isSome : (args.lookup name).isSome := by rw [given]; rfl
  have known := sound.known name isSome
  simp only [knownNames, List.mem_cons, List.mem_append, List.not_mem_nil, or_false] at known
  rcases known with rfl | spelled | rfl
  · rw [cause?_label, Conversion.cause?_eq_none_iff]
    exact sound.texts _ List.mem_cons_self v given
  · obtain rfl := typeName_eq sound.one_spelling spelled isSome
    rw [cause?_typeName, Conversion.cause?_eq_none_iff]
    exact sound.texts _ (List.mem_cons_of_mem _ spelled) v given
  · rw [cause?_limit, Conversion.cause?_eq_none_iff, Conversion.exists_within_iff]
    exact sound.limit v given

theorem sound_iff (distinct : (args.map Prod.fst).Nodup) :
    Sound (args.lookup ·) ↔ ∀ e ∈ args, cause? args e = none :=
  ⟨fun sound _ member => sound.cause?_eq_none ((lookup_eq_some_iff_mem distinct).mpr member),
    sound_of_unrefused⟩

/-- Arguments in the order of their problems: those of the fields first, each field at most once, and then
all others as they came. -/
structure Ordered (args ordered : Arguments) : Prop where
  perm : ordered.Perm args
  fields : ∃ fields, ordered = fields ++ args.filter (fun e => e.1 ∉ fieldNames args) ∧
    (fields.map Prod.fst).Sublist (fieldNames args)

def fieldArguments (args : Arguments) : Arguments :=
  (fieldNames args).filterMap fun name => (args.lookup name).map fun v => (name, v)

def inOrder (args : Arguments) : Arguments :=
  fieldArguments args ++ args.filter fun e => e.1 ∉ fieldNames args

theorem mem_fieldArguments {e : String × Value} :
    e ∈ fieldArguments args ↔ e.1 ∈ fieldNames args ∧ args.lookup e.1 = some e.2 := by
  obtain ⟨name, v⟩ := e
  simp only [fieldArguments, List.mem_filterMap, Option.map_eq_some_iff, Prod.mk.injEq]
  constructor
  · rintro ⟨_, member, _, given, rfl, rfl⟩
    exact ⟨member, given⟩
  · rintro ⟨member, given⟩
    exact ⟨name, member, v, given, rfl, rfl⟩

theorem keys_fieldArguments (args : Arguments) :
    ((fieldArguments args).map Prod.fst).Sublist (fieldNames args) := by
  unfold fieldArguments
  induction fieldNames args with
  | nil => exact .slnil
  | cons name names ih =>
    rw [List.filterMap_cons]
    cases args.lookup name with
    | none => exact ih.cons name
    | some v => exact ih.cons_cons name

theorem nodup_fieldNames (args : Arguments) : (fieldNames args).Nodup := by
  obtain ⟨label, limit⟩ := typeName_ne args
  simp [fieldNames, label.symm, limit]

theorem ordered_inOrder (distinct : (args.map Prod.fst).Nodup) : Ordered args (inOrder args) := by
  refine ⟨?_, fieldArguments args, rfl, keys_fieldArguments args⟩
  -- the fields are looked up by name, so they are the entries under those names only up to order
  have fields : (fieldArguments args).Perm (args.filter fun e => e.1 ∈ fieldNames args) := by
    have nodup : (fieldArguments args).Nodup :=
      ((nodup_fieldNames args).sublist (keys_fieldArguments args)).of_map
    rw [List.perm_ext_iff_of_nodup nodup (distinct.of_map.filter _)]
    rintro ⟨name, v⟩
    rw [mem_fieldArguments, lookup_eq_some_iff_mem distinct]
    simp [and_comm]
  have others : (args.filter fun e => e.1 ∉ fieldNames args) =
      args.filter fun e => !decide (e.1 ∈ fieldNames args) := by simp
  rw [inOrder, others]
  exact (fields.append_right _).trans (List.filter_append_perm _ _)

def problemsInOrder (args : Arguments) : List Problem := (inOrder args).filterMap (problem? args)

theorem problemsInOrder_eq_nil_iff (distinct : (args.map Prod.fst).Nodup) :
    problemsInOrder args = [] ↔ Sound (args.lookup ·) := by
  rw [sound_iff distinct, problemsInOrder, List.filterMap_eq_nil_iff]
  simp only [problem?, Option.map_eq_none_iff, (ordered_inOrder distinct).perm.mem_iff]

abbrev Fields := Option String × Option String × SampleLimit

def fields (args : Arguments) : Checked Fields :=
  ((optionalText args "label").both ((optionalText args (typeName args)).both
    (optional args "limit" SampleLimit.default (Conversion.within 1 50)))).adding
      (unexpected args (fieldNames args))

theorem parse_eq (A : Arguments) :
    parse A = (fields (given A)).bind fun (label, type, limit) => ofFields label type limit := rfl

theorem cause?_some_text (v : Value) :
    Conversion.cause? (fun v => some <$> Conversion.text v) v = Conversion.cause? Conversion.text v := by
  simp only [Conversion.cause?]
  cases Conversion.text v <;> rfl

theorem problem?_field {conversion : Value → Option Cause}
    (own : ∀ v, cause? args (name, v) = conversion v) (named : name ≠ "") :
    ((args.lookup name).map fun v => (name, v)).bind (problem? args) =
      ((args.lookup name).bind conversion).map (Problem.mk name) := by
  have located : locationOf name = name := if_neg named
  cases args.lookup name with
  | none => rfl
  | some v => simp [problem?, own, located]

theorem unexpected_eq (known : List String) : unexpected args known =
    (args.filter fun e => e.1 ∉ known).map fun e => ⟨locationOf e.1, .unexpected⟩ := by
  simp [unexpected]

theorem problems_others (args : Arguments) :
    (args.filter fun e => e.1 ∉ fieldNames args).filterMap (problem? args) =
      unexpected args (fieldNames args) := by
  rw [unexpected_eq, ← List.filterMap_eq_map]
  refine List.filterMap_congr fun e member => ?_
  have other : e.1 ∉ fieldNames args := by simpa using (List.mem_filter.mp member).2
  rw [problem?, show cause? args e = some .unexpected from cause?_of_notMem other]
  rfl

theorem problems_fields (args : Arguments) : (fields args).problems = problemsInOrder args := by
  have named : typeName args ≠ "" := by
    rcases mem_typeSpellings.mp (typeName_mem args) with h | h <;> simp [h]
  have texts : Conversion.cause? (fun v => some <$> Conversion.text v) =
      Conversion.cause? Conversion.text := funext cause?_some_text
  rw [fields, Checked.problems_adding, Checked.problems_both, Checked.problems_both, optionalText,
    optionalText, problems_optional, problems_optional, problems_optional, texts, problemsInOrder, inOrder,
    List.filterMap_append, problems_others, fieldArguments, List.filterMap_filterMap,
    List.filterMap_eq_flatMap_toList]
  simp only [fieldNames, List.flatMap_cons, List.flatMap_nil, List.append_nil,
    problem?_field (fun v => cause?_label) (by decide), problem?_field (fun v => cause?_typeName) named,
    problem?_field (fun v => cause?_limit) (by decide)]

theorem parse_of_problems {A : Arguments} (h : problemsInOrder (given A) ≠ []) :
    parse A = .error (problemsInOrder (given A)) := by
  rw [← problems_fields] at h ⊢
  rw [parse_eq, Checked.eq_error_of_problems h]
  rfl

theorem optionalText_eq_ok {text : Option String} (h : optionalText args name = .ok text) :
    GivenText (args.lookup ·) [name] text := by
  rcases (optional_eq_ok args name none _).mp h with ⟨missing, rfl⟩ | ⟨v, given, converted⟩
  · exact .absent (by simpa using missing)
  · have mapped : (Conversion.text v).map some = .ok text := converted
    obtain ⟨s, read, rfl⟩ := ok_of_map mapped
    exact .given List.mem_cons_self given read

theorem GivenText.of_typeName {text : Option String} (h : GivenText (args.lookup ·) [typeName args] text) :
    GivenText (args.lookup ·) typeSpellings text := by
  cases h with
  | absent missing =>
    refine .absent fun name spelled => Option.not_isSome_iff_eq_none.mp fun given => ?_
    have there := isSome_typeName spelled given
    simp [missing (typeName args) List.mem_cons_self] at there
  | given spelled value converted =>
    obtain rfl := List.mem_singleton.mp spelled
    exact .given (typeName_mem args) value converted

theorem fields_of_sound (distinct : (args.map Prod.fst).Nodup) (sound : Sound (args.lookup ·)) :
    ∃ label type limit, fields args = .ok (label, type, limit) ∧
      GivenText (args.lookup ·) ["label"] label ∧ GivenText (args.lookup ·) typeSpellings type ∧
      GivenLimit (args.lookup ·) limit.val := by
  have text : ∀ {name}, name ∈ "label" :: typeSpellings → ∃ text, optionalText args name = .ok text := by
    intro name named
    refine exists_optional args name none _ fun v given => ?_
    obtain ⟨s, read⟩ := sound.texts name named v given
    exact ⟨some s, by rw [read]; rfl⟩
  have none : unexpected args (fieldNames args) = [] := by
    have unrefused := (sound_iff distinct).mp sound
    simp only [unexpected_eq, List.map_eq_nil_iff, List.filter_eq_nil_iff]
    intro e member
    simpa using mem_fieldNames (unrefused e member)
  obtain ⟨label, first⟩ := text List.mem_cons_self
  obtain ⟨type, second⟩ := text (List.mem_cons_of_mem _ (typeName_mem args))
  obtain ⟨limit, third⟩ := exists_optional args "limit" SampleLimit.default (Conversion.within 1 50)
    fun v given => Conversion.exists_within_iff.mpr (sound.limit v given)
  refine ⟨label, type, limit, ?_, optionalText_eq_ok first, (optionalText_eq_ok second).of_typeName, ?_⟩
  · exact Checked.adding_eq_ok.mpr
      ⟨none, Checked.both_eq_ok.mpr ⟨first, Checked.both_eq_ok.mpr ⟨second, third⟩⟩⟩
  · rcases (optional_eq_ok args "limit" _ _).mp third with ⟨missing, rfl⟩ | ⟨v, given, converted⟩
    · exact .absent missing
    · exact .given given (Conversion.within_eq_ok_iff.mp converted)

/-! ## Acceptance -/

theorem isNamed_iff {text : Option String} : isNamed text ↔ ∃ s, text = some s ∧ s ≠ "" := by
  cases text <;> simp [isNamed]

theorem one_target_iff {label type : Option String} (sound : Sound (args.lookup ·))
    (first : GivenText (args.lookup ·) ["label"] label)
    (second : GivenText (args.lookup ·) typeSpellings type) :
    Meaningful (args.lookup ·) ↔ ¬(isNamed label ∧ isNamed type) := by
  constructor
  · rintro meaningful ⟨named, named'⟩
    obtain ⟨s, rfl, filled⟩ := isNamed_iff.mp named
    obtain ⟨s', rfl, filled'⟩ := isNamed_iff.mp named'
    rcases meaningful.one_target s s' first second with empty | empty
    · exact filled empty
    · exact filled' empty
  · intro apart
    refine ⟨sound, fun s s' given given' => ?_⟩
    obtain rfl := first.unique given one_label
    obtain rfl := second.unique given' sound.one_type
    by_contra filled
    rw [not_or] at filled
    exact apart ⟨isNamed_iff.mpr ⟨s, rfl, filled.1⟩, isNamed_iff.mpr ⟨s', rfl, filled.2⟩⟩

/-- What is wrong with arguments: each problem of theirs or, if there is none, that they ask for both. -/
def complaints (args ordered : Arguments) : List Problem :=
  match ordered.filterMap (problem? args) with
  | [] => [bothTargets]
  | problem :: problems => problem :: problems

theorem parse_of_meaningful {A : Arguments} (h : Meaningful ((given A).lookup ·)) :
    ∃ s, parse A = .ok s ∧ FieldsOf ((given A).lookup ·) s := by
  obtain ⟨label, type, limit, read, first, second, third⟩ :=
    fields_of_sound (nodup_given A) h.toSound
  have apart := (one_target_iff h.toSound first second).mp h
  refine ⟨⟨label, type, limit, apart⟩, ?_, first, second, third⟩
  rw [parse_eq, read]
  exact dif_neg apart

theorem parse_of_not_meaningful {A : Arguments} (h : ¬Meaningful ((given A).lookup ·)) :
    parse A = .error (complaints (given A) (inOrder (given A))) := by
  have distinct := nodup_given A
  by_cases sound : Sound ((given A).lookup ·)
  · obtain ⟨label, type, limit, read, first, second, -⟩ := fields_of_sound distinct sound
    have both := not_not.mp (mt (one_target_iff sound first second).mpr h)
    have none : (inOrder (given A)).filterMap (problem? (given A)) = [] :=
      (problemsInOrder_eq_nil_iff distinct).mpr sound
    rw [parse_eq, read, complaints, none]
    exact dif_pos both
  · have some := mt (problemsInOrder_eq_nil_iff distinct).mp sound
    rw [parse_of_problems some, complaints]
    unfold problemsInOrder at some ⊢
    split
    next none => exact absurd none some
    next problem problems eq => rw [eq]

theorem parse_eq_ok_iff {A : Arguments} {s : SampleArguments} :
    parse A = .ok s ↔ Meaningful ((given A).lookup ·) ∧ FieldsOf ((given A).lookup ·) s := by
  constructor
  · intro read
    by_cases h : Meaningful ((given A).lookup ·)
    · obtain ⟨s', read', own⟩ := parse_of_meaningful h
      obtain rfl := Except.ok.inj (read'.symm.trans read)
      exact ⟨h, own⟩
    · rw [parse_of_not_meaningful h] at read
      cases read
  · rintro ⟨h, own⟩
    obtain ⟨s', read, own'⟩ := parse_of_meaningful h
    rw [read, own'.unique h.toSound own]

end

section

variable {A : Arguments}

theorem readArguments_of_free (free : A.lookup reservedName = none) :
    Request.readArguments parse A = (parse A).mapError .arguments :=
  if_neg (by simp [free])

theorem free_of_readArguments {s : SampleArguments} (h : Request.readArguments parse A = .ok s) :
    A.lookup reservedName = none := by
  rw [← Option.not_isSome_iff_eq_none]
  intro taken
  rw [Request.readArguments, if_pos taken] at h
  cases h

theorem readArguments_eq_ok_iff {s : SampleArguments} : Request.readArguments parse A = .ok s ↔
    A.lookup reservedName = none ∧ Meaningful ((given A).lookup ·) ∧ FieldsOf ((given A).lookup ·) s := by
  rw [← parse_eq_ok_iff]
  constructor
  · intro h
    have free := free_of_readArguments h
    rw [readArguments_of_free free] at h
    exact ⟨free, ok_of_mapError h⟩
  · rintro ⟨free, read⟩
    rw [readArguments_of_free free, read]
    rfl

/-- What becomes of arguments for samples. -/
structure Judged (A : Arguments) : Prop where
  taken : (A.lookup reservedName).isSome →
    Request.readArguments parse A = .error (.nameInUse reservedName)
  accepted : (∃ s, Request.readArguments parse A = .ok s) ↔
    A.lookup reservedName = none ∧ Meaningful ((given A).lookup ·)
  fields : ∀ s, Request.readArguments parse A = .ok s → ∀ s',
    FieldsOf ((given A).lookup ·) s' ↔ s' = s
  order : (A.map Prod.fst).Nodup → ∀ other, other.Perm A → ∀ s,
    Request.readArguments parse A = .ok s → Request.readArguments parse other = .ok s
  refused : A.lookup reservedName = none → ¬Meaningful ((given A).lookup ·) →
    ∃ ordered, Ordered (given A) ordered ∧
      Request.readArguments parse A = .error (.arguments (complaints (given A) ordered))

/-- Arguments under any names but the taken one are read just if they are meaningful, and whatever is wrong
with others is reported in order. -/
theorem readArguments_judged (A : Arguments) : Judged A where
  taken := fun h => if_pos h
  accepted := by
    simp only [readArguments_eq_ok_iff]
    constructor
    · rintro ⟨s, free, meaningful, -⟩
      exact ⟨free, meaningful⟩
    · rintro ⟨free, meaningful⟩
      obtain ⟨s, -, own⟩ := parse_of_meaningful meaningful
      exact ⟨s, free, meaningful, own⟩
  fields := by
    intro s read s'
    obtain ⟨-, meaningful, own⟩ := readArguments_eq_ok_iff.mp read
    constructor
    · exact fun own' => own'.unique meaningful.toSound own
    · rintro rfl
      exact own
  order := by
    intro distinct other reordered s read
    obtain ⟨free, meaningful, own⟩ := readArguments_eq_ok_iff.mp read
    have entries := lookup_eq_of_perm reordered.symm distinct
    have counted := lookup_eq_of_perm (given_perm reordered.symm distinct) (nodup_given A)
    rw [counted] at meaningful own
    exact readArguments_eq_ok_iff.mpr ⟨congrFun entries reservedName ▸ free, meaningful, own⟩
  refused := by
    intro free senseless
    refine ⟨inOrder (given A), ordered_inOrder (nodup_given A), ?_⟩
    rw [readArguments_of_free free, parse_of_not_meaningful senseless]
    rfl

/-- The taken name is no name of an argument for samples, and yet it is not reported as unknown. -/
theorem readArguments_taken_name : ¬Meaningful ((given [("cls", .int 1)]).lookup ·) ∧
    ∀ problems, Request.readArguments parse [("cls", .int 1)] ≠ .error (.arguments problems) := by
  constructor
  · intro meaningful
    have known := meaningful.known "cls" rfl
    simp [knownNames, typeSpellings] at known
  · intro problems refused
    have taken : Request.readArguments parse [("cls", .int 1)] = .error (.nameInUse "cls") := rfl
    rw [taken] at refused
    cases refused

end

end SampleArguments

end CypherGate
