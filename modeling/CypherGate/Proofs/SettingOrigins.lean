import CypherGate.Arguments.Schema
import CypherGate.Settings.Source
import Mathlib.Data.List.Basic
/-!
# Origins of settings

A setting has its value from one of four places: from an override, a variable of the environment, a
variable of the file, or from the setting itself, which has a default. The first place that has a value for
it counts. An override has none if it is null, a variable has none if it is empty, and a list has none
either if its variable is a null of JSON.
-/
namespace CypherGate

namespace Setting

/-- The name stands for the setting, in whatever case it is written. -/
def Called (setting : Setting) (name : String) : Prop := lowerCase name = setting.name

instance (setting : Setting) (name : String) : Decidable (setting.Called name) :=
  inferInstanceAs (Decidable (_ = _))

def readJson (text : String) : Json.Reading Tree :=
  Json.readWithin Text.maxDigits deepestNesting text.toList

/-- A null, which is no value for a list. -/
def Nulled (setting : Setting) (text : String) : Prop := setting.isList ∧ readJson text = .ok .null

/-- No JSON, and so no text from which a list can be read. -/
def Garbled (setting : Setting) (text : String) : Prop :=
  setting.isList ∧ ∃ fault, readJson text = .error fault

end Setting

namespace Sources

variable {s : Sources} {setting : Setting} {layer : Layer} {text : String} {v : Value}

/-- The override that counts for a setting: the first one that is not null. -/
def Overrides (s : Sources) (setting : Setting) (v : Value) : Prop :=
  ∃ earlier name later, s.overrides = earlier ++ (name, v) :: later ∧ setting.Called name ∧
    v ≠ .null ∧ ∀ e ∈ earlier, setting.Called e.1 → e.2 = .null

/-- The variable of a layer that counts for a setting: the last one that is not empty. -/
def Sets (s : Sources) (layer : Layer) (setting : Setting) (text : String) : Prop :=
  ∃ earlier name later, s.layer layer = earlier ++ (name, some text) :: later ∧ setting.Called name ∧
    text ≠ "" ∧ ∀ e ∈ later, setting.Called e.1 → e.2 = some ""

/-- No two variables of the environment have names that differ in case alone. -/
def OneSpelling (s : Sources) : Prop := (s.environment.map fun e => lowerCase e.1).Nodup

theorem isNull_eq_false_iff {w : Value} : Arguments.isNull w = false ↔ w ≠ .null := by
  cases w <;> simp [Arguments.isNull]

theorem override?_eq_find? :
    s.override? setting = (named setting s.overrides).find? fun w => !Arguments.isNull w := by
  unfold override?
  congr 1
  funext w
  cases w <;> rfl

theorem override?_eq_some_iff : s.override? setting = some v ↔ s.Overrides setting v := by
  rw [override?_eq_find?, named, List.find?_map, List.find?_filter, Option.map_eq_some_iff]
  simp only [List.find?_eq_some_iff_append, Function.comp_apply, decide_eq_true_eq, Bool.not_eq_true',
    decide_eq_false_iff_not, not_and, isNull_eq_false_iff, not_not]
  constructor
  · rintro ⟨⟨name, w⟩, ⟨⟨called, given⟩, earlier, later, split, nulls⟩, rfl⟩
    exact ⟨earlier, name, later, split, called, given, nulls⟩
  · rintro ⟨earlier, name, later, split, called, given, nulls⟩
    exact ⟨(name, v), ⟨⟨called, given⟩, earlier, later, split, nulls⟩, rfl⟩

theorem find?_reverse_eq_some_iff {α : Type} {p : α → Bool} {l : List α} {a : α} :
    l.reverse.find? p = some a ↔
      p a ∧ ∃ earlier later, l = earlier ++ a :: later ∧ ∀ b ∈ later, ¬p b := by
  rw [List.find?_eq_some_iff_append]
  apply and_congr_right
  intro _
  constructor
  · rintro ⟨later, earlier, split, without⟩
    refine ⟨earlier.reverse, later.reverse, ?_, ?_⟩
    · rw [← List.reverse_reverse l, split]
      simp
    · intro b hb
      simpa using without b (List.mem_reverse.mp hb)
  · rintro ⟨earlier, later, rfl, without⟩
    refine ⟨later.reverse, earlier.reverse, by simp, ?_⟩
    intro b hb
    simpa using without b (List.mem_reverse.mp hb)

theorem text?_eq_some_iff : s.text? layer setting = some text ↔ s.Sets layer setting text := by
  rw [text?, named, List.getLast?_map, List.filter_filter, List.getLast?_filter,
    Option.join_eq_some_iff, Option.map_eq_some_iff]
  simp only [find?_reverse_eq_some_iff, Bool.and_eq_true, decide_eq_true_eq, not_and, not_not]
  constructor
  · rintro ⟨⟨name, value⟩, ⟨⟨called, filled⟩, earlier, later, split, empty⟩, rfl⟩
    exact ⟨earlier, name, later, split, called, fun h => filled (h ▸ rfl), empty⟩
  · rintro ⟨earlier, name, later, split, called, filled, empty⟩
    exact ⟨(name, some text), ⟨⟨called, by simpa using filled⟩, earlier, later, split, empty⟩, rfl⟩

/-- Where names have one spelling, it is simply the variable of that name, unless that is empty. -/
theorem sets_environment_iff (one : s.OneSpelling) : s.Sets .environment setting text ↔
    ∃ name, (name, text) ∈ s.environment ∧ setting.Called name ∧ text ≠ "" := by
  constructor
  · rintro ⟨earlier, name, later, split, called, filled, -⟩
    have member : (name, some text) ∈ s.layer .environment := by
      rw [split]
      exact List.mem_append_right earlier List.mem_cons_self
    obtain ⟨⟨name', text'⟩, member, same⟩ := List.mem_map.mp member
    cases same
    exact ⟨name, member, called, filled⟩
  · rintro ⟨name, member, called, filled⟩
    obtain ⟨earlier, later, split⟩ := List.append_of_mem member
    let optional (e : String × String) : String × Option String := (e.1, some e.2)
    refine ⟨earlier.map optional, name, later.map optional, ?_, called, filled, ?_⟩
    · show s.environment.map optional = _
      rw [split, List.map_append, List.map_cons]
    · intro e he called'
      obtain ⟨e, later, rfl⟩ := List.mem_map.mp he
      rw [OneSpelling, split, List.map_append, List.map_cons] at one
      have distinct := (List.nodup_cons.mp (List.nodup_append.mp one).2.1).1
      have same : lowerCase e.1 = lowerCase name := Eq.trans called' called.symm
      exact absurd (List.mem_map.mpr ⟨e, later, same⟩) distinct

theorem read_of_text (h : setting.isList = false) : read setting layer text = .ok (some (.str text)) := by
  rw [read, h, if_neg (by decide)]

theorem read_of_garbled (layer : Layer) (h : setting.Garbled text) :
    ∃ cause, read setting layer text = .error cause := by
  obtain ⟨isList, fault, unread⟩ := h
  rw [Setting.readJson] at unread
  rw [read, if_pos isList, unread]
  cases fault with
  | malformed => exact ⟨.malformed setting layer, rfl⟩
  | tooDeep bracket => exact ⟨.tooDeep bracket, rfl⟩

theorem read_of_nulled (h : setting.Nulled text) : read setting layer text = .ok none := by
  obtain ⟨isList, null⟩ := h
  rw [Setting.readJson] at null
  rw [read, if_pos isList, null]

theorem exists_read (layer : Layer) (clear : ¬setting.Garbled text) (given : ¬setting.Nulled text) :
    ∃ v, read setting layer text = .ok (some v) := by
  by_cases isList : setting.isList
  · cases json : Setting.readJson text with
    | error fault => exact absurd ⟨isList, fault, json⟩ clear
    | ok t =>
      have some : t ≠ .null := fun null => given ⟨isList, null ▸ json⟩
      rw [Setting.readJson] at json
      rw [read, if_pos isList, json]
      cases t with
      | null => exact absurd rfl some
      | bool | int | float | str | other | list | map => exact ⟨_, rfl⟩
  · exact ⟨.str text, read_of_text (by simpa using isList)⟩

theorem inLayer_of_sets (h : s.Sets layer setting text) :
    s.inLayer layer setting = read setting layer text := by
  rw [inLayer, text?_eq_some_iff.mpr h]

theorem inLayer_of_unset (h : ∀ text, ¬s.Sets layer setting text) :
    s.inLayer layer setting = .ok none := by
  have unset : s.text? layer setting = none := by
    rw [Option.eq_none_iff_forall_not_mem]
    intro text set
    exact h text (text?_eq_some_iff.mp set)
  rw [inLayer, unset]

/-- No variable is garbled, not even one that would not count. -/
def Readable (s : Sources) : Prop :=
  ∀ layer setting text, s.Sets layer setting text → ¬setting.Garbled text

theorem mem_all (setting : Setting) : setting ∈ Setting.all := by
  cases setting <;> decide

theorem unreadable?_eq_none_iff : s.unreadable? = none ↔ s.Readable := by
  have layers : ∀ layer : Layer, layer ∈ [Layer.environment, .file] := by
    intro layer
    cases layer <;> decide
  rw [unreadable?, List.findSome?_eq_none_iff]
  simp only [List.findSome?_eq_none_iff]
  constructor
  · intro clear layer setting text set garbled
    obtain ⟨cause, unread⟩ := read_of_garbled layer garbled
    have none := clear layer (layers layer) setting (mem_all setting)
    rw [inLayer_of_sets set, unread] at none
    cases none
  · intro readable layer _ setting _
    by_cases set : ∃ text, s.Sets layer setting text
    · obtain ⟨text, set⟩ := set
      have clear := readable layer setting text set
      rw [inLayer_of_sets set]
      by_cases null : setting.Nulled text
      · rw [read_of_nulled null]
      · obtain ⟨v, said⟩ := exists_read layer clear null
        rw [said]
    · rw [inLayer_of_unset (not_exists.mp set)]

/-! ## Origins -/

def Gives (s : Sources) (layer : Layer) (setting : Setting) (text : String) : Prop :=
  s.Sets layer setting text ∧ ¬setting.Nulled text

end Sources

inductive Origin where
  | override (v : Value)
  | layer (layer : Layer) (text : String)
  | builtIn

/-- What a setting finds at an origin. -/
inductive Origin.Holds (setting : Setting) : Origin → Option Value → Prop where
  | override (v : Value) : Holds setting (.override v) (some v)
  | layer {layer : Layer} {text : String} {v : Value}
      (said : Sources.read setting layer text = .ok (some v)) : Holds setting (.layer layer text) (some v)
  | builtIn : Holds setting .builtIn none

theorem Origin.Holds.unique {setting : Setting} {origin : Origin} {value other : Option Value}
    (h : origin.Holds setting value) (k : origin.Holds setting other) : value = other := by
  cases h with
  | override v =>
    cases k with
    | override => rfl
  | layer said =>
    cases k with
    | layer said' => exact Except.ok.inj (said.symm.trans said')
  | builtIn =>
    cases k with
    | builtIn => rfl

namespace Sources

variable {s : Sources} {setting : Setting} {layer : Layer} {text : String}

/-- The first origin that has a value for the setting. -/
inductive First (s : Sources) (setting : Setting) : Origin → Prop where
  | override {v : Value} (given : s.Overrides setting v) : First s setting (.override v)
  | environment {text : String} (free : ∀ v, ¬s.Overrides setting v)
      (given : s.Gives .environment setting text) : First s setting (.layer .environment text)
  | file {text : String} (free : ∀ v, ¬s.Overrides setting v)
      (without : ∀ text, ¬s.Gives .environment setting text) (given : s.Gives .file setting text) :
      First s setting (.layer .file text)
  | builtIn (free : ∀ v, ¬s.Overrides setting v) (without : ∀ layer text, ¬s.Gives layer setting text) :
      First s setting .builtIn

theorem exists_first (s : Sources) (setting : Setting) : ∃ origin, s.First setting origin := by
  by_cases overridden : ∃ v, s.Overrides setting v
  · obtain ⟨v, given⟩ := overridden
    exact ⟨_, .override given⟩
  have free := not_exists.mp overridden
  by_cases environment : ∃ text, s.Gives .environment setting text
  · obtain ⟨text, given⟩ := environment
    exact ⟨_, .environment free given⟩
  by_cases file : ∃ text, s.Gives .file setting text
  · obtain ⟨text, given⟩ := file
    exact ⟨_, .file free (not_exists.mp environment) given⟩
  refine ⟨_, .builtIn free ?_⟩
  intro layer
  cases layer with
  | environment => exact not_exists.mp environment
  | file => exact not_exists.mp file

theorem Overrides.unique {v w : Value} (h : s.Overrides setting v) (k : s.Overrides setting w) : v = w :=
  Option.some.inj ((override?_eq_some_iff.mpr h).symm.trans (override?_eq_some_iff.mpr k))

theorem Gives.unique {text' : String} (h : s.Gives layer setting text) (k : s.Gives layer setting text') :
    text = text' :=
  Option.some.inj ((text?_eq_some_iff.mpr h.1).symm.trans (text?_eq_some_iff.mpr k.1))

theorem First.unique {origin other : Origin} (h : s.First setting origin) (k : s.First setting other) :
    other = origin := by
  cases h with
  | override given =>
    cases k with
    | override given' => rw [given.unique given']
    | environment free | file free | builtIn free => exact absurd given (free _)
  | environment free given =>
    cases k with
    | override given' => exact absurd given' (free _)
    | environment _ given' => rw [given.unique given']
    | file _ without => exact absurd given (without _)
    | builtIn _ without => exact absurd given (without _ _)
  | file free without given =>
    cases k with
    | override given' => exact absurd given' (free _)
    | environment _ given' => exact absurd given' (without _)
    | file _ _ given' => rw [given.unique given']
    | builtIn _ without' => exact absurd given (without' _ _)
  | builtIn free without =>
    cases k with
    | override given' => exact absurd given' (free _)
    | environment _ given' | file _ _ given' => exact absurd given' (without _ _)
    | builtIn => rfl

theorem override?_of_free (free : ∀ v, ¬s.Overrides setting v) : s.override? setting = none := by
  rw [Option.eq_none_iff_forall_not_mem]
  intro v given
  exact free v (override?_eq_some_iff.mp given)

theorem inLayer_of_gives (readable : s.Readable) (given : s.Gives layer setting text) :
    ∃ v, read setting layer text = .ok (some v) ∧ s.inLayer layer setting = .ok (some v) := by
  obtain ⟨v, said⟩ := exists_read layer (readable layer setting text given.1) given.2
  exact ⟨v, said, (inLayer_of_sets given.1).trans said⟩

theorem inLayer_of_without (without : ∀ text, ¬s.Gives layer setting text) :
    s.inLayer layer setting = .ok none := by
  by_cases set : ∃ text, s.Sets layer setting text
  · obtain ⟨text, set⟩ := set
    have null : setting.Nulled text := not_not.mp fun given => without text ⟨set, given⟩
    rw [inLayer_of_sets set, read_of_nulled null]
  · exact inLayer_of_unset (not_exists.mp set)

theorem First.holds {origin : Origin} (readable : s.Readable) (h : s.First setting origin) :
    origin.Holds setting (s.value? setting) := by
  unfold value?
  cases h with
  | override given =>
    rw [override?_eq_some_iff.mpr given]
    exact .override _
  | environment free given =>
    obtain ⟨v, said, inLayer⟩ := inLayer_of_gives readable given
    rw [override?_of_free free, inLayer]
    exact .layer said
  | file free without given =>
    obtain ⟨v, said, inLayer⟩ := inLayer_of_gives readable given
    rw [override?_of_free free, inLayer_of_without without, inLayer]
    exact .layer said
  | builtIn free without =>
    rw [override?_of_free free, inLayer_of_without (without .environment),
      inLayer_of_without (without .file)]
    exact .builtIn

end Sources

end CypherGate
