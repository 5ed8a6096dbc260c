import CypherGate.Proofs.Checks
import CypherGate.Settings.Load
import Mathlib.Data.List.Basic
/-!
# Fields of settings

Each setting has a type of its own, a conversion to it, and a default or none. Settings are checked one by
one: they are in order just if each of them is, and otherwise the problems are those of each setting in turn.
Every problem bears the name of the setting that it is about.
-/
namespace CypherGate

theorem Setting.name_injective {a b : Setting} (h : a.name = b.name) : a = b := by
  have found : ∀ c : Setting, all.find? (fun d => d.name = c.name) = some c := by
    intro c
    cases c <;> decide
  have same := (found a).symm.trans (h ▸ found b)
  exact Option.some.inj same

/-- The problem is with a setting, or with an item of its list. -/
def Problem.Names (setting : Setting) (p : Problem) : Prop :=
  p.location = setting.name ∨ ∃ i : Nat, p.location = s!"{setting.name}.{i}"

namespace Checked

variable {α β : Type} {P Q : Problem → Prop} {a : Checked α} {b : Checked β}

/-- Whatever is wrong has problems, and these are of some kind. -/
def Blames (P : Problem → Prop) (checked : Checked α) : Prop :=
  ∀ problems, checked = .error problems → problems ≠ [] ∧ ∀ p ∈ problems, P p

theorem blames_ok (x : α) : Blames P (.ok x : Checked α) := nofun

theorem blames_single {p : Problem} (h : P p) : Blames P (.error [p] : Checked α) := by
  rintro problems ⟨⟩
  refine ⟨by simp, ?_⟩
  intro q member
  rw [List.mem_singleton.mp member]
  exact h

theorem Blames.mono (h : Blames P a) (le : ∀ p, P p → Q p) : Blames Q a := by
  intro problems wrong
  obtain ⟨some, all⟩ := h problems wrong
  exact ⟨some, fun p member => le p (all p member)⟩

theorem Blames.map (h : Blames P a) (f : α → β) : Blames P (a.map f) := by
  cases a with
  | ok x => exact blames_ok (f x)
  | error ps =>
    rintro problems ⟨⟩
    exact h ps rfl

theorem Blames.both (h : Blames P a) (k : Blames P b) : Blames P (a.both b) := by
  cases a with
  | ok x =>
    cases b with
    | ok y => exact blames_ok (x, y)
    | error qs =>
      rintro problems ⟨⟩
      exact k qs rfl
  | error ps =>
    obtain ⟨some, all⟩ := h ps rfl
    cases b with
    | ok y =>
      rintro problems ⟨⟩
      exact ⟨some, all⟩
    | error qs =>
      rintro problems ⟨⟩
      refine ⟨by simp [some], ?_⟩
      intro p member
      rcases List.mem_append.mp member with first | second
      · exact all p first
      · exact (k qs rfl).2 p second

theorem Blames.forall_problems (h : Blames P a) : ∀ p ∈ a.problems, P p := by
  cases a with
  | ok x => simp [problems]
  | error ps => exact (h ps rfl).2

theorem Blames.problems_eq_nil_iff (h : Blames P a) : a.problems = [] ↔ ∃ x, a = .ok x := by
  cases a with
  | ok x => simp [problems]
  | error ps => simp [problems, (h ps rfl).1]

theorem problems_map (checked : Checked α) (f : α → β) :
    Checked.problems (checked.map f) = checked.problems := by
  cases checked <;> rfl

end Checked

namespace Settings

open Checked

/-! ## The field of each setting -/

/-- What a setting is checked against. -/
structure Slot where
  Content : Type
  default : Checked Content
  convert : String → Value → Checked Content
  get : Settings → Content

def slot : Setting → Slot
  | .uri => ⟨_, .ok defaultUri, Conversion.located url, Settings.uri⟩
  | .username => ⟨_, .ok defaultUsername, Conversion.located Conversion.text, Settings.username⟩
  | .password =>
    ⟨_, .error [⟨Setting.password.name, .missing⟩], Conversion.located nonEmptyText, Settings.password⟩
  | .database =>
    ⟨_, .ok none, Conversion.located fun v => some <$> Conversion.text v, Settings.database⟩
  | .logLevel => ⟨_, .ok defaultLogLevel, Conversion.located Conversion.text, Settings.logLevel⟩
  | .serverName => ⟨_, .ok defaultServerName, Conversion.located Conversion.text, Settings.serverName⟩
  | .transport => ⟨_, .ok .stdio, Conversion.located transportOf, Settings.transport⟩
  | .host => ⟨_, .ok defaultHost, Conversion.located Conversion.text, Settings.host⟩
  | .port => ⟨_, .ok defaultPort, Conversion.located Conversion.integer, Settings.port⟩
  | .extraForbidden => ⟨_, .ok [], texts, Settings.extraForbidden⟩
  | .extraProcedures => ⟨_, .ok [], texts, Settings.extraProcedures⟩

/-- What a setting comes to: its value converted, or its default if it has none. -/
def content (setting : Setting) : Option Value → Checked (slot setting).Content
  | none => (slot setting).default
  | some v => (slot setting).convert setting.name v

def Has (settings : Settings) (setting : Setting) (value : Option Value) : Prop :=
  content setting value = .ok ((slot setting).get settings)

theorem eq_of_get {settings other : Settings}
    (h : ∀ setting, (slot setting).get settings = (slot setting).get other) : settings = other := by
  have fields := And.intro (h .uri) <| And.intro (h .username) <| And.intro (h .password) <|
    And.intro (h .database) <| And.intro (h .logLevel) <| And.intro (h .serverName) <|
    And.intro (h .transport) <| And.intro (h .host) <| And.intro (h .port) <|
    And.intro (h .extraForbidden) (h .extraProcedures)
  cases settings
  cases other
  simpa [slot] using fields

section

variable {α : Type} {setting : Setting}

theorem names_self (cause : Cause) : Problem.Names setting ⟨setting.name, cause⟩ := .inl rfl

theorem blames_located {P : Problem → Prop} {location : String} (here : ∀ cause, P ⟨location, cause⟩)
    (conversion : Conversion α) (v : Value) : Blames P (conversion.located location v) := by
  unfold Conversion.located
  cases conversion v with
  | ok x => exact blames_ok x
  | error cause => exact blames_single (here cause)

theorem blames_textsFrom (i : Nat) (items : List Value) :
    Blames (Problem.Names setting) (textsFrom setting.name i items) := by
  induction items generalizing i with
  | nil => exact blames_ok []
  | cons v items ih =>
    have item : ∀ cause, Problem.Names setting ⟨s!"{setting.name}.{i}", cause⟩ :=
      fun _ => .inr ⟨i, rfl⟩
    have first := blames_located item Conversion.text v
    exact (first.both (ih (i + 1))).map _

theorem blames_texts (v : Value) : Blames (Problem.Names setting) (texts setting.name v) := by
  unfold texts
  cases items? v with
  | none => exact blames_single (names_self .notList)
  | some items => exact blames_textsFrom 0 items

theorem blames_content (setting : Setting) (value : Option Value) :
    Blames (Problem.Names setting) (content setting value) := by
  cases value with
  | none =>
    cases setting with
    | password => exact blames_single (names_self .missing)
    | uri | username | database | logLevel | serverName | transport | host | port | extraForbidden
    | extraProcedures => exact blames_ok _
  | some v =>
    cases setting with
    | extraForbidden | extraProcedures => exact blames_texts v
    | database => exact blames_located names_self (fun v => some <$> Conversion.text v) v
    | uri | username | password | logLevel | serverName | transport | host | port =>
      exact blames_located names_self _ v

end

variable {value? : Setting → Option Value} {settings : Settings}

theorem field_eq_content (value? : Setting → Option Value) (setting : Setting) :
    field value? setting (slot setting).default (slot setting).convert =
      content setting (value? setting) := by
  unfold field content
  cases value? setting <;> rfl

theorem has_of_check (checked : check value? = .ok settings) (setting : Setting) :
    settings.Has setting (value? setting) := by
  obtain ⟨_, all, rfl⟩ := ok_of_map checked
  simp only [both_eq_ok] at all
  obtain ⟨uri, username, password, database, logLevel, serverName, transport, host, port,
    extraForbidden, extraProcedures⟩ := all
  rw [Has, ← field_eq_content]
  cases setting with
  | uri => exact uri
  | username => exact username
  | password => exact password
  | database => exact database
  | logLevel => exact logLevel
  | serverName => exact serverName
  | transport => exact transport
  | host => exact host
  | port => exact port
  | extraForbidden => exact extraForbidden
  | extraProcedures => exact extraProcedures

theorem problems_check : (check value?).problems =
    Setting.all.flatMap fun setting => (content setting (value? setting)).problems := by
  simp only [← field_eq_content]
  unfold check
  simp only [problems_map, problems_both]
  simp [Setting.all, slot]

theorem blames_check : Blames (fun p => ∃ setting, p.Names setting) (check value?) := by
  have fields : ∀ setting, Blames (fun p => ∃ setting, Problem.Names setting p)
      (field value? setting (slot setting).default (slot setting).convert) := by
    intro setting
    rw [field_eq_content]
    exact (blames_content setting _).mono fun p names => ⟨setting, names⟩
  have all := (fields .uri).both <| (fields .username).both <| (fields .password).both <|
    (fields .database).both <| (fields .logLevel).both <| (fields .serverName).both <|
    (fields .transport).both <| (fields .host).both <| (fields .port).both <|
    (fields .extraForbidden).both (fields .extraProcedures)
  exact all.map _

theorem check_eq_ok_iff :
    check value? = .ok settings ↔ ∀ setting, settings.Has setting (value? setting) := by
  refine ⟨has_of_check, ?_⟩
  intro has
  have clean : (check value?).problems = [] := by
    rw [problems_check, List.flatMap_eq_nil_iff]
    intro setting _
    rw [has setting]
    rfl
  obtain ⟨other, checked⟩ := blames_check.problems_eq_nil_iff.mp clean
  rw [checked, Except.ok.injEq]
  apply eq_of_get
  intro setting
  have both := (has_of_check checked setting).symm.trans (has setting)
  exact Except.ok.inj both

end Settings

end CypherGate
