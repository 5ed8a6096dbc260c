import CypherGate.Proofs.SettingFields
import CypherGate.Proofs.SettingOrigins
/-!
# Precedence of sources

Loaded settings have in each field what the setting finds at its first origin, converted to the type of the
field, and whatever other sources say does not matter. A null given for a list is no value, so that the next
source counts.
-/
namespace CypherGate.Settings

variable {s : Sources} {settings : Settings}

theorem load_of_readable (readable : s.Readable) : load s = (check s.value?).mapError .invalid := by
  rw [load, Sources.unreadable?_eq_none_iff.mpr readable]

theorem readable_of_load {r : Except SettingsFailure Settings} (loads : load s = r)
    (told : ∀ cause, r ≠ .error (.unreadable cause)) : s.Readable := by
  rw [← Sources.unreadable?_eq_none_iff]
  cases unread : s.unreadable? with
  | none => rfl
  | some cause =>
    rw [load, unread] at loads
    exact absurd loads.symm (told cause)

theorem load_eq_ok_iff : load s = .ok settings ↔
    s.Readable ∧ ∀ setting, settings.Has setting (s.value? setting) := by
  rw [← check_eq_ok_iff]
  constructor
  · intro loads
    have readable := readable_of_load loads nofun
    rw [load_of_readable readable] at loads
    exact ⟨readable, ok_of_mapError loads⟩
  · rintro ⟨readable, checked⟩
    rw [load_of_readable readable, checked]
    rfl

/-- The field of a setting is what the setting finds at an origin, converted, or its default. -/
def Takes (settings : Settings) (setting : Setting) (origin : Origin) : Prop :=
  ∃ value, origin.Holds setting value ∧ settings.Has setting value

theorem Takes.unique {other : Settings} {setting : Setting} {origin : Origin}
    (h : settings.Takes setting origin) (k : other.Takes setting origin) :
    (slot setting).get settings = (slot setting).get other := by
  obtain ⟨value, holds, has⟩ := h
  obtain ⟨value', holds', has'⟩ := k
  obtain rfl := holds.unique holds'
  exact Except.ok.inj (has.symm.trans has')

theorem load_eq_ok_iff_takes : load s = .ok settings ↔
    s.Readable ∧ ∀ setting, ∃ origin, s.First setting origin ∧ settings.Takes setting origin := by
  rw [load_eq_ok_iff]
  apply and_congr_right
  intro readable
  apply forall_congr'
  intro setting
  constructor
  · intro has
    obtain ⟨origin, first⟩ := s.exists_first setting
    exact ⟨origin, first, s.value? setting, first.holds readable, has⟩
  · rintro ⟨origin, first, value, holds, has⟩
    rw [(first.holds readable).unique holds]
    exact has

/-- How sources come to settings. -/
structure Precedence (s : Sources) : Prop where
  /-- Each setting has one first origin. -/
  origin : ∀ setting, ∃! origin, s.First setting origin
  /-- Sources load just if all of their variables can be read and every setting can take what it finds at
  its first origin. -/
  loads : ∀ settings, load s = .ok settings ↔
    s.Readable ∧ ∀ setting, ∃ origin, s.First setting origin ∧ settings.Takes setting origin
  /-- Other sources with the same first origins load the same settings. -/
  determined : ∀ settings, load s = .ok settings → ∀ other otherSettings,
    load other = .ok otherSettings →
    (∀ setting, ∃ origin, s.First setting origin ∧ other.First setting origin) →
    otherSettings = settings
  /-- The variable of the environment that counts is the one of that name, if there is but one. -/
  environment : s.OneSpelling → ∀ setting text, s.Sets .environment setting text ↔
    ∃ name, (name, text) ∈ s.environment ∧ setting.Called name ∧ text ≠ ""

theorem precedence (s : Sources) : Precedence s where
  origin := by
    intro setting
    obtain ⟨origin, first⟩ := s.exists_first setting
    exact ⟨origin, first, fun other k => first.unique k⟩
  loads := fun _ => load_eq_ok_iff_takes
  determined := by
    intro settings loads other otherSettings otherLoads same
    apply eq_of_get
    intro setting
    obtain ⟨origin, first, takes⟩ := (load_eq_ok_iff_takes.mp loads).2 setting
    obtain ⟨origin', first', takes'⟩ := (load_eq_ok_iff_takes.mp otherLoads).2 setting
    obtain ⟨common, ours, theirs⟩ := same setting
    obtain rfl := first.unique ours
    obtain rfl := first'.unique theirs
    exact takes'.unique takes
  environment := fun one _ _ => Sources.sets_environment_iff one

/-- The settings with this password and these forbidden words, and defaults for the rest. -/
def withPassword (password : String) (extraForbidden : List String) : Settings where
  uri := defaultUri
  username := defaultUsername
  password
  database := none
  logLevel := defaultLogLevel
  serverName := defaultServerName
  transport := .stdio
  host := defaultHost
  port := defaultPort
  extraForbidden
  extraProcedures := []

/-- A variable that is a null is passed over, although it is not empty and a null is no list: what the file
says behind it makes a difference. -/
theorem load_passes_over_null :
    let environment := [("NEO4J_PASSWORD", "secret"), ("EXTRA_FORBIDDEN_KEYWORDS", "null")]
    let bare : Sources := ⟨[], environment, none⟩
    let filed : Sources := ⟨[], environment, some "EXTRA_FORBIDDEN_KEYWORDS=[\x22truncate\x22]"⟩
    (∀ s ∈ [bare, filed], s.text? .environment .extraForbidden = some "null") ∧
      (∀ settings : Settings, ¬settings.Has .extraForbidden (some .null)) ∧
      filed.layer .file = [("EXTRA_FORBIDDEN_KEYWORDS", some "[\x22truncate\x22]")] ∧
      load bare = .ok (withPassword "secret" []) ∧
      load filed = .ok (withPassword "secret" ["truncate"]) := by
  intro environment bare filed
  refine ⟨by decide +kernel, ?_, by decide +kernel, by decide +kernel, by decide +kernel⟩
  intro settings has
  cases has

end CypherGate.Settings
