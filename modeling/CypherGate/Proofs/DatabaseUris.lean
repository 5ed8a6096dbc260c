import CypherGate.Proofs.Precedence
import CypherGate.Proofs.UrlParts
/-!
# Addresses of databases

The address of the database in loaded settings has a scheme and an authority, and any text that has both and
can be split is taken. No host is asked for, however: an authority of user information and a port alone
will do.
-/
namespace CypherGate

namespace Url

variable {text : String} {u : Url}

theorem split_eq_ok_iff : split text = .ok u ↔
    found (clean text.toList) = u ∧ bracketDefect? u.authority = none ∧
      disguiseDefect? u.authority = none := by
  unfold split found
  dsimp only
  constructor
  · intro parted
    split at parted
    next => cases parted
    next clear =>
      cases parted
      exact ⟨rfl, by simpa using clear⟩
  · rintro ⟨rfl, brackets, disguise⟩
    dsimp only at brackets disguise
    rw [brackets, disguise]
    rfl

/-- The text is an address with these parts, which may be without a host. -/
structure Locates (text : String) (u : Url) : Prop where
  split : Url.split text = .ok u
  spelled : Spells (clean text.toList) u
  scheme : u.scheme ≠ []
  authority : u.authority ≠ []
  host : HostIn u.authority u.host
  hostless : u.host = [] ↔ Hostless u.authority

theorem locates_of_split (parted : split text = .ok u) (scheme : u.scheme ≠ [])
    (authority : u.authority ≠ []) : Locates text u := by
  obtain ⟨parts, brackets, -⟩ := split_eq_ok_iff.mp parted
  have spelled := (found_eq_iff authority scheme).mp parts
  exact ⟨parted, spelled, scheme, authority, hostIn_host brackets, host_eq_nil_iff brackets⟩

end Url

namespace Sources

variable {s : Sources} {setting other : Setting} {v : Value}

/-- An override in front of all others. -/
def overriding (s : Sources) (setting : Setting) (v : Value) : Sources :=
  { s with overrides := (setting.name, v) :: s.overrides }

theorem called_name (setting : Setting) : setting.Called setting.name := by
  have ascii : setting.name.toList.all Text.isAscii ∧
      setting.name.toList.map Char.toLower = setting.name.toList := by
    cases setting <;> decide
  rw [Setting.Called, lowerCase, Text.lower_of_ascii ascii.1, ascii.2, String.ofList_toList]

theorem readable_overriding_iff : (s.overriding setting v).Readable ↔ s.Readable := by
  rw [← unreadable?_eq_none_iff, ← unreadable?_eq_none_iff]
  rfl

theorem value?_overriding_self (given : v ≠ .null) :
    (s.overriding setting v).value? setting = some v := by
  have counts : (s.overriding setting v).Overrides setting v :=
    ⟨[], setting.name, s.overrides, rfl, called_name setting, given, by simp⟩
  rw [value?, override?_eq_some_iff.mpr counts]
  rfl

theorem value?_overriding_of_ne (ne : other ≠ setting) :
    (s.overriding setting v).value? other = s.value? other := by
  have uncalled : ¬lowerCase setting.name = other.name := by
    intro called
    have same : setting.name = other.name := (called_name setting).symm.trans called
    exact ne (Setting.name_injective same).symm
  have passed : named other (s.overriding setting v).overrides = named other s.overrides := by
    unfold named overriding
    rw [List.filter_cons_of_neg (by simpa using uncalled)]
  have override : (s.overriding setting v).override? other = s.override? other := by
    rw [override?, override?, passed]
  rw [value?, value?, override]
  rfl

end Sources

namespace Settings

variable {s : Sources} {settings : Settings} {text taken : String} {v : Value}

theorem url_eq_ok_iff : url v = .ok text ↔
    Conversion.text v = .ok text ∧ ∃ u, Url.Locates text u := by
  unfold url
  constructor
  · intro converted
    obtain ⟨s, isText, parted⟩ := ok_of_bind converted
    cases split : Url.split s with
    | error defect => rw [split] at parted; cases parted
    | ok u =>
      rw [split] at parted
      dsimp only at parted
      split at parted
      next => cases parted
      next both =>
        cases parted
        rw [Bool.or_eq_true, not_or, List.isEmpty_iff, List.isEmpty_iff] at both
        exact ⟨isText, u, Url.locates_of_split split both.1 both.2⟩
  · rintro ⟨isText, u, locates⟩
    have both : (u.scheme.isEmpty || u.authority.isEmpty) = false := by
      simp [locates.scheme, locates.authority]
    simp only [isText, bind, Except.bind, locates.split]
    exact if_neg (by simp [both])

theorem has_uri_iff : settings.Has .uri (some v) ↔ url v = .ok settings.uri := by
  constructor
  · exact ok_of_mapError
  · intro converted
    show (url v).mapError _ = _
    rw [converted]
    rfl

theorem locates_of_has {value : Option Value} (has : settings.Has .uri value) :
    ∃ u, Url.Locates settings.uri u := by
  cases value with
  | some v => exact (url_eq_ok_iff.mp (has_uri_iff.mp has)).2
  | none =>
    have uri : defaultUri = settings.uri := Except.ok.inj has
    have parted : Url.split defaultUri = .ok ⟨"bolt".toList, "localhost:7687".toList⟩ := by
      decide +kernel
    exact ⟨_, uri ▸ Url.locates_of_split parted (by decide) (by decide)⟩

theorem load_addresses (loads : load s = .ok settings) :
    (∃ u, Url.Locates settings.uri u) ∧
      ∀ text, load (s.overriding .uri (.str text)) = .ok { settings with uri := text } ↔
        ∃ u, Url.Locates text u := by
  obtain ⟨readable, has⟩ := load_eq_ok_iff.mp loads
  refine ⟨locates_of_has (has .uri), ?_⟩
  intro text
  rw [load_eq_ok_iff, Sources.readable_overriding_iff]
  constructor
  · rintro ⟨-, has⟩
    exact locates_of_has (has .uri)
  · intro located
    refine ⟨readable, ?_⟩
    intro setting
    by_cases uri : setting = .uri
    · subst uri
      have given : Value.str text ≠ .null := nofun
      rw [Sources.value?_overriding_self given, has_uri_iff]
      exact url_eq_ok_iff.mpr ⟨rfl, located⟩
    · rw [Sources.value?_overriding_of_ne uri]
      have same := has setting
      cases setting with
      | uri => exact absurd rfl uri
      | username | password | database | logLevel | serverName | transport | host | port
      | extraForbidden | extraProcedures => exact same

/-- The default is an address, and others take its place. -/
theorem load_addresses_default :
    load ⟨[("neo4j_password", .str "secret")], [], none⟩ = .ok (withPassword "secret" []) ∧
      (∃ u, Url.Locates defaultUri u) ∧
      ∀ text, load ⟨[("neo4j_uri", .str text), ("neo4j_password", .str "secret")], [], none⟩ =
        .ok { withPassword "secret" [] with uri := text } ↔ ∃ u, Url.Locates text u := by
  have loads : load ⟨[("neo4j_password", .str "secret")], [], none⟩ =
      .ok (withPassword "secret" []) := by
    decide +kernel
  exact ⟨loads, load_addresses loads⟩

/-- An address without a host is taken: there is nothing but a port. -/
theorem load_without_host :
    let overrides := [("neo4j_uri", .str "bolt://:7687"), ("neo4j_password", .str "secret")]
    load ⟨overrides, [], none⟩ = .ok { withPassword "secret" [] with uri := "bolt://:7687" } ∧
      Url.split "bolt://:7687" = .ok ⟨"bolt".toList, ":7687".toList⟩ ∧
      (⟨"bolt".toList, ":7687".toList⟩ : Url).host = [] := by
  decide +kernel

end Settings

end CypherGate
