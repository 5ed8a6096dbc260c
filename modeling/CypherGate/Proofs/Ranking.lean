import Mathlib.Data.List.Nodup
import Mathlib.Data.String.Basic
import CypherGate.Proofs.Degradation
/-!
# The order of properties

Listed properties are in descending order of their frequencies, and those of one frequency in the order of
their names. So rows that differ in one of the two are listed in one way, whatever order the database has
them in, and a listing without types is the listing with types but for the types.
-/
namespace CypherGate

open CypherGate.Action Request PlainRow Subject

namespace Property

/-- What the rank of a property depends on. -/
def place (p : Property) : Int × String := (p.frequency, p.nameText)

def codePoints (s : String) : List Nat := s.toList.map Char.toNat

/-- More frequent, or as frequent and with a name that is not behind in the order of code points. -/
def Precedes (p q : Property) : Prop :=
  q.frequency < p.frequency ∨
    p.frequency = q.frequency ∧ codePoints p.nameText ≤ codePoints q.nameText

/-- A list in order, in which properties of one place are as they were. -/
structure Ranked (ps found : List Property) : Prop where
  perm : found.Perm ps
  ordered : found.Pairwise Precedes
  stable : ∀ place, found.filter (·.place = place) = ps.filter (·.place = place)

variable {p q r : Property} {ps qs : List Property}

theorem map_toNat_lt_iff {s t : List Char} : s.map Char.toNat < t.map Char.toNat ↔ s < t := by
  induction s generalizing t with
  | nil => cases t <;> simp
  | cons c s ih =>
    cases t with
    | nil => simp
    | cons d t =>
      have head : c.toNat < d.toNat ↔ c < d := UInt32.lt_iff_toNat_lt.symm
      simp [List.cons_lt_cons_iff, ih, Char.toNat_inj, head]

theorem codePoints_le_iff {s t : String} : codePoints s ≤ codePoints t ↔ s ≤ t := by
  have behind : codePoints t < codePoints s ↔ t.toList < s.toList := map_toNat_lt_iff
  rw [String.le_iff_toList_le, ← not_lt, ← not_lt, behind]

theorem upTo_iff : p.upTo q ↔ q.frequency < p.frequency ∨
    p.frequency = q.frequency ∧ p.nameText ≤ q.nameText := by
  rw [upTo, decide_eq_true_iff]

theorem upTo_iff_precedes : p.upTo q ↔ p.Precedes q := by
  rw [upTo_iff, Precedes, codePoints_le_iff]

theorem upTo_of_place_eq (h : p.place = q.place) : p.upTo q := by
  obtain ⟨frequency, name⟩ := Prod.ext_iff.mp h
  exact upTo_iff.mpr (.inr ⟨frequency, le_of_eq name⟩)

theorem place_eq_of_upTo (h : p.upTo q) (k : q.upTo p) : p.place = q.place := by
  rw [upTo_iff] at h k
  have frequency : p.frequency = q.frequency := by omega
  have before : p.nameText ≤ q.nameText := (h.resolve_left (by omega)).2
  have behind : q.nameText ≤ p.nameText := (k.resolve_left (by omega)).2
  exact Prod.ext frequency (le_antisymm before behind)

theorem upTo_trans (p q r : Property) (h : p.upTo q) (k : q.upTo r) : p.upTo r := by
  rw [upTo_iff] at h k ⊢
  rcases h with more | ⟨same, before⟩ <;> rcases k with more' | ⟨same', before'⟩
  · exact .inl (more'.trans more)
  · exact .inl (same' ▸ more)
  · exact .inl (same ▸ more')
  · exact .inr ⟨same.trans same', before.trans before'⟩

theorem upTo_total (p q : Property) : p.upTo q || q.upTo p := by
  rw [Bool.or_eq_true, upTo_iff, upTo_iff]
  rcases lt_trichotomy p.frequency q.frequency with less | same | more
  · exact .inr (.inl less)
  · rcases le_total p.nameText q.nameText with before | behind
    · exact .inl (.inr ⟨same, before⟩)
    · exact .inr (.inr ⟨same.symm, behind⟩)
  · exact .inl (.inl more)

theorem ranked_mergeSort (ps : List Property) : Ranked ps (ps.mergeSort upTo) := by
  have perm := List.mergeSort_perm ps upTo
  refine ⟨perm, ?_, fun place => ?_⟩
  · exact (List.pairwise_mergeSort upTo_trans upTo_total ps).imp upTo_iff_precedes.mp
  · -- Those of one place are in order as they are, so that they stay a sublist; and there are no more.
    have alike : (ps.filter (·.place = place)).Pairwise (fun p q => p.upTo q) := by
      refine List.pairwise_of_forall_mem_list fun p hp q hq => upTo_of_place_eq ?_
      simp only [List.mem_filter, decide_eq_true_eq] at hp hq
      rw [hp.2, hq.2]
    have kept : (ps.filter (·.place = place)).Sublist (ps.mergeSort upTo) :=
      List.sublist_mergeSort upTo_trans upTo_total alike List.filter_sublist
    have within := kept.filter (·.place = place)
    rw [List.filter_filter] at within
    simp only [Bool.and_self] at within
    exact (within.eq_of_length (perm.filter _).length_eq.symm).symm

theorem mergeSort_eq_of_perm (perm : ps.Perm qs) (distinct : (ps.map place).Nodup) :
    ps.mergeSort upTo = qs.mergeSort upTo := by
  have sorted (ps : List Property) := List.pairwise_mergeSort upTo_trans upTo_total ps
  have same : (ps.mergeSort upTo).Perm (qs.mergeSort upTo) :=
    (List.mergeSort_perm ps upTo).trans (perm.trans (List.mergeSort_perm qs upTo).symm)
  refine List.Perm.eq_of_pairwise (fun p q hp hq before behind => ?_) (sorted ps) (sorted qs) same
  rw [List.mem_mergeSort] at hp hq
  exact List.inj_on_of_nodup_map distinct hp (perm.mem_iff.mpr hq) (place_eq_of_upTo before behind)

end Property

def Tree.without (key : String) : Tree → Tree
  | .map entries => .map (entries.filter (·.1 ≠ key))
  | t => t

namespace Property

def untyped (p : Property) : Property := { p with type := none }

theorem mergeSort_map_untyped (ps : List Property) :
    (ps.map untyped).mergeSort upTo = (ps.mergeSort upTo).map untyped :=
  (List.map_mergeSort (f := untyped) fun _ _ _ _ => rfl).symm

theorem tree_untyped (p : Property) : p.untyped.tree = p.tree.without "type" := by
  obtain ⟨name, type, frequency⟩ := p
  cases type <;> rfl

end Property

namespace PlainRow

def pair (row : PlainRow) : Option Tree × Option Tree := (row.lookup "key", row.lookup "frequency")

variable {typed : Bool} {row other : PlainRow} {rows rows' : List PlainRow}

theorem Carries.pair_eq (h : Carries typed row) :
    row.pair = (some (.str (property typed row).nameText), some (.int (property typed row).frequency)) := by
  obtain ⟨name, key⟩ := h.key
  obtain ⟨n, frequency⟩ := h.frequency
  simp [pair, property, Property.nameText, Property.textName?, key, frequency]

theorem carries_false_of_pair (h : Carries typed row) (same : other.pair = row.pair) :
    Carries false other := by
  rw [h.pair_eq] at same
  obtain ⟨key, frequency⟩ := Prod.ext_iff.mp same
  exact ⟨⟨_, key⟩, nofun, _, frequency⟩

theorem nodup_place (carry : ∀ row ∈ rows, Carries typed row) (distinct : (rows.map pair).Nodup) :
    ((rows.map (property typed)).map Property.place).Nodup := by
  rw [List.Nodup, List.pairwise_map] at distinct
  rw [List.Nodup, List.pairwise_map, List.pairwise_map]
  refine distinct.imp_of_mem fun hrow hother different same => different ?_
  obtain ⟨frequency, name⟩ := Prod.mk.inj same
  rw [(carry _ hrow).pair_eq, (carry _ hother).pair_eq, frequency, name]

theorem listed_eq_of_perm (carry : ∀ row ∈ rows, Carries typed row) (perm : rows.Perm rows')
    (distinct : (rows.map pair).Nodup) : listed typed rows = listed typed rows' :=
  Property.mergeSort_eq_of_perm (perm.map _) (nodup_place carry distinct)

theorem carries_false_of_perm (carry : ∀ row ∈ rows, Carries typed row)
    (perm : (rows'.map pair).Perm (rows.map pair)) : ∀ row ∈ rows', Carries false row := by
  intro other member
  obtain ⟨row, mem, same⟩ := List.mem_map.mp (perm.mem_iff.mp (List.mem_map_of_mem member))
  exact carries_false_of_pair (carry row mem) same.symm

/-- All that a row without types tells of its property. -/
def ofPair (both : Option Tree × Option Tree) : Property where
  name := both.1.getD .null
  type := none
  frequency := match both.2 with
    | some (.int n) => n
    | _ => 0

theorem map_property_false (rows : List PlainRow) :
    rows.map (property false) = (rows.map pair).map ofPair := by
  rw [List.map_map]
  rfl

theorem map_untyped_property (rows : List PlainRow) :
    (rows.map (property true)).map Property.untyped = (rows.map pair).map ofPair := by
  rw [List.map_map, List.map_map]
  rfl

theorem listed_false_eq (carry : ∀ row ∈ rows, Carries true row)
    (distinct : (rows.map pair).Nodup) (perm : (rows'.map pair).Perm (rows.map pair)) :
    listed false rows' = (listed true rows).map Property.untyped := by
  have alike : ((rows.map (property true)).map Property.untyped).Perm (rows'.map (property false)) := by
    rw [map_untyped_property, map_property_false]
    exact (perm.map ofPair).symm
  have places : (((rows.map (property true)).map Property.untyped).map Property.place).Nodup := by
    rw [List.map_map (g := Property.place)]
    exact nodup_place carry distinct
  calc listed false rows'
    _ = ((rows.map (property true)).map Property.untyped).mergeSort Property.upTo :=
        (Property.mergeSort_eq_of_perm alike places).symm
    _ = (listed true rows).map Property.untyped := Property.mergeSort_map_untyped _

end PlainRow

namespace Request

/-- From rows of either kind a discovery makes a ranked list of their properties. Two orders of rows that
differ in name or frequency give one list; and where names are distinct, the same names and frequencies in
rows without types give the list with the types left out. -/
theorem findProperties_ranks (subject : Subject) (site site' : Site) (link link' : Link) :
    let o := (findProperties subject).run site link
    let o' := (findProperties subject).run site' link'
    (∀ typed rows, Told site.database subject typed rows → (∀ row ∈ rows, Carries typed row) →
      ∃ found, o.result = .ok (found, typed) ∧ Property.Ranked (rows.map (property typed)) found) ∧
    (∀ typed rows rows', Told site.database subject typed rows →
      Told site'.database subject typed rows' → (∀ row ∈ rows, Carries typed row) →
      rows'.Perm rows → (rows.map pair).Nodup → o'.result = o.result) ∧
    ∀ rows rows', Told site.database subject true rows → Told site'.database subject false rows' →
      (∀ row ∈ rows, Carries true row) → (rows.map fun row => row.lookup "key").Nodup →
      (rows'.map pair).Perm (rows.map pair) →
      ∃ found found', o.result = .ok (found, true) ∧ o'.result = .ok (found', false) ∧
        found'.map Property.tree = found.map fun p => p.tree.without "type" := by
  intro o o'
  refine ⟨fun typed rows told carry => ?_, fun typed rows rows' told told' carry perm distinct => ?_,
    fun rows rows' told told' carry distinct perm => ?_⟩
  · exact ⟨listed typed rows, findProperties_of_told link told carry, Property.ranked_mergeSort _⟩
  · have carry' : ∀ row ∈ rows', Carries typed row := fun row mem => carry row (perm.mem_iff.mp mem)
    rw [show o'.result = _ from findProperties_of_told link' told' carry',
      show o.result = _ from findProperties_of_told link told carry,
      listed_eq_of_perm carry perm.symm distinct]
  · have carry' := carries_false_of_perm carry perm
    have pairs : (rows.map pair).Nodup := .of_map Prod.fst (by rwa [List.map_map])
    refine ⟨_, _, findProperties_of_told link told carry, findProperties_of_told link' told' carry', ?_⟩
    rw [listed_false_eq carry pairs perm, List.map_map]
    exact List.map_congr_left fun p _ => p.tree_untyped

/-- Three servers with two names, of which the second has them the other way round and the third cannot tell
their types. -/
theorem findProperties_ranks_personServer :
    let age : PlainRow := [("key", .str "age"), ("type", .str "INTEGER"), ("frequency", .int 2)]
    let name : PlainRow := [("key", .str "name"), ("type", .str "STRING"), ("frequency", .int 3)]
    let plain : List PlainRow :=
      [[("key", .str "name"), ("frequency", .int 3)], [("key", .str "age"), ("frequency", .int 2)]]
    let site := personServer true [age, name]
    let turned := personServer true [name, age]
    let untyped := personServer false plain
    let result (site : Site) := ((findProperties person).run site Link.initial).result
    (Told site.database person true [age, name] ∧ Told turned.database person true [name, age] ∧
      Told untyped.database person false plain ∧ (∀ row ∈ [age, name], Carries true row) ∧
      ([age, name].map fun row => row.lookup "key").Nodup ∧ ([age, name].map pair).Nodup ∧
      [name, age].Perm [age, name] ∧ (plain.map pair).Perm ([age, name].map pair)) ∧
    result turned = result site ∧ ∃ found found', result site = .ok (found, true) ∧
      Property.Ranked ([age, name].map (property true)) found ∧ result untyped = .ok (found', false) ∧
      found'.map Property.tree = found.map fun p => p.tree.without "type" := by
  intro age name plain site turned untyped result
  have told : Told site.database person true [age, name] := .typed (personServer_typed rfl)
  have told' : Told turned.database person true [name, age] := .typed (personServer_typed rfl)
  have toldUntyped : Told untyped.database person false plain :=
    .untyped (personServer_failed _) (personServer_untyped rfl)
  have carry : ∀ row ∈ [age, name], Carries true row := by
    intro row member
    rcases List.mem_pair.mp member with rfl | rfl
    · exact ⟨⟨"age", rfl⟩, fun _ => rfl, 2, rfl⟩
    · exact ⟨⟨"name", rfl⟩, fun _ => rfl, 3, rfl⟩
  have keys : ([age, name].map fun row => row.lookup "key").Nodup := by
    simp [age, name]
  have pairs : ([age, name].map pair).Nodup := .of_map Prod.fst (by rwa [List.map_map])
  have perm : [name, age].Perm [age, name] := .swap _ _ _
  have same : (plain.map pair).Perm ([age, name].map pair) := .swap _ _ _
  obtain ⟨ranks, -, agree⟩ := findProperties_ranks person site untyped Link.initial Link.initial
  obtain ⟨-, unordered, -⟩ := findProperties_ranks person site turned Link.initial Link.initial
  obtain ⟨found, listed, ranked⟩ := ranks true [age, name] told carry
  obtain ⟨found₀, found', listed', without, trees⟩ :=
    agree [age, name] plain told toldUntyped carry keys same
  cases listed.symm.trans listed'
  exact ⟨⟨told, told', toldUntyped, carry, keys, pairs, perm, same⟩,
    unordered true _ _ told told' carry perm pairs, found, found', listed, ranked, without, trees⟩

end Request

end CypherGate
