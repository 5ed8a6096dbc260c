import CypherGate.Graph.Normal
import CypherGate.Proofs.Checks
/-!
# Trees without repeated keys

In a keyed tree no map, at whatever depth, has a key twice. Collapsing makes the keys of a list of entries
distinct and leaves distinct keys as they are; so the plain form of a value is always keyed.
-/
namespace CypherGate

inductive Tree.Keyed : Tree → Prop where
  | null : Keyed .null
  | bool (b : Bool) : Keyed (.bool b)
  | int (n : Int) : Keyed (.int n)
  | float (x : Binary64) : Keyed (.float x)
  | str (s : String) : Keyed (.str s)
  | other (s : Scalar) : Keyed (.other s)
  | list {items : List Tree} (each : ∀ t ∈ items, Keyed t) : Keyed (.list items)
  | map {entries : List (String × Tree)} (distinct : (entries.map Prod.fst).Nodup)
    (each : ∀ e ∈ entries, Keyed e.2) : Keyed (.map entries)

section

variable {α : Type} {key : String} {value : α} {entries : List (String × α)}

theorem mem_of_lookup_eq_some (h : entries.lookup key = some value) : (key, value) ∈ entries := by
  obtain ⟨before, after, split, -⟩ := List.lookup_eq_some_iff.mp h
  rw [split]
  exact List.mem_append_right before List.mem_cons_self

theorem mem_of_mem_setEntry {e : String × α} (h : e ∈ setEntry key value entries) :
    e = (key, value) ∨ e ∈ entries := by
  induction entries with
  | nil => simpa [setEntry] using h
  | cons first rest ih =>
    obtain ⟨k, v⟩ := first
    by_cases same : k = key
    · rw [setEntry, if_pos same] at h
      rcases List.mem_cons.mp h with rfl | h
      · exact .inl rfl
      · exact .inr (List.mem_cons_of_mem _ h)
    · rw [setEntry, if_neg same] at h
      rcases List.mem_cons.mp h with rfl | h
      · exact .inr List.mem_cons_self
      · exact (ih h).imp_right (List.mem_cons_of_mem _)

theorem setEntry_of_notMem (h : key ∉ entries.map Prod.fst) :
    setEntry key value entries = entries ++ [(key, value)] := by
  induction entries with
  | nil => rfl
  | cons first rest ih =>
    rw [List.map_cons, List.mem_cons, not_or] at h
    rw [setEntry, if_neg (Ne.symm h.1), ih h.2]
    rfl

theorem keys_setEntry_of_mem (h : key ∈ entries.map Prod.fst) :
    (setEntry key value entries).map Prod.fst = entries.map Prod.fst := by
  induction entries with
  | nil => cases h
  | cons first rest ih =>
    obtain ⟨k, v⟩ := first
    by_cases same : k = key
    · rw [setEntry, if_pos same, same]
      rfl
    · have later : key ∈ rest.map Prod.fst := by
        rcases List.mem_cons.mp h with here | later
        · exact absurd here.symm same
        · exact later
      rw [setEntry, if_neg same, List.map_cons, List.map_cons, ih later]

theorem nodup_setEntry (h : (entries.map Prod.fst).Nodup) :
    ((setEntry key value entries).map Prod.fst).Nodup := by
  by_cases present : key ∈ entries.map Prod.fst
  · rw [keys_setEntry_of_mem present]
    exact h
  · rw [setEntry_of_notMem present, List.map_append]
    exact List.nodup_append.mpr ⟨h, by simp, fun k hk k' hk' => by
      obtain rfl : k' = key := by simpa using hk'
      exact fun same => present (same ▸ hk)⟩

theorem nodup_collapse (pairs : List (String × α)) : ((collapse pairs).map Prod.fst).Nodup := by
  refine List.foldlRecOn (motive := fun es : List (String × α) => (es.map Prod.fst).Nodup) pairs _
    List.nodup_nil ?_
  intro entries distinct pair _
  exact nodup_setEntry distinct

theorem mem_of_mem_collapse {pairs : List (String × α)} : ∀ e ∈ collapse pairs, e ∈ pairs := by
  refine List.foldlRecOn (motive := fun es => ∀ e ∈ es, e ∈ pairs) pairs _ (by simp) ?_
  intro entries known pair mem e he
  rcases mem_of_mem_setEntry he with rfl | he
  · exact mem
  · exact known e he

theorem foldl_setEntry_of_nodup {pairs : List (String × α)}
    (h : ((entries ++ pairs).map Prod.fst).Nodup) :
    pairs.foldl (fun entries (key, value) => setEntry key value entries) entries =
      entries ++ pairs := by
  induction pairs generalizing entries with
  | nil => simp
  | cons pair rest ih =>
    obtain ⟨key, value⟩ := pair
    have new : key ∉ entries.map Prod.fst := by
      rw [List.map_append, List.map_cons] at h
      exact fun present => (List.nodup_append.mp h).2.2 _ present _ List.mem_cons_self rfl
    rw [List.append_cons] at h ⊢
    rw [List.foldl_cons]
    dsimp only
    rw [setEntry_of_notMem new]
    exact ih h

theorem collapse_of_nodup {pairs : List (String × α)} (h : (pairs.map Prod.fst).Nodup) :
    collapse pairs = pairs :=
  foldl_setEntry_of_nodup h

end

section

variable {P : Tree → Prop} {start : Tree} {steps : List (Tree × Tree)}

theorem forall_segments
    (made : ∀ {start relationship finish : Tree}, P start → P relationship → P finish →
      P (segmentTree start relationship finish))
    (h : P start) (k : ∀ p ∈ steps, P p.1 ∧ P p.2) : ∀ t ∈ segments start steps, P t := by
  induction steps generalizing start with
  | nil => simp [segments]
  | cons step rest ih =>
    obtain ⟨⟨relationship, node⟩, others⟩ := List.forall_mem_cons.mp k
    exact List.forall_mem_cons.mpr ⟨made h relationship node, ih node others⟩

theorem forall_lastNode (h : P start) (k : ∀ p ∈ steps, P p.1 ∧ P p.2) : P (lastNode start steps) := by
  unfold lastNode
  cases last : steps.getLast? with
  | none => exact h
  | some p => exact (k p (List.mem_of_getLast? last)).2

end

namespace Tree.Keyed

theorem map_collapse {pairs : List (String × Tree)} (each : ∀ e ∈ pairs, e.2.Keyed) :
    (Tree.map (collapse pairs)).Keyed :=
  .map (nodup_collapse pairs) fun e he => each e (mem_of_mem_collapse e he)

theorem identityTree {elementId : String} {t : Tree} (h : identityTree elementId = .ok t) :
    t.Keyed := by
  obtain ⟨identity, -, rfl⟩ := ok_of_map h
  cases identity with
  | number n => exact .int n
  | name elementId => exact .str elementId

theorem pointTree (srid : Int) (coordinates : List Binary64) :
    (pointTree srid coordinates).Keyed := by
  rcases coordinates with _ | ⟨x, _ | ⟨y, _ | ⟨z, rest⟩⟩⟩ <;>
    exact .map (by simp) (by simp [Keyed.int, Keyed.float])

theorem nodeTree {identity : Tree} (h : identity.Keyed) (labels : List String)
    {properties : List (String × Tree)} (k : (Tree.map properties).Keyed) :
    (nodeTree identity labels properties).Keyed := by
  have names : (Tree.list ((labelList labels).map .str)).Keyed := by
    refine .list fun t ht => ?_
    obtain ⟨name, -, rfl⟩ := List.mem_map.mp ht
    exact .str name
  exact .map (by simp) (by simp [h, k, names])

theorem relationshipTree {identity start finish : Tree} (h : identity.Keyed) (first : start.Keyed)
    (last : finish.Keyed) (kind : String) {properties : List (String × Tree)}
    (k : (Tree.map properties).Keyed) :
    (relationshipTree identity start finish kind properties).Keyed :=
  .map (by simp) (by simp [h, first, last, Keyed.str, k])

theorem segmentTree {start relationship finish : Tree} (h : start.Keyed) (k : relationship.Keyed)
    (l : finish.Keyed) : (segmentTree start relationship finish).Keyed :=
  .map (by simp) (by simp [h, k, l])

theorem pathTree {start : Tree} (h : start.Keyed) {steps : List (Tree × Tree)}
    (k : ∀ p ∈ steps, p.1.Keyed ∧ p.2.Keyed) :
    (pathTree start (CypherGate.lastNode start steps) (CypherGate.segments start steps)).Keyed :=
  .map (by simp) (by simp [h, forall_lastNode h k, Keyed.list (forall_segments segmentTree h k)])

end Tree.Keyed

mutual
theorem normalize_keyed (v : Value) {t : Tree} (h : normalize v = .ok t) : t.Keyed := by
  cases v with
  | null =>
    obtain rfl := Except.ok.inj h
    exact .null
  | bool b =>
    obtain rfl := Except.ok.inj h
    exact .bool b
  | int n =>
    obtain rfl := Except.ok.inj h
    exact .int n
  | float x =>
    obtain rfl := Except.ok.inj h
    exact .float x
  | str s =>
    obtain rfl := Except.ok.inj h
    exact .str s
  | other s =>
    obtain rfl := Except.ok.inj h
    exact .other s
  | list items =>
    rw [normalize] at h
    obtain ⟨ts, hts, h⟩ := ok_of_bind h
    obtain rfl := Except.ok.inj h
    exact .list (normalizeItems_keyed items hts)
  | tuple items =>
    rw [normalize] at h
    obtain ⟨ts, hts, h⟩ := ok_of_bind h
    obtain rfl := Except.ok.inj h
    exact .list (normalizeItems_keyed items hts)
  | map entries =>
    rw [normalize] at h
    obtain ⟨es, hes, h⟩ := ok_of_bind h
    obtain rfl := Except.ok.inj h
    exact .map_collapse (normalizeEntries_keyed entries hes)
  | duration months days seconds nanoseconds =>
    obtain rfl := Except.ok.inj h
    exact .list (by simp [Tree.Keyed.int])
  | point srid coordinates =>
    obtain rfl := Except.ok.inj h
    exact .pointTree srid coordinates
  | node n =>
    rw [normalize] at h
    exact normalizeNode_keyed n h
  | relationship r =>
    rw [normalize] at h
    exact normalizeRelationship_keyed r h
  | path p =>
    obtain ⟨start, steps⟩ := p
    rw [normalize] at h
    obtain ⟨first, hfirst, h⟩ := ok_of_bind h
    obtain ⟨rest, hrest, h⟩ := ok_of_bind h
    obtain rfl := Except.ok.inj h
    exact .pathTree (normalizeNode_keyed start hfirst) (normalizeSteps_keyed steps hrest)

theorem normalizeNode_keyed (n : Node Value) {t : Tree} (h : normalizeNode n = .ok t) : t.Keyed := by
  obtain ⟨elementId, labels, properties⟩ := n
  rw [normalizeNode] at h
  obtain ⟨identity, hidentity, h⟩ := ok_of_bind h
  obtain ⟨es, hes, h⟩ := ok_of_bind h
  obtain rfl := Except.ok.inj h
  exact .nodeTree (.identityTree hidentity) labels
    (.map_collapse (normalizeEntries_keyed properties hes))

theorem normalizeRelationship_keyed (r : Relationship Value) {t : Tree}
    (h : normalizeRelationship r = .ok t) : t.Keyed := by
  obtain ⟨elementId, kind, start, finish, properties⟩ := r
  rw [normalizeRelationship] at h
  obtain ⟨identity, hidentity, h⟩ := ok_of_bind h
  obtain ⟨first, hfirst, h⟩ := ok_of_bind h
  obtain ⟨last, hlast, h⟩ := ok_of_bind h
  obtain ⟨es, hes, h⟩ := ok_of_bind h
  obtain rfl := Except.ok.inj h
  exact .relationshipTree (.identityTree hidentity) (.identityTree hfirst) (.identityTree hlast) kind
    (.map_collapse (normalizeEntries_keyed properties hes))

theorem normalizeSteps_keyed (steps : List (Relationship Value × Node Value))
    {ts : List (Tree × Tree)} (h : normalizeSteps steps = .ok ts) :
    ∀ p ∈ ts, p.1.Keyed ∧ p.2.Keyed := by
  cases steps with
  | nil =>
    obtain rfl := Except.ok.inj h
    simp
  | cons step rest =>
    obtain ⟨r, n⟩ := step
    rw [normalizeSteps] at h
    obtain ⟨relationship, hr, h⟩ := ok_of_bind h
    obtain ⟨node, hn, h⟩ := ok_of_bind h
    obtain ⟨others, hothers, h⟩ := ok_of_bind h
    obtain rfl := Except.ok.inj h
    exact List.forall_mem_cons.mpr ⟨⟨normalizeRelationship_keyed r hr, normalizeNode_keyed n hn⟩,
      normalizeSteps_keyed rest hothers⟩

theorem normalizeItems_keyed (items : List Value) {ts : List Tree}
    (h : normalizeItems items = .ok ts) : ∀ t ∈ ts, t.Keyed := by
  cases items with
  | nil =>
    obtain rfl := Except.ok.inj h
    simp
  | cons v rest =>
    rw [normalizeItems] at h
    obtain ⟨first, hfirst, h⟩ := ok_of_bind h
    obtain ⟨others, hothers, h⟩ := ok_of_bind h
    obtain rfl := Except.ok.inj h
    exact List.forall_mem_cons.mpr ⟨normalize_keyed v hfirst, normalizeItems_keyed rest hothers⟩

theorem normalizeEntries_keyed (entries : List (String × Value)) {es : List (String × Tree)}
    (h : normalizeEntries entries = .ok es) : ∀ e ∈ es, e.2.Keyed := by
  cases entries with
  | nil =>
    obtain rfl := Except.ok.inj h
    simp
  | cons entry rest =>
    obtain ⟨key, v⟩ := entry
    rw [normalizeEntries] at h
    obtain ⟨first, hfirst, h⟩ := ok_of_bind h
    obtain ⟨others, hothers, h⟩ := ok_of_bind h
    obtain rfl := Except.ok.inj h
    exact List.forall_mem_cons.mpr ⟨normalize_keyed v hfirst, normalizeEntries_keyed rest hothers⟩
end

end CypherGate
