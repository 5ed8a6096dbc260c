import CypherGate.Proofs.KeyedTrees
/-!
# Values and trees of finite floats

A plain form has no floats but those of the value: where these are finite, so are those of the tree.
-/
namespace CypherGate

def Binary64.isFinite : Binary64 → Bool
  | .finite _ _ => true
  | _ => false

/-- All floats of a tree, at whatever depth, are finite. -/
inductive Tree.FiniteFloats : Tree → Prop where
  | null : FiniteFloats .null
  | bool (b : Bool) : FiniteFloats (.bool b)
  | int (n : Int) : FiniteFloats (.int n)
  | float {x : Binary64} (finite : x.isFinite) : FiniteFloats (.float x)
  | str (s : String) : FiniteFloats (.str s)
  | other (s : Scalar) : FiniteFloats (.other s)
  | list {items : List Tree} (each : ∀ t ∈ items, FiniteFloats t) : FiniteFloats (.list items)
  | map {entries : List (String × Tree)} (each : ∀ e ∈ entries, FiniteFloats e.2) :
    FiniteFloats (.map entries)

/-- All floats of a value are finite, also those of points and of properties in the graph. -/
inductive Value.FiniteFloats : Value → Prop where
  | null : FiniteFloats .null
  | bool (b : Bool) : FiniteFloats (.bool b)
  | int (n : Int) : FiniteFloats (.int n)
  | float {x : Binary64} (finite : x.isFinite) : FiniteFloats (.float x)
  | str (s : String) : FiniteFloats (.str s)
  | other (s : Scalar) : FiniteFloats (.other s)
  | list {items : List Value} (each : ∀ v ∈ items, FiniteFloats v) : FiniteFloats (.list items)
  | tuple {items : List Value} (each : ∀ v ∈ items, FiniteFloats v) : FiniteFloats (.tuple items)
  | map {entries : List (String × Value)} (each : ∀ e ∈ entries, FiniteFloats e.2) :
    FiniteFloats (.map entries)
  | duration (months days seconds nanoseconds : Int) :
    FiniteFloats (.duration months days seconds nanoseconds)
  | point (srid : Int) {coordinates : List Binary64} (each : ∀ x ∈ coordinates, x.isFinite) :
    FiniteFloats (.point srid coordinates)
  | node {n : Node Value} (each : ∀ e ∈ n.properties, FiniteFloats e.2) : FiniteFloats (.node n)
  | relationship {r : Relationship Value} (each : ∀ e ∈ r.properties, FiniteFloats e.2) :
    FiniteFloats (.relationship r)
  | path {p : Path Value} (first : ∀ e ∈ p.start.properties, FiniteFloats e.2)
    (relationships : ∀ step ∈ p.steps, ∀ e ∈ step.1.properties, FiniteFloats e.2)
    (nodes : ∀ step ∈ p.steps, ∀ e ∈ step.2.properties, FiniteFloats e.2) : FiniteFloats (.path p)

namespace Tree.FiniteFloats

theorem identityTree {elementId : String} {t : Tree} (h : identityTree elementId = .ok t) :
    t.FiniteFloats := by
  obtain ⟨identity, -, rfl⟩ := ok_of_map h
  cases identity with
  | number n => exact .int n
  | name elementId => exact .str elementId

theorem pointTree (srid : Int) {coordinates : List Binary64} (each : ∀ x ∈ coordinates, x.isFinite) :
    (pointTree srid coordinates).FiniteFloats := by
  refine .map (List.forall_mem_cons.mpr ⟨.int srid, fun e he => ?_⟩)
  obtain ⟨x, hx, same⟩ := List.mem_map.mp (List.of_mem_zip he).2
  rw [← same]
  exact .float (each x hx)

theorem segmentTree {start relationship finish : Tree} (h : start.FiniteFloats)
    (k : relationship.FiniteFloats) (l : finish.FiniteFloats) :
    (segmentTree start relationship finish).FiniteFloats :=
  .map (by simp [h, k, l])

end Tree.FiniteFloats

/-- Whatever plain form the value has, its floats are finite. -/
def Value.PlainFinite (v : Value) : Prop := ∀ t, normalize v = .ok t → t.FiniteFloats

theorem normalizeItems_finite {items : List Value} (each : ∀ v ∈ items, v.PlainFinite) {ts : List Tree}
    (h : normalizeItems items = .ok ts) : ∀ t ∈ ts, t.FiniteFloats := by
  induction items generalizing ts with
  | nil =>
    obtain rfl := Except.ok.inj h
    simp
  | cons v rest ih =>
    obtain ⟨first, others⟩ := List.forall_mem_cons.mp each
    rw [normalizeItems] at h
    obtain ⟨t, ht, h⟩ := ok_of_bind h
    obtain ⟨ts', hts, h⟩ := ok_of_bind h
    obtain rfl := Except.ok.inj h
    exact List.forall_mem_cons.mpr ⟨first t ht, ih others hts⟩

theorem normalizeEntries_finite {entries : List (String × Value)}
    (each : ∀ e ∈ entries, e.2.PlainFinite) {es : List (String × Tree)}
    (h : normalizeEntries entries = .ok es) : (Tree.map (collapse es)).FiniteFloats := by
  have all : ∀ e ∈ es, e.2.FiniteFloats := by
    induction entries generalizing es with
    | nil =>
      obtain rfl := Except.ok.inj h
      simp
    | cons entry rest ih =>
      obtain ⟨key, v⟩ := entry
      obtain ⟨first, others⟩ := List.forall_mem_cons.mp each
      rw [normalizeEntries] at h
      obtain ⟨t, ht, h⟩ := ok_of_bind h
      obtain ⟨es', hes, h⟩ := ok_of_bind h
      obtain rfl := Except.ok.inj h
      exact List.forall_mem_cons.mpr ⟨first t ht, ih others hes⟩
  exact .map fun e he => all e (mem_of_mem_collapse e he)

theorem normalizeNode_finite {n : Node Value} (each : ∀ e ∈ n.properties, e.2.PlainFinite) {t : Tree}
    (h : normalizeNode n = .ok t) : t.FiniteFloats := by
  obtain ⟨elementId, labels, properties⟩ := n
  rw [normalizeNode] at h
  obtain ⟨identity, hidentity, h⟩ := ok_of_bind h
  obtain ⟨es, hes, h⟩ := ok_of_bind h
  obtain rfl := Except.ok.inj h
  have names : (Tree.list ((labelList labels).map .str)).FiniteFloats := by
    refine .list fun t ht => ?_
    obtain ⟨name, -, rfl⟩ := List.mem_map.mp ht
    exact .str name
  exact .map (by simp [names, Tree.FiniteFloats.identityTree hidentity, normalizeEntries_finite each hes])

theorem normalizeRelationship_finite {r : Relationship Value}
    (each : ∀ e ∈ r.properties, e.2.PlainFinite) {t : Tree} (h : normalizeRelationship r = .ok t) :
    t.FiniteFloats := by
  obtain ⟨elementId, kind, start, finish, properties⟩ := r
  rw [normalizeRelationship] at h
  obtain ⟨identity, hidentity, h⟩ := ok_of_bind h
  obtain ⟨first, hfirst, h⟩ := ok_of_bind h
  obtain ⟨last, hlast, h⟩ := ok_of_bind h
  obtain ⟨es, hes, h⟩ := ok_of_bind h
  obtain rfl := Except.ok.inj h
  have identities := @Tree.FiniteFloats.identityTree
  exact .map (by simp [identities hidentity, identities hfirst, identities hlast,
    Tree.FiniteFloats.str, normalizeEntries_finite each hes])

theorem normalizeSteps_finite {steps : List (Relationship Value × Node Value)}
    (relationships : ∀ step ∈ steps, ∀ e ∈ step.1.properties, e.2.PlainFinite)
    (nodes : ∀ step ∈ steps, ∀ e ∈ step.2.properties, e.2.PlainFinite) {ts : List (Tree × Tree)}
    (h : normalizeSteps steps = .ok ts) : ∀ p ∈ ts, p.1.FiniteFloats ∧ p.2.FiniteFloats := by
  induction steps generalizing ts with
  | nil =>
    obtain rfl := Except.ok.inj h
    simp
  | cons step rest ih =>
    obtain ⟨r, n⟩ := step
    obtain ⟨first, relationships'⟩ := List.forall_mem_cons.mp relationships
    obtain ⟨second, nodes'⟩ := List.forall_mem_cons.mp nodes
    rw [normalizeSteps] at h
    obtain ⟨relationship, hr, h⟩ := ok_of_bind h
    obtain ⟨node, hn, h⟩ := ok_of_bind h
    obtain ⟨others, hothers, h⟩ := ok_of_bind h
    obtain rfl := Except.ok.inj h
    exact List.forall_mem_cons.mpr ⟨⟨normalizeRelationship_finite first hr,
      normalizeNode_finite second hn⟩, ih relationships' nodes' hothers⟩

theorem normalize_finite {v : Value} (finite : v.FiniteFloats) : v.PlainFinite := by
  induction finite with
  | null =>
    rintro t ⟨⟩
    exact .null
  | bool b =>
    rintro t ⟨⟩
    exact .bool b
  | int n =>
    rintro t ⟨⟩
    exact .int n
  | float finite =>
    rintro t ⟨⟩
    exact .float finite
  | str s =>
    rintro t ⟨⟩
    exact .str s
  | other s =>
    rintro t ⟨⟩
    exact .other s
  | list each ih | tuple each ih =>
    intro t h
    rw [normalize] at h
    obtain ⟨ts, hts, h⟩ := ok_of_bind h
    obtain rfl := Except.ok.inj h
    exact .list (normalizeItems_finite ih hts)
  | map each ih =>
    intro t h
    rw [normalize] at h
    obtain ⟨es, hes, h⟩ := ok_of_bind h
    obtain rfl := Except.ok.inj h
    exact normalizeEntries_finite ih hes
  | duration months days seconds nanoseconds =>
    rintro t ⟨⟩
    exact .list (by simp [Tree.FiniteFloats.int])
  | point srid each =>
    rintro t ⟨⟩
    exact .pointTree srid each
  | node each ih =>
    intro t h
    rw [normalize] at h
    exact normalizeNode_finite ih h
  | relationship each ih =>
    intro t h
    rw [normalize] at h
    exact normalizeRelationship_finite ih h
  | @path p first relationships nodes ih ih' ih'' =>
    intro t h
    obtain ⟨start, steps⟩ := p
    rw [normalize] at h
    obtain ⟨node, hnode, h⟩ := ok_of_bind h
    obtain ⟨rest, hrest, h⟩ := ok_of_bind h
    obtain rfl := Except.ok.inj h
    have first := normalizeNode_finite ih hnode
    have others := normalizeSteps_finite ih' ih'' hrest
    have segments := forall_segments Tree.FiniteFloats.segmentTree first others
    exact .map (by simp [first, forall_lastNode first others, Tree.FiniteFloats.list segments])

end CypherGate
