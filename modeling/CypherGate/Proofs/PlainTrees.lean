import CypherGate.Proofs.FormParts
/-!
# Plain values

Nothing of the graph, no tuple and no duration is left in a plain form, and it keeps no other scalars than
those of the value. Plain values are their own plain forms, so that a plain form is settled once and for
all.
-/
namespace CypherGate

namespace Tree

theorem holds_iff {t u : Tree} : t.Holds u ↔ t = u ∨ ∃ p ∈ t.parts, p.Holds u := by
  constructor
  · intro h
    rcases Relation.ReflTransGen.cases_head h with rfl | ⟨p, part, rest⟩
    · exact .inl rfl
    · exact .inr ⟨p, part, rest⟩
  · rintro (rfl | ⟨p, part, rest⟩)
    · exact .refl
    · exact .head part rest

theorem holds_of_leaf {t u : Tree} (leaf : t.parts = []) : t.Holds u ↔ t = u := by
  rw [holds_iff, leaf]
  simp

/-- Trees other than integers and scalars have the property as soon as their parts have it. -/
def Closed (P : Tree → Prop) : Prop :=
  ∀ t, (∀ n, t ≠ .int n) → (∀ s, t ≠ .other s) → (∀ u ∈ t.parts, P u) → P t

namespace Closed

variable {P : Tree → Prop}

theorem float (h : Closed P) (x : Binary64) : P (.float x) := h _ nofun nofun nofun

theorem str (h : Closed P) (text : String) : P (.str text) := h _ nofun nofun nofun

theorem list (h : Closed P) {ts : List Tree} (each : ∀ t ∈ ts, P t) : P (.list ts) :=
  h _ nofun nofun each

theorem map (h : Closed P) {es : List (String × Tree)} (each : ∀ t ∈ es.map Prod.snd, P t) :
    P (.map es) :=
  h _ nofun nofun each

theorem labels (h : Closed P) (names : List String) : P (.list ((labelList names).map .str)) := by
  refine h.list fun t ht => ?_
  obtain ⟨name, -, rfl⟩ := List.mem_map.mp ht
  exact h.str name

theorem segment (h : Closed P) {start relationship finish : Tree} (first : P start)
    (second : P relationship) (last : P finish) : P (segmentTree start relationship finish) :=
  h.map (by simp [first, second, last])

end Closed

end Tree

/-- The integers of a value itself, without those of its parts. -/
def Value.integers : Value → List Int
  | .int n => [n]
  | .duration months days seconds nanoseconds => [months, days, seconds, nanoseconds]
  | .point srid _ => [srid]
  | _ => []

/-- What holds of the plain forms of the parts, of integers and scalars of the value and of identities
holds of its plain form. -/
theorem MadeOf.closed {P : Tree → Prop} (closed : Tree.Closed P) {v : Value} {t : Tree} (h : MadeOf v t)
    (parts : ∀ w ∈ v.parts, ∀ u, PlainForm w u → P u) (integers : ∀ n ∈ v.integers, P (.int n))
    (scalar : ∀ s, v = .other s → P (.other s))
    (identity : ∀ elementId u, identityTree elementId = .ok u → P u) : P t := by
  have entries : ∀ {pairs : List (String × Value)} {es : List (String × Tree)},
      List.Forall₂ PlainEntry pairs es → v.parts = (collapse pairs).map Prod.snd →
      P (.map (collapse es)) := by
    intro pairs es each own
    refine closed.map fun t ht => ?_
    obtain ⟨plain, member, rfl⟩ := List.mem_map.mp ht
    obtain ⟨entry, member', -, form⟩ := exists_of_mem_right (plainEntry_collapse each) member
    exact parts _ (own ▸ List.mem_map_of_mem member') _ form
  cases h with
  | null | bool b | float x | str s => exact closed _ nofun nofun nofun
  | int n => exact integers n List.mem_cons_self
  | other s => exact scalar s rfl
  | list each | tuple each =>
    refine closed.list fun u hu => ?_
    obtain ⟨w, member, form⟩ := exists_of_mem_right each hu
    exact parts w member u form
  | map each => exact entries each rfl
  | duration months days seconds nanoseconds =>
    exact closed.list (by simpa [Value.integers] using integers)
  | point srid coordinates =>
    refine closed.map fun u hu => ?_
    obtain ⟨entry, member, rfl⟩ := List.mem_map.mp hu
    rcases List.mem_cons.mp member with rfl | member
    · exact integers srid List.mem_cons_self
    · obtain ⟨x, -, same⟩ := List.mem_map.mp (List.of_mem_zip member).2
      exact same ▸ closed.float x
  | node own each =>
    exact closed.map (by simp [identity _ _ own, closed.labels, entries each rfl])
  | relationship own first last each =>
    exact closed.map (by simp [identity _ _ own, identity _ _ first, identity _ _ last, closed.str,
      entries each rfl])
  | @path p first rest start each =>
    have begins : P first := parts _ List.mem_cons_self first start
    have goesOn : ∀ step ∈ rest, P step.1 ∧ P step.2 := by
      intro plain hplain
      obtain ⟨step, member, relationship, node⟩ := exists_of_mem_right each hplain
      have mem : ∀ w ∈ [Value.relationship step.1, .node step.2], w ∈ (Value.path p).parts :=
        fun w hw => List.mem_cons_of_mem _ (List.mem_flatMap.mpr ⟨step, member, hw⟩)
      exact ⟨parts _ (mem _ (by simp)) _ relationship, parts _ (mem _ (by simp)) _ node⟩
    have segments := forall_segments closed.segment begins goesOn
    exact closed.map (by simp [begins, forall_lastNode begins goesOn, closed.list segments])

theorem Value.sizeOf_lt_of_mem_parts {v w : Value} (h : w ∈ v.parts) : sizeOf w < sizeOf v := by
  have entry : ∀ {entries : List (String × Value)}, w ∈ (collapse entries).map Prod.snd →
      sizeOf w < sizeOf entries := by
    intro entries hw
    obtain ⟨e, member, rfl⟩ := List.mem_map.mp hw
    have smaller := List.sizeOf_lt_of_mem (mem_of_mem_collapse e member)
    obtain ⟨key, u⟩ := e
    rw [Prod.mk.sizeOf_spec] at smaller
    show sizeOf u < sizeOf entries
    omega
  cases v with
  | null | bool b | int n | float x | str s | other s | duration months days seconds nanoseconds
  | point srid coordinates => cases h
  | list items | tuple items =>
    have smaller : sizeOf w < sizeOf items := List.sizeOf_lt_of_mem h
    simp only [Value.list.sizeOf_spec, Value.tuple.sizeOf_spec]
    omega
  | map entries =>
    have smaller : sizeOf w < sizeOf entries := entry h
    simp only [Value.map.sizeOf_spec]
    omega
  | node n =>
    obtain ⟨elementId, labels, properties⟩ := n
    have smaller : sizeOf w < sizeOf properties := entry h
    simp only [Value.node.sizeOf_spec, Node.mk.sizeOf_spec]
    omega
  | relationship r =>
    obtain ⟨elementId, kind, start, finish, properties⟩ := r
    have smaller : sizeOf w < sizeOf properties := entry h
    simp only [Value.relationship.sizeOf_spec, Relationship.mk.sizeOf_spec]
    omega
  | path p =>
    obtain ⟨start, steps⟩ := p
    simp only [Value.path.sizeOf_spec, Path.mk.sizeOf_spec]
    rcases List.mem_cons.mp h with rfl | h
    · simp only [Value.node.sizeOf_spec]
      omega
    · obtain ⟨step, member, choice⟩ := List.mem_flatMap.mp h
      have smaller := List.sizeOf_lt_of_mem member
      obtain ⟨r, n⟩ := step
      simp only [Prod.mk.sizeOf_spec] at smaller
      simp only [List.mem_cons, List.not_mem_nil, or_false] at choice
      rcases choice with rfl | rfl
      · simp only [Value.relationship.sizeOf_spec]
        omega
      · simp only [Value.node.sizeOf_spec]
        omega

theorem Value.parts_induction {P : Value → Prop} (step : ∀ v, (∀ w ∈ v.parts, P w) → P v) (v : Value) :
    P v := by
  induction size : sizeOf v using Nat.strongRecOn generalizing v with
  | _ n ih =>
    subst size
    exact step v fun w part => ih _ (sizeOf_lt_of_mem_parts part) w rfl

theorem PlainForm.scalar {v : Value} {t : Tree} {s : Scalar} (h : PlainForm v t)
    (holds : t.Holds (.other s)) : v.Holds (.other s) := by
  induction v using Value.parts_induction generalizing t with
  | step v ih =>
    have closed : Tree.Closed fun u => u.Holds (.other s) → v.Holds (.other s) := by
      intro u _ other each holds
      rcases Tree.holds_iff.mp holds with rfl | ⟨p, part, holds⟩
      · exact absurd rfl (other s)
      · exact each p part holds
    have integer : ∀ n, ¬(Tree.int n).Holds (.other s) := by
      intro n holds
      cases (Tree.holds_of_leaf rfl).mp holds
    refine h.madeOf.closed closed ?_ ?_ ?_ ?_ holds
    · exact fun w part u form holds => .head part (ih w part form holds)
    · exact fun n _ holds => absurd holds (integer n)
    · rintro s' rfl holds
      obtain rfl := Tree.other.inj ((Tree.holds_of_leaf rfl).mp holds)
      exact .refl
    · intro elementId u own holds
      obtain ⟨identity, -, rfl⟩ := ok_of_map own
      cases identity with
      | number n => exact absurd holds (integer n)
      | name elementId => exact closed.str elementId holds

/-! ## Plain values -/

/-- Values that JSON has, and other scalars. -/
def Value.isPlain : Value → Bool
  | .tuple _ | .duration _ _ _ _ | .point _ _ | .node _ | .relationship _ | .path _ => false
  | _ => true

/-- A value that is plain at any depth. -/
def Value.Plain (v : Value) : Prop := ∀ w, v.Holds w → w.isPlain

/-- No map, at whatever depth, has a key twice. -/
def Value.Keyed (v : Value) : Prop :=
  ∀ entries, v.Holds (.map entries) → (entries.map Prod.fst).Nodup

theorem Value.Plain.part {v w : Value} (h : v.Plain) (part : w ∈ v.parts) : w.Plain :=
  fun u holds => h u (.head part holds)

theorem Value.Keyed.part {v w : Value} (h : v.Keyed) (part : w ∈ v.parts) : w.Keyed :=
  fun entries holds => h entries (.head part holds)

theorem ofTrees_eq (ts : List Tree) : Value.ofTrees ts = ts.map Value.ofTree := by
  induction ts with
  | nil => rfl
  | cons t rest ih => rw [Value.ofTrees, ih, List.map_cons]

theorem ofEntries_eq (es : List (String × Tree)) :
    Value.ofEntries es = es.map fun e => (e.1, Value.ofTree e.2) := by
  induction es with
  | nil => rfl
  | cons e rest ih => rw [Value.ofEntries, ih, List.map_cons]

theorem keys_ofEntries (es : List (String × Tree)) :
    (Value.ofEntries es).map Prod.fst = es.map Prod.fst := by
  rw [ofEntries_eq, List.map_map]
  rfl

namespace Tree

theorem Keyed.part {t u : Tree} (h : t.Keyed) (part : u ∈ t.parts) : u.Keyed := by
  cases h with
  | list each => exact each u part
  | map distinct each =>
    obtain ⟨e, member, rfl⟩ := List.mem_map.mp part
    exact each e member
  | null | bool b | int n | float x | str s | other s => cases part

theorem Keyed.parts_ofTree {t : Tree} (h : t.Keyed) :
    (Value.ofTree t).parts = t.parts.map Value.ofTree := by
  cases h with
  | list each => exact ofTrees_eq _
  | @map entries distinct each =>
    rw [Value.ofTree, Value.parts, collapse_of_nodup (by rwa [keys_ofEntries]), ofEntries_eq,
      Tree.parts, List.map_map, List.map_map]
    rfl
  | null | bool b | int n | float x | str s | other s => rfl

theorem Keyed.holds_ofTree {t : Tree} (h : t.Keyed) {w : Value} (holds : (Value.ofTree t).Holds w) :
    ∃ u, u.Keyed ∧ t.Holds u ∧ w = Value.ofTree u := by
  induction holds with
  | refl => exact ⟨t, h, .refl, rfl⟩
  | tail _ here ih =>
    obtain ⟨u, keyed, holds, rfl⟩ := ih
    rw [keyed.parts_ofTree] at here
    obtain ⟨u', part, rfl⟩ := List.mem_map.mp here
    exact ⟨u', keyed.part part, holds.tail part, rfl⟩

end Tree

theorem isPlain_ofTree (t : Tree) : (Value.ofTree t).isPlain := by
  cases t <;> rfl

theorem plain_ofTree {t : Tree} (h : t.Keyed) : (Value.ofTree t).Plain := by
  intro w holds
  obtain ⟨u, -, -, rfl⟩ := h.holds_ofTree holds
  exact isPlain_ofTree u

theorem keyed_ofTree {t : Tree} (h : t.Keyed) : (Value.ofTree t).Keyed := by
  intro entries holds
  obtain ⟨u, keyed, -, eq⟩ := h.holds_ofTree holds
  cases keyed with
  | map distinct each =>
    obtain rfl := Value.map.inj eq
    rwa [keys_ofEntries]
  | null | bool b | int n | float x | str s | other s | list each => cases eq

theorem normalize_ofTree {t : Tree} (h : t.Keyed) : normalize (Value.ofTree t) = .ok t := by
  induction h with
  | null | bool b | int n | float x | str s | other s => rfl
  | @list items each ih =>
    have forms : normalizeItems (Value.ofTrees items) = .ok items := by
      clear each
      induction items with
      | nil => rfl
      | cons t rest ih' =>
        obtain ⟨here, later⟩ := List.forall_mem_cons.mp ih
        rw [Value.ofTrees, normalizeItems, here, ih' later]
        rfl
    rw [Value.ofTree, normalize, forms]
    rfl
  | @map entries distinct each ih =>
    have forms : normalizeEntries (Value.ofEntries entries) = .ok entries := by
      clear each distinct
      induction entries with
      | nil => rfl
      | cons e rest ih' =>
        obtain ⟨here, later⟩ := List.forall_mem_cons.mp ih
        rw [Value.ofEntries, normalizeEntries, here, ih' later]
        rfl
    rw [Value.ofTree, normalize, forms]
    exact congrArg (Except.ok ∘ Tree.map) (collapse_of_nodup distinct)

theorem exists_ofTrees {items : List Value} (h : ∀ v ∈ items, ∃ t : Tree, t.Keyed ∧ v = Value.ofTree t) :
    ∃ ts : List Tree, (∀ t ∈ ts, t.Keyed) ∧ items = Value.ofTrees ts := by
  induction items with
  | nil => exact ⟨[], nofun, rfl⟩
  | cons v rest ih =>
    obtain ⟨⟨t, keyed, rfl⟩, later⟩ := List.forall_mem_cons.mp h
    obtain ⟨ts, each, rfl⟩ := ih later
    exact ⟨t :: ts, List.forall_mem_cons.mpr ⟨keyed, each⟩, rfl⟩

theorem exists_ofEntries {entries : List (String × Value)}
    (h : ∀ v ∈ entries.map Prod.snd, ∃ t : Tree, t.Keyed ∧ v = Value.ofTree t) :
    ∃ es : List (String × Tree), (∀ e ∈ es, e.2.Keyed) ∧ entries = Value.ofEntries es := by
  induction entries with
  | nil => exact ⟨[], nofun, rfl⟩
  | cons entry rest ih =>
    obtain ⟨key, v⟩ := entry
    obtain ⟨⟨t, keyed, rfl⟩, later⟩ := List.forall_mem_cons.mp h
    obtain ⟨es, each, rfl⟩ := ih later
    exact ⟨(key, t) :: es, List.forall_mem_cons.mpr ⟨keyed, each⟩, rfl⟩

theorem exists_ofTree {v : Value} (plain : v.Plain) (keyed : v.Keyed) :
    ∃ t : Tree, t.Keyed ∧ v = Value.ofTree t := by
  induction v using Value.parts_induction with
  | step v ih =>
    have parts : ∀ w ∈ v.parts, ∃ t : Tree, t.Keyed ∧ w = Value.ofTree t :=
      fun w part => ih w part (plain.part part) (keyed.part part)
    have here := plain v .refl
    cases v with
    | null => exact ⟨.null, .null, rfl⟩
    | bool b => exact ⟨.bool b, .bool b, rfl⟩
    | int n => exact ⟨.int n, .int n, rfl⟩
    | float x => exact ⟨.float x, .float x, rfl⟩
    | str s => exact ⟨.str s, .str s, rfl⟩
    | other s => exact ⟨.other s, .other s, rfl⟩
    | list items =>
      obtain ⟨ts, each, rfl⟩ := exists_ofTrees parts
      exact ⟨.list ts, .list each, rfl⟩
    | map entries =>
      have distinct := keyed entries .refl
      rw [Value.parts, collapse_of_nodup distinct] at parts
      obtain ⟨es, each, rfl⟩ := exists_ofEntries parts
      exact ⟨.map es, .map (by rwa [keys_ofEntries] at distinct) each, rfl⟩
    | tuple items | duration months days seconds nanoseconds | point srid coordinates | node n
    | relationship r | path p => cases here

/-- What is known of the plain form of a value. -/
structure PlainTree (v : Value) (r : Tree) : Prop where
  plain : (Value.ofTree r).Plain
  keyed : (Value.ofTree r).Keyed
  scalars : ∀ s, (Value.ofTree r).Holds (.other s) → v.Holds (.other s)
  fixed : normalize (Value.ofTree r) = .ok r
  unchanged : v.Plain → v.Keyed → Value.ofTree r = v

/-- Plain forms are plain, and to take the plain form of a plain form or of a plain value changes
nothing. -/
theorem normalize_plain {v : Value} {r : Tree} (h : normalize v = .ok r) : PlainTree v r := by
  have keyed := normalize_keyed v h
  refine ⟨plain_ofTree keyed, keyed_ofTree keyed, ?_, normalize_ofTree keyed, ?_⟩
  · intro s holds
    obtain ⟨u, -, holds, eq⟩ := keyed.holds_ofTree holds
    cases u with
    | other s' =>
      obtain rfl := Value.other.inj eq
      exact PlainForm.scalar h holds
    | null | bool b | int n | float x | str text | list items | map entries => cases eq
  · intro plain keys
    obtain ⟨t, keyed', rfl⟩ := exists_ofTree plain keys
    rw [normalize_ofTree keyed'] at h
    rw [Except.ok.inj h]

/-- A relationship taken backwards, with a place, a time of stay and raw bytes. -/
theorem normalize_plain_journey :
    let v : Value := .map [("path", .path ⟨⟨"4:db:1", ["Stop"], [("at", .point 7203 [.zero false])]⟩,
      [(⟨"5:db:9", "NEXT", "4:db:2", "4:db:1", [("stay", .duration 0 1 0 0)]⟩, ⟨"4:db:2", [], []⟩)]⟩),
      ("raw", .tuple [.other (.bytes [0, 255]), .null])]
    ∃ r, normalize v = .ok r ∧ PlainTree v r :=
  ⟨_, rfl, normalize_plain rfl⟩

end CypherGate
