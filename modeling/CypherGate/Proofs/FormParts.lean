import CypherGate.Proofs.KeyedTrees
import Mathlib.Data.List.Forall2
import Mathlib.Logic.Relation
/-!
# Parts of values and of plain forms

A plain form is made of the plain forms of the value's parts: whatever stands in a value, its plain form
stands in that of the value. Scalars that are no JSON are not made up on the way.
-/
namespace CypherGate

abbrev PlainForm (v : Value) (t : Tree) : Prop := normalize v = .ok t

def PlainEntry (entry : String × Value) (plain : String × Tree) : Prop :=
  entry.1 = plain.1 ∧ PlainForm entry.2 plain.2

def PlainStep (step : Relationship Value × Node Value) (plain : Tree × Tree) : Prop :=
  PlainForm (.relationship step.1) plain.1 ∧ PlainForm (.node step.2) plain.2

/-- A plain form, by the kind of the value. -/
inductive MadeOf : Value → Tree → Prop where
  | null : MadeOf .null .null
  | bool (b : Bool) : MadeOf (.bool b) (.bool b)
  | int (n : Int) : MadeOf (.int n) (.int n)
  | float (x : Binary64) : MadeOf (.float x) (.float x)
  | str (s : String) : MadeOf (.str s) (.str s)
  | other (s : Scalar) : MadeOf (.other s) (.other s)
  | list {items : List Value} {ts : List Tree} (each : List.Forall₂ PlainForm items ts) :
    MadeOf (.list items) (.list ts)
  | tuple {items : List Value} {ts : List Tree} (each : List.Forall₂ PlainForm items ts) :
    MadeOf (.tuple items) (.list ts)
  | map {entries : List (String × Value)} {es : List (String × Tree)}
    (each : List.Forall₂ PlainEntry entries es) : MadeOf (.map entries) (.map (collapse es))
  | duration (months days seconds nanoseconds : Int) :
    MadeOf (.duration months days seconds nanoseconds)
      (.list [.int months, .int days, .int seconds, .int nanoseconds])
  | point (srid : Int) (coordinates : List Binary64) :
    MadeOf (.point srid coordinates) (pointTree srid coordinates)
  | node {n : Node Value} {identity : Tree} {es : List (String × Tree)}
    (own : identityTree n.elementId = .ok identity)
    (each : List.Forall₂ PlainEntry n.properties es) :
    MadeOf (.node n) (nodeTree identity n.labels (collapse es))
  | relationship {r : Relationship Value} {identity start finish : Tree} {es : List (String × Tree)}
    (own : identityTree r.elementId = .ok identity) (first : identityTree r.start = .ok start)
    (last : identityTree r.finish = .ok finish) (each : List.Forall₂ PlainEntry r.properties es) :
    MadeOf (.relationship r) (relationshipTree identity start finish r.kind (collapse es))
  | path {p : Path Value} {first : Tree} {rest : List (Tree × Tree)}
    (start : PlainForm (.node p.start) first) (each : List.Forall₂ PlainStep p.steps rest) :
    MadeOf (.path p) (pathTree first (lastNode first rest) (segments first rest))

theorem items_madeOf {items : List Value} {ts : List Tree} (h : normalizeItems items = .ok ts) :
    List.Forall₂ PlainForm items ts := by
  induction items generalizing ts with
  | nil =>
    obtain rfl := Except.ok.inj h
    exact .nil
  | cons v rest ih =>
    rw [normalizeItems] at h
    obtain ⟨t, first, h⟩ := ok_of_bind h
    obtain ⟨others, later, h⟩ := ok_of_bind h
    obtain rfl := Except.ok.inj h
    exact .cons first (ih later)

theorem entries_madeOf {entries : List (String × Value)} {es : List (String × Tree)}
    (h : normalizeEntries entries = .ok es) : List.Forall₂ PlainEntry entries es := by
  induction entries generalizing es with
  | nil =>
    obtain rfl := Except.ok.inj h
    exact .nil
  | cons entry rest ih =>
    rw [normalizeEntries] at h
    obtain ⟨t, first, h⟩ := ok_of_bind h
    obtain ⟨others, later, h⟩ := ok_of_bind h
    obtain rfl := Except.ok.inj h
    exact .cons ⟨rfl, first⟩ (ih later)

theorem steps_madeOf {steps : List (Relationship Value × Node Value)} {ts : List (Tree × Tree)}
    (h : normalizeSteps steps = .ok ts) : List.Forall₂ PlainStep steps ts := by
  induction steps generalizing ts with
  | nil =>
    obtain rfl := Except.ok.inj h
    exact .nil
  | cons step rest ih =>
    rw [normalizeSteps] at h
    obtain ⟨relationship, first, h⟩ := ok_of_bind h
    obtain ⟨node, second, h⟩ := ok_of_bind h
    obtain ⟨others, later, h⟩ := ok_of_bind h
    obtain rfl := Except.ok.inj h
    refine .cons ⟨?_, ?_⟩ (ih later)
    · rw [PlainForm, normalize, first]
    · rw [PlainForm, normalize, second]

theorem PlainForm.madeOf {v : Value} {t : Tree} (h : PlainForm v t) : MadeOf v t := by
  cases v with
  | null =>
    obtain rfl := Except.ok.inj h
    exact .null
  | bool b =>
    obtain rfl := Except.ok.inj h
    exact .bool b
  | int n =>
    obtain rfl := Except.ok.inj h
    exact .int n
  | float x =>
    obtain rfl := Except.ok.inj h
    exact .float x
  | str s =>
    obtain rfl := Except.ok.inj h
    exact .str s
  | other s =>
    obtain rfl := Except.ok.inj h
    exact .other s
  | list items =>
    rw [PlainForm, normalize] at h
    obtain ⟨ts, each, h⟩ := ok_of_bind h
    obtain rfl := Except.ok.inj h
    exact .list (items_madeOf each)
  | tuple items =>
    rw [PlainForm, normalize] at h
    obtain ⟨ts, each, h⟩ := ok_of_bind h
    obtain rfl := Except.ok.inj h
    exact .tuple (items_madeOf each)
  | map entries =>
    rw [PlainForm, normalize] at h
    obtain ⟨es, each, h⟩ := ok_of_bind h
    obtain rfl := Except.ok.inj h
    exact .map (entries_madeOf each)
  | duration months days seconds nanoseconds =>
    obtain rfl := Except.ok.inj h
    exact .duration months days seconds nanoseconds
  | point srid coordinates =>
    obtain rfl := Except.ok.inj h
    exact .point srid coordinates
  | node n =>
    rw [PlainForm, normalize, normalizeNode] at h
    obtain ⟨identity, own, h⟩ := ok_of_bind h
    obtain ⟨es, each, h⟩ := ok_of_bind h
    obtain rfl := Except.ok.inj h
    exact .node own (entries_madeOf each)
  | relationship r =>
    rw [PlainForm, normalize, normalizeRelationship] at h
    obtain ⟨identity, own, h⟩ := ok_of_bind h
    obtain ⟨start, first, h⟩ := ok_of_bind h
    obtain ⟨finish, last, h⟩ := ok_of_bind h
    obtain ⟨es, each, h⟩ := ok_of_bind h
    obtain rfl := Except.ok.inj h
    exact .relationship own first last (entries_madeOf each)
  | path p =>
    rw [PlainForm, normalize] at h
    obtain ⟨first, start, h⟩ := ok_of_bind h
    obtain ⟨rest, each, h⟩ := ok_of_bind h
    obtain rfl := Except.ok.inj h
    refine .path ?_ (steps_madeOf each)
    rw [PlainForm, normalize, start]

/-! ## Parts at any depth -/

/-- What a value consists of. Of a repeated key only the last value counts. -/
def Value.parts : Value → List Value
  | .list items | .tuple items => items
  | .map entries => (collapse entries).map Prod.snd
  | .node n => (collapse n.properties).map Prod.snd
  | .relationship r => (collapse r.properties).map Prod.snd
  | .path p => .node p.start :: p.steps.flatMap fun (r, n) => [.relationship r, .node n]
  | _ => []

def Tree.parts : Tree → List Tree
  | .list items => items
  | .map entries => entries.map Prod.snd
  | _ => []

/-- One value stands in another, at whatever depth, or is that value. -/
def Value.Holds : Value → Value → Prop := Relation.ReflTransGen fun v w => w ∈ v.parts

def Tree.Holds : Tree → Tree → Prop := Relation.ReflTransGen fun t u => u ∈ t.parts

theorem Tree.Holds.part {t u : Tree} (h : u ∈ t.parts) : t.Holds u := .single h

section

variable {α β : Type} {R : α → β → Prop} {xs : List α} {ys : List β}

theorem exists_of_mem_left (h : List.Forall₂ R xs ys) {x : α} (hx : x ∈ xs) : ∃ y ∈ ys, R x y := by
  induction h with
  | nil => cases hx
  | cons first _ ih =>
    rcases List.mem_cons.mp hx with rfl | hx
    · exact ⟨_, List.mem_cons_self, first⟩
    · obtain ⟨y, hy, related⟩ := ih hx
      exact ⟨y, List.mem_cons_of_mem _ hy, related⟩

theorem exists_of_mem_right (h : List.Forall₂ R xs ys) {y : β} (hy : y ∈ ys) : ∃ x ∈ xs, R x y :=
  exists_of_mem_left h.flip hy

end

theorem plainEntry_setEntry {key : String} {v : Value} {t : Tree} (same : PlainForm v t)
    {entries : List (String × Value)} {es : List (String × Tree)}
    (h : List.Forall₂ PlainEntry entries es) :
    List.Forall₂ PlainEntry (setEntry key v entries) (setEntry key t es) := by
  induction h with
  | nil => exact .cons ⟨rfl, same⟩ .nil
  | @cons entry plain entries es first rest ih =>
    obtain ⟨k, w⟩ := entry
    obtain ⟨k', u⟩ := plain
    obtain ⟨rfl, form⟩ := first
    by_cases here : k = key
    · rw [setEntry, setEntry, if_pos here, if_pos here]
      exact .cons ⟨rfl, same⟩ rest
    · rw [setEntry, setEntry, if_neg here, if_neg here]
      exact .cons ⟨rfl, form⟩ ih

theorem plainEntry_collapse {entries : List (String × Value)} {es : List (String × Tree)}
    (h : List.Forall₂ PlainEntry entries es) :
    List.Forall₂ PlainEntry (collapse entries) (collapse es) := by
  refine List.rel_foldl ?_ .nil h
  rintro known plain same ⟨key, v⟩ ⟨key', t⟩ ⟨rfl, form⟩
  exact plainEntry_setEntry form same

theorem exists_of_entry {entries : List (String × Value)} {es : List (String × Tree)}
    (h : List.Forall₂ PlainEntry entries es) {w : Value} (hw : w ∈ (collapse entries).map Prod.snd) :
    ∃ u ∈ (collapse es).map Prod.snd, PlainForm w u := by
  obtain ⟨entry, member, rfl⟩ := List.mem_map.mp hw
  obtain ⟨plain, member', -, form⟩ := exists_of_mem_left (plainEntry_collapse h) member
  exact ⟨plain.2, List.mem_map_of_mem member', form⟩

theorem exists_segment (start : Tree) {steps : List (Tree × Tree)} {step : Tree × Tree}
    (h : step ∈ steps) : ∃ before, segmentTree before step.1 step.2 ∈ segments start steps := by
  induction steps generalizing start with
  | nil => cases h
  | cons first rest ih =>
    rcases List.mem_cons.mp h with rfl | h
    · exact ⟨start, List.mem_cons_self⟩
    · obtain ⟨before, member⟩ := ih first.2 h
      exact ⟨before, List.mem_cons_of_mem _ member⟩

theorem pathTree_holds_step (first : Tree) {rest : List (Tree × Tree)} {step : Tree × Tree}
    (h : step ∈ rest) :
    (pathTree first (lastNode first rest) (segments first rest)).Holds step.1 ∧
      (pathTree first (lastNode first rest) (segments first rest)).Holds step.2 := by
  obtain ⟨before, member⟩ := exists_segment first h
  have listed : (pathTree first (lastNode first rest) (segments first rest)).Holds
      (.list (segments first rest)) := .part (by simp [pathTree, Tree.parts])
  have segment : (pathTree first (lastNode first rest) (segments first rest)).Holds
      (segmentTree before step.1 step.2) := listed.tail member
  exact ⟨segment.tail (by simp [segmentTree, Tree.parts]),
    segment.tail (by simp [segmentTree, Tree.parts])⟩

theorem MadeOf.holds_part {v w : Value} {t : Tree} (h : MadeOf v t) (part : w ∈ v.parts) :
    ∃ u, PlainForm w u ∧ t.Holds u := by
  cases h with
  | list each | tuple each =>
    obtain ⟨u, member, form⟩ := exists_of_mem_left each part
    exact ⟨u, form, .part member⟩
  | map each =>
    obtain ⟨u, member, form⟩ := exists_of_entry each part
    exact ⟨u, form, .part member⟩
  | @node n identity es own each =>
    obtain ⟨u, member, form⟩ := exists_of_entry each part
    have properties : (nodeTree identity n.labels (collapse es)).Holds (.map (collapse es)) :=
      .part (by simp [nodeTree, Tree.parts])
    exact ⟨u, form, properties.tail member⟩
  | @relationship r identity start finish es own first last each =>
    obtain ⟨u, member, form⟩ := exists_of_entry each part
    have properties : (relationshipTree identity start finish r.kind (collapse es)).Holds
        (.map (collapse es)) := .part (by simp [relationshipTree, Tree.parts])
    exact ⟨u, form, properties.tail member⟩
  | @path p first rest start each =>
    rcases List.mem_cons.mp part with rfl | part
    · exact ⟨first, start, .part (by simp [pathTree, Tree.parts])⟩
    · obtain ⟨step, member, choice⟩ := List.mem_flatMap.mp part
      obtain ⟨plain, member', relationship, node⟩ := exists_of_mem_left each member
      obtain ⟨holds, holds'⟩ := pathTree_holds_step first member'
      simp only [List.mem_cons, List.not_mem_nil, or_false] at choice
      rcases choice with rfl | rfl
      · exact ⟨plain.1, relationship, holds⟩
      · exact ⟨plain.2, node, holds'⟩
  | null | bool b | int n | float x | str s | other s | duration months days seconds nanoseconds
  | point srid coordinates => cases part

theorem PlainForm.holds {v w : Value} {t : Tree} (h : PlainForm v t) (part : v.Holds w) :
    ∃ u, PlainForm w u ∧ t.Holds u := by
  induction part with
  | refl => exact ⟨t, h, .refl⟩
  | tail _ here ih =>
    obtain ⟨u, form, holds⟩ := ih
    obtain ⟨u', form', holds'⟩ := form.madeOf.holds_part here
    exact ⟨u', form', holds.trans holds'⟩

end CypherGate
