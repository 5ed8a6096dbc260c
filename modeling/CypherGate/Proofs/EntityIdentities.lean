import CypherGate.Proofs.ElementIds
import CypherGate.Proofs.FormParts
/-!
# Identities of entities

All that a plain form needs is that the element ids in the value can be read. It fails as the first one
that cannot, and otherwise every node and relationship of the value is there with its identity.
-/
namespace CypherGate

mutual
/-- The element ids of all entities in a value, in the order in which they are read. -/
def Value.elementIds : Value → List String
  | .list items | .tuple items => itemIds items
  | .map entries => entryIds entries
  | .node n => nodeIds n
  | .relationship r => relationshipIds r
  | .path ⟨start, steps⟩ => nodeIds start ++ stepIds steps
  | _ => []

def nodeIds : Node Value → List String
  | ⟨elementId, _, properties⟩ => elementId :: entryIds properties

/-- A relationship also tells the element ids of its nodes. -/
def relationshipIds : Relationship Value → List String
  | ⟨elementId, _, start, finish, properties⟩ => elementId :: start :: finish :: entryIds properties

def stepIds : List (Relationship Value × Node Value) → List String
  | [] => []
  | (r, n) :: rest => relationshipIds r ++ (nodeIds n ++ stepIds rest)

def itemIds : List Value → List String
  | [] => []
  | v :: rest => v.elementIds ++ itemIds rest

def entryIds : List (String × Value) → List String
  | [] => []
  | (_, v) :: rest => v.elementIds ++ entryIds rest
end

/-- Why an element id cannot be read. -/
def Identity.fault? (elementId : String) : Option NumeralError :=
  match ofElementId elementId with
  | .ok _ => none
  | .error e => some e

/-- What a computation comes to that reads element ids: the first fault, or some value. -/
def Checks {α : Type} (ids : List String) (result : Except NumeralError α) : Prop :=
  match ids.findSome? Identity.fault? with
  | some e => result = .error e
  | none => ∃ a, result = .ok a

namespace Checks

variable {α β : Type} {ids later : List String}

theorem nothing (a : α) : Checks [] (.ok a : Except NumeralError α) := ⟨a, rfl⟩

theorem bind {x : Except NumeralError α} {f : α → Except NumeralError β} (h : Checks ids x)
    (k : ∀ a, Checks later (f a)) : Checks (ids ++ later) (x >>= f) := by
  unfold Checks at h ⊢
  rw [List.findSome?_append]
  cases first : ids.findSome? Identity.fault? with
  | some e =>
    rw [first] at h
    exact congrArg (· >>= f) h
  | none =>
    rw [first] at h
    obtain ⟨a, rfl⟩ := h
    exact k a

theorem andThen {x : Except NumeralError α} {f : α → β} (h : Checks ids x) :
    Checks ids (x >>= fun a => .ok (f a)) := by
  simpa using h.bind fun a => nothing (f a)

theorem identityTree (elementId : String) : Checks [elementId] (identityTree elementId) := by
  unfold Checks CypherGate.identityTree
  rw [List.findSome?_singleton, Identity.fault?]
  cases Identity.ofElementId elementId with
  | ok identity => exact ⟨identity.tree, rfl⟩
  | error e => rfl

end Checks

mutual
theorem normalize_checks (v : Value) : Checks v.elementIds (normalize v) := by
  cases v with
  | null | bool b | int n | float x | str s | other s | duration months days seconds nanoseconds
  | point srid coordinates => exact .nothing _
  | list items | tuple items => exact (normalizeItems_checks items).andThen
  | map entries => exact (normalizeEntries_checks entries).andThen
  | node n => exact normalizeNode_checks n
  | relationship r => exact normalizeRelationship_checks r
  | path p =>
    obtain ⟨start, steps⟩ := p
    exact (normalizeNode_checks start).bind fun first => (normalizeSteps_checks steps).andThen

theorem normalizeNode_checks (n : Node Value) : Checks (nodeIds n) (normalizeNode n) := by
  obtain ⟨elementId, labels, properties⟩ := n
  exact (Checks.identityTree elementId).bind fun identity =>
    (normalizeEntries_checks properties).andThen

theorem normalizeRelationship_checks (r : Relationship Value) :
    Checks (relationshipIds r) (normalizeRelationship r) := by
  obtain ⟨elementId, kind, start, finish, properties⟩ := r
  exact (Checks.identityTree elementId).bind fun identity =>
    (Checks.identityTree start).bind fun first =>
      (Checks.identityTree finish).bind fun last => (normalizeEntries_checks properties).andThen

theorem normalizeSteps_checks (steps : List (Relationship Value × Node Value)) :
    Checks (stepIds steps) (normalizeSteps steps) := by
  cases steps with
  | nil => exact .nothing []
  | cons step rest =>
    obtain ⟨r, n⟩ := step
    exact (normalizeRelationship_checks r).bind fun relationship =>
      (normalizeNode_checks n).bind fun node => (normalizeSteps_checks rest).andThen

theorem normalizeItems_checks (items : List Value) :
    Checks (itemIds items) (normalizeItems items) := by
  cases items with
  | nil => exact .nothing []
  | cons v rest =>
    exact (normalize_checks v).bind fun first => (normalizeItems_checks rest).andThen

theorem normalizeEntries_checks (entries : List (String × Value)) :
    Checks (entryIds entries) (normalizeEntries entries) := by
  cases entries with
  | nil => exact .nothing []
  | cons entry rest =>
    obtain ⟨key, v⟩ := entry
    exact (normalize_checks v).bind fun first => (normalizeEntries_checks rest).andThen
end

/-! ## Plain forms and identities -/

namespace Identity

def Readable (elementId : String) : Prop := ∃ identity, Reads elementId (.ok identity)

/-- The first of some element ids that cannot be read, and why. -/
def FirstFault (ids : List String) (e : NumeralError) : Prop :=
  ∃ before elementId after, ids = before ++ elementId :: after ∧ (∀ id ∈ before, Readable id) ∧
    Reads elementId (.error e)

theorem reads_iff {elementId : String} {result : Except NumeralError Identity} :
    Reads elementId result ↔ ofElementId elementId = result :=
  ⟨Reads.eq, fun h => h ▸ reads_ofElementId elementId⟩

theorem fault?_eq_some_iff {elementId : String} {e : NumeralError} :
    fault? elementId = some e ↔ Reads elementId (.error e) := by
  rw [reads_iff, fault?]
  cases ofElementId elementId <;> simp

theorem fault?_eq_none_iff {elementId : String} : fault? elementId = none ↔ Readable elementId := by
  simp only [Readable, reads_iff, fault?]
  cases ofElementId elementId <;> simp

theorem findSome?_eq_some_iff {ids : List String} {e : NumeralError} :
    ids.findSome? fault? = some e ↔ FirstFault ids e := by
  simp only [List.findSome?_eq_some_iff, fault?_eq_some_iff, fault?_eq_none_iff, FirstFault]
  constructor
  · rintro ⟨before, elementId, after, split, fails, readable⟩
    exact ⟨before, elementId, after, split, readable, fails⟩
  · rintro ⟨before, elementId, after, split, readable, fails⟩
    exact ⟨before, elementId, after, split, fails, readable⟩

theorem findSome?_eq_none_iff {ids : List String} :
    ids.findSome? fault? = none ↔ ∀ id ∈ ids, Readable id := by
  simp only [List.findSome?_eq_none_iff, fault?_eq_none_iff]

end Identity

open Identity

namespace Checks

variable {α : Type} {ids : List String} {result : Except NumeralError α}

theorem ok_iff (h : Checks ids result) : (∃ a, result = .ok a) ↔ ∀ id ∈ ids, Readable id := by
  rw [← findSome?_eq_none_iff]
  unfold Checks at h
  cases first : ids.findSome? fault? with
  | some e =>
    rw [first] at h
    simp [show result = .error e from h]
  | none =>
    rw [first] at h
    simpa using h

theorem error_iff (h : Checks ids result) (e : NumeralError) : result = .error e ↔ FirstFault ids e := by
  rw [← findSome?_eq_some_iff]
  unfold Checks at h
  cases first : ids.findSome? fault? with
  | some e =>
    rw [first] at h
    simp [show result = .error e from h]
  | none =>
    rw [first] at h
    obtain ⟨a, rfl⟩ := h
    simp

end Checks

theorem identity_of_identityTree {elementId : String} {t : Tree} (h : identityTree elementId = .ok t) :
    ∃ identity, Reads elementId (.ok identity) ∧ t = identity.tree := by
  obtain ⟨identity, own, rfl⟩ := ok_of_map h
  exact ⟨identity, reads_iff.mpr own, rfl⟩

/-- The tree of an entity has a key with the identity that an element id tells. -/
def TellsIdentity (t : Tree) (key elementId : String) : Prop :=
  ∃ identity, Reads elementId (.ok identity) ∧ t.get? key = some identity.tree

theorem PlainForm.identity_of_node {n : Node Value} {t : Tree} (h : PlainForm (.node n) t) :
    TellsIdentity t "identity" n.elementId := by
  cases h.madeOf with
  | node own each =>
    obtain ⟨identity, reads, rfl⟩ := identity_of_identityTree own
    exact ⟨identity, reads, rfl⟩

theorem PlainForm.identities_of_relationship {r : Relationship Value} {t : Tree}
    (h : PlainForm (.relationship r) t) :
    TellsIdentity t "identity" r.elementId ∧ TellsIdentity t "start" r.start ∧
      TellsIdentity t "end" r.finish := by
  cases h.madeOf with
  | relationship own first last each =>
    obtain ⟨identity, reads, rfl⟩ := identity_of_identityTree own
    obtain ⟨start, reads_start, rfl⟩ := identity_of_identityTree first
    obtain ⟨finish, reads_finish, rfl⟩ := identity_of_identityTree last
    exact ⟨⟨identity, reads, rfl⟩, ⟨start, reads_start, rfl⟩, ⟨finish, reads_finish, rfl⟩⟩

/-- When a value has a plain form, and where its entities are in that form. -/
structure Identified (v : Value) : Prop where
  formed : (∃ t, normalize v = .ok t) ↔ ∀ id ∈ v.elementIds, Readable id
  refused : ∀ e, normalize v = .error e ↔ FirstFault v.elementIds e
  node : ∀ t n, normalize v = .ok t → v.Holds (.node n) →
    ∃ u, t.Holds u ∧ normalize (.node n) = .ok u ∧ TellsIdentity u "identity" n.elementId
  relationship : ∀ t r, normalize v = .ok t → v.Holds (.relationship r) →
    ∃ u, t.Holds u ∧ normalize (.relationship r) = .ok u ∧ TellsIdentity u "identity" r.elementId ∧
      TellsIdentity u "start" r.start ∧ TellsIdentity u "end" r.finish

/-- A value of any nesting has a plain form just if all its element ids can be read, and all of its nodes
and relationships are found there under their identities. -/
theorem normalize_identified (v : Value) : Identified v where
  formed := (normalize_checks v).ok_iff
  refused := (normalize_checks v).error_iff
  node := by
    intro t n form held
    obtain ⟨u, own, holds⟩ := PlainForm.holds form held
    exact ⟨u, holds, own, own.identity_of_node⟩
  relationship := by
    intro t r form held
    obtain ⟨u, own, holds⟩ := PlainForm.holds form held
    exact ⟨u, holds, own, own.identities_of_relationship⟩

/-- A superscript is a digit without a decimal value: the node has no plain form, not even one under its
element id. -/
theorem normalize_superscript_id :
    ¬∃ t, normalize (.list [.node ⟨"4:db:\u00B2", ["Person"], []⟩]) = .ok t := by
  rintro ⟨t, form⟩
  have refused : normalize (.list [.node ⟨"4:db:\u00B2", ["Person"], []⟩]) =
    .error ⟨['\x27', '\u00B2', '\x27'], .malformed⟩ := rfl
  rw [refused] at form
  cases form

end CypherGate
