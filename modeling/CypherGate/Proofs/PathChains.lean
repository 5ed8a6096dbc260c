import CypherGate.Proofs.EntityIdentities
/-!
# Paths as chains

A path becomes a chain of segments in the order in which it was walked. Each segment goes from one node to
the next, whichever way its relationship leads, and begins where the one before it ended.
-/
namespace CypherGate

/-- The relationship leads from one of the nodes to the other. -/
def Relationship.Joins {α : Type} (r : Relationship α) (a b : Node α) : Prop :=
  r.start = a.elementId ∧ r.finish = b.elementId ∨ r.start = b.elementId ∧ r.finish = a.elementId

namespace Path

variable {α : Type}

def nodes (p : Path α) : List (Node α) := p.start :: p.steps.map Prod.snd

def relationships (p : Path α) : List (Relationship α) := p.steps.map Prod.fst

/-- Each relationship joins the nodes before and after it. -/
def Connected (p : Path α) : Prop := ∀ i a r b, p.nodes[i]? = some a → p.relationships[i]? = some r →
  p.nodes[i + 1]? = some b → r.Joins a b

end Path

/-- The plain forms of a step and of the node before it, in a segment. -/
structure SegmentOf (a : Node Value) (r : Relationship Value) (b : Node Value) (segment : Tree)
    (start relationship finish : Tree) : Prop where
  start : segment.get? "start" = some start ∧ normalize (.node a) = .ok start
  relationship : segment.get? "relationship" = some relationship ∧
    normalize (.relationship r) = .ok relationship
  finish : segment.get? "end" = some finish ∧ normalize (.node b) = .ok finish

section

variable {a : Node Value} {first : Tree} {steps : List (Relationship Value × Node Value)}
  {rest : List (Tree × Tree)}

theorem length_segments (first : Tree) (rest : List (Tree × Tree)) :
    (segments first rest).length = rest.length := by
  induction rest generalizing first with
  | nil => rfl
  | cons step rest ih => rw [segments, List.length_cons, ih, List.length_cons]

theorem lastNode_cons (first : Tree) (step : Tree × Tree) (rest : List (Tree × Tree)) :
    lastNode first (step :: rest) = lastNode step.2 rest := by
  cases rest with
  | nil => rfl
  | cons next rest =>
    rw [lastNode, lastNode, List.getLast?_cons_cons]
    cases last : (next :: rest).getLast? with
    | none => simp at last
    | some p => rfl

theorem segmentOf_segments (start : normalize (.node a) = .ok first)
    (each : List.Forall₂ PlainStep steps rest) {i : Nat} {x y : Node Value} {r : Relationship Value}
    (before : (a :: steps.map Prod.snd)[i]? = some x) (step : (steps.map Prod.fst)[i]? = some r)
    (after : (steps.map Prod.snd)[i]? = some y) :
    ∃ segment, (segments first rest)[i]? = some segment ∧ ∃ u s w, SegmentOf x r y segment u s w := by
  induction each generalizing a first i with
  | nil => cases step
  | @cons taken plain steps rest here _ ih =>
    cases i with
    | zero =>
      obtain rfl := Option.some.inj before
      obtain rfl := Option.some.inj step
      obtain rfl := Option.some.inj after
      exact ⟨_, rfl, first, plain.1, plain.2, ⟨rfl, start⟩, ⟨rfl, here.1⟩, ⟨rfl, here.2⟩⟩
    | succ i => exact ih here.2 before step after

theorem linked_segments {i : Nat} {segment next : Tree} (here : (segments first rest)[i]? = some segment)
    (there : (segments first rest)[i + 1]? = some next) : segment.get? "end" = next.get? "start" := by
  induction rest generalizing first i with
  | nil => cases here
  | cons step rest ih =>
    cases i with
    | zero =>
      obtain rfl := Option.some.inj here
      cases rest with
      | nil => cases there
      | cons step' rest =>
        obtain rfl := Option.some.inj there
        rfl
    | succ i => exact ih here there

theorem start_segments {segment : Tree} (h : (segments first rest)[0]? = some segment) :
    segment.get? "start" = some first := by
  cases rest with
  | nil => cases h
  | cons step rest =>
    obtain rfl := Option.some.inj h
    rfl

theorem end_segments {segment : Tree} (h : (segments first rest).getLast? = some segment) :
    segment.get? "end" = some (lastNode first rest) := by
  induction rest generalizing first with
  | nil => cases h
  | cons step rest ih =>
    rw [lastNode_cons]
    cases rest with
    | nil =>
      obtain rfl := Option.some.inj h
      rfl
    | cons next rest =>
      rw [segments, segments, List.getLast?_cons_cons] at h
      exact ih h

end

theorem TellsIdentity.get?_eq {t u : Tree} {key key' elementId : String}
    (h : TellsIdentity t key elementId) (k : TellsIdentity u key' elementId) :
    ∃ identity, t.get? key = some identity ∧ u.get? key' = some identity := by
  obtain ⟨identity, reads, told⟩ := h
  obtain ⟨identity', reads', told'⟩ := k
  obtain rfl : identity = identity' := Except.ok.inj (reads.eq.symm.trans reads'.eq)
  exact ⟨identity.tree, told, told'⟩

/-- A relationship tells the identities of its two nodes, in the order of the walk or against it. -/
def JoinsForms (relationship start finish : Tree) : Prop :=
  ∃ before after, start.get? "identity" = some before ∧ finish.get? "identity" = some after ∧
    (relationship.get? "start" = some before ∧ relationship.get? "end" = some after ∨
      relationship.get? "start" = some after ∧ relationship.get? "end" = some before)

theorem SegmentOf.joinsForms {a b : Node Value} {r : Relationship Value}
    {segment start relationship finish : Tree} (h : SegmentOf a r b segment start relationship finish)
    (joins : r.Joins a b) : JoinsForms relationship start finish := by
  have first := PlainForm.identity_of_node h.start.2
  have last := PlainForm.identity_of_node h.finish.2
  obtain ⟨-, from_, to_⟩ := PlainForm.identities_of_relationship h.relationship.2
  rcases joins with ⟨forward, forward'⟩ | ⟨backward, backward'⟩
  · rw [forward] at from_
    rw [forward'] at to_
    obtain ⟨before, own, told⟩ := first.get?_eq from_
    obtain ⟨after, own', told'⟩ := last.get?_eq to_
    exact ⟨before, after, own, own', .inl ⟨told, told'⟩⟩
  · rw [backward] at from_
    rw [backward'] at to_
    obtain ⟨after, own, told⟩ := last.get?_eq from_
    obtain ⟨before, own', told'⟩ := first.get?_eq to_
    exact ⟨before, after, own', own, .inr ⟨told, told'⟩⟩

/-- The plain form of a path, with its segments. -/
structure Chain (p : Path Value) (t : Tree) (segments : List Tree) : Prop where
  listed : t.get? "segments" = some (.list segments)
  length : segments.length = p.relationships.length
  segment : ∀ i a r b, p.nodes[i]? = some a → p.relationships[i]? = some r →
    p.nodes[i + 1]? = some b → ∃ segment start relationship finish, segments[i]? = some segment ∧
      SegmentOf a r b segment start relationship finish ∧ JoinsForms relationship start finish
  linked : ∀ i segment next, segments[i]? = some segment → segments[i + 1]? = some next →
    segment.get? "end" = next.get? "start"
  start : ∃ u, t.get? "start" = some u ∧ normalize (.node p.start) = .ok u
  first : ∀ segment, segments[0]? = some segment → t.get? "start" = segment.get? "start"
  last : ∀ segment, segments.getLast? = some segment → t.get? "end" = segment.get? "end"
  resting : p.relationships = [] → t.get? "start" = t.get? "end"

/-- A connected path of any length becomes a chain, if the element ids in it can be read. -/
theorem normalize_path_chain (p : Path Value) (connected : p.Connected)
    (readable : ∀ id ∈ (Value.path p).elementIds, Identity.Readable id) :
    ∃ t segments, normalize (.path p) = .ok t ∧ Chain p t segments := by
  obtain ⟨t, form⟩ := (normalize_checks (.path p)).ok_iff.mpr readable
  cases PlainForm.madeOf form with
  | @path _ first rest start each =>
    refine ⟨_, segments first rest, form, ?_⟩
    constructor
    · rfl
    · rw [length_segments, Path.relationships, List.length_map, each.length_eq]
    · intro i a r b before step after
      obtain ⟨segment, at_i, u, s, w, parts⟩ := segmentOf_segments start each before step after
      exact ⟨segment, u, s, w, at_i, parts, parts.joinsForms (connected i a r b before step after)⟩
    · intro i segment next here there
      exact linked_segments here there
    · exact ⟨first, rfl, start⟩
    · intro segment h
      exact (start_segments h).symm
    · intro segment h
      exact (end_segments h).symm
    · intro none
      obtain rfl : rest = [] := by
        rw [Path.relationships, List.map_eq_nil_iff] at none
        rw [none] at each
        exact List.forall₂_nil_left_iff.mp each
      rfl

/-- There and back again, the second relationship against its direction. -/
theorem normalize_path_chain_return :
    let here : Node Value := ⟨"4:db:1", ["Town"], []⟩
    let there : Node Value := ⟨"4:db:2", [], [("name", .str "Bree")]⟩
    let p : Path Value := ⟨here, [(⟨"5:db:7", "ROAD", "4:db:1", "4:db:2", []⟩, there),
      (⟨"5:db:8", "ROAD", "4:db:1", "4:db:2", []⟩, here)]⟩
    p.Connected ∧ (∀ id ∈ (Value.path p).elementIds, Identity.Readable id) ∧
      ∃ t segments, normalize (.path p) = .ok t ∧ Chain p t segments := by
  intro here there p
  have connected : p.Connected := by
    intro i a r b before step after
    match i with
    | 0 =>
      obtain rfl := Option.some.inj before
      obtain rfl := Option.some.inj step
      obtain rfl := Option.some.inj after
      exact .inl ⟨rfl, rfl⟩
    | 1 =>
      obtain rfl := Option.some.inj before
      obtain rfl := Option.some.inj step
      obtain rfl := Option.some.inj after
      exact .inr ⟨rfl, rfl⟩
    | i + 2 => cases step
  have readable : ∀ id ∈ (Value.path p).elementIds, Identity.Readable id :=
    (normalize_checks (.path p)).ok_iff.mp ⟨_, rfl⟩
  exact ⟨connected, readable, normalize_path_chain p connected readable⟩

end CypherGate
