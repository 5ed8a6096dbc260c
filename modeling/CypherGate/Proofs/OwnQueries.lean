import CypherGate.Request.Template
/-!
# The frames of the program's own queries

Every query of the program's own is a fixed text, but for a name between backquotes and a number of
samples. The texts are written out here once more, and a name never ends its backquotes.
-/
namespace CypherGate

namespace Identifier

theorem notMem_of_isContinuation {d : Char} (h : isContinuation d = false) {s : List Char}
    (plain : isPlain s) : d ∉ s := by
  intro hd
  cases s with
  | nil => cases hd
  | cons c rest =>
    simp only [isPlain, Bool.and_eq_true, List.all_eq_true] at plain
    have passes : isContinuation d = true := by
      rcases List.mem_cons.mp hd with rfl | hd
      · simp [isContinuation, plain.1]
      · exact plain.2 d hd
    rw [passes] at h
    cases h

theorem notMem_of_isSafe {d : Char} (h : isContinuation d = false) (line : d ≠ '\n')
    {name : String} (safe : isSafe name) : d ∉ name.toList := by
  simp only [isSafe, Bool.or_eq_true, Bool.and_eq_true, beq_iff_eq] at safe
  rcases safe with plain | ⟨last, plain⟩
  · exact notMem_of_isContinuation h plain
  · obtain ⟨start, split⟩ := List.getLast?_eq_some_iff.mp last
    rw [split, List.dropLast_concat] at plain
    rw [split]
    intro hd
    rcases List.mem_append.mp hd with hd | hd
    · exact notMem_of_isContinuation h plain hd
    · exact line (List.mem_singleton.mp hd)

theorem backquote_notMem (i : Identifier) : '\x60' ∉ i.val.toList :=
  notMem_of_isSafe (by decide) (by decide) i.property

end Identifier

/-- A text with a place for a name, a place for a number of samples, both or none. -/
structure Frame where
  head : String
  /-- What follows the name, if there is a place for one. -/
  tail : Option String
  limited : Bool

namespace Frame

def fixed (text : String) : Frame := ⟨text, none, false⟩

def named (head tail : String) : Frame := ⟨head, some tail, false⟩

def fill (frame : Frame) (name : String) (limit : Nat) : String :=
  frame.head ++
    (match frame.tail with
      | some tail => "\x60" ++ name ++ "\x60" ++ tail
      | none => "") ++
    if frame.limited then " LIMIT " ++ decimalText limit else ""

def all : List Frame := [
  fixed "CALL db.labels() YIELD label RETURN label",
  fixed "CALL db.relationshipTypes() YIELD relationshipType RETURN relationshipType",
  fixed "CALL db.propertyKeys() YIELD propertyKey RETURN propertyKey",
  fixed "RETURN 'Connection successful' AS message",
  fixed "CALL dbms.components() YIELD name, versions, edition RETURN name, versions, edition",
  fixed "MATCH (n) RETURN count(n) AS nodeCount",
  fixed "MATCH ()-[r]->() RETURN count(r) AS relCount",
  fixed "MATCH (n) RETURN count(n) AS count",
  named "MATCH (n:" ") RETURN count(n) AS count",
  fixed "MATCH ()-[r]->() RETURN count(r) AS count",
  named "MATCH ()-[r:" "]->() RETURN count(r) AS count",
  fixed "SHOW INDEXES",
  fixed "SHOW CONSTRAINTS",
  ⟨"MATCH (n) RETURN n", none, true⟩,
  ⟨"MATCH (n:", some ") RETURN n", true⟩,
  ⟨"MATCH (a)-[r:", some "]->(b) RETURN a, r, b", true⟩,
  named "MATCH (n:" (") UNWIND keys(n) AS key RETURN DISTINCT key, " ++
    "       apoc.meta.cypher.type(n[key]) AS type,        count(*) AS frequency " ++
    "ORDER BY frequency DESC, key"),
  named "MATCH ()-[r:" ("]->() UNWIND keys(r) AS key RETURN DISTINCT key, " ++
    "       apoc.meta.cypher.type(r[key]) AS type,        count(*) AS frequency " ++
    "ORDER BY frequency DESC, key"),
  named "MATCH (n:" (") UNWIND keys(n) AS key RETURN DISTINCT key, count(*) AS frequency " ++
    "ORDER BY frequency DESC, key"),
  named "MATCH ()-[r:" ("]->() UNWIND keys(r) AS key RETURN DISTINCT key, " ++
    "count(*) AS frequency ORDER BY frequency DESC, key")]

/-- A frame filled with a name without backquotes and a number of samples that may be asked for. -/
def Filled (text : String) : Prop :=
  ∃ frame ∈ all, ∃ name limit,
    '\x60' ∉ name.toList ∧ 1 ≤ limit ∧ limit ≤ 50 ∧ text = frame.fill name limit

theorem fill_fixed (text name : String) (limit : Nat) : (fixed text).fill name limit = text := by
  simp [fill, fixed]

theorem fill_named (head tail name : String) (limit : Nat) :
    (named head tail).fill name limit = head ++ ("\x60" ++ name ++ "\x60" ++ tail) := by
  simp [fill, named]

end Frame

namespace Template

def place : Template → Nat
  | .labels => 0
  | .relationshipTypes => 1
  | .propertyKeys => 2
  | .ping => 3
  | .components => 4
  | .totalNodes => 5
  | .totalRelationships => 6
  | .countNodes none => 7
  | .countNodes (some _) => 8
  | .countRelationships none => 9
  | .countRelationships (some _) => 10
  | .indexes => 11
  | .constraints => 12
  | .sampleNodes none _ => 13
  | .sampleNodes (some _) _ => 14
  | .sampleRelationships _ _ => 15
  | .typedProperties (.nodes _) => 16
  | .typedProperties (.relationships _) => 17
  | .untypedProperties (.nodes _) => 18
  | .untypedProperties (.relationships _) => 19

def kind? : Template → Option Identifier
  | .countNodes name | .countRelationships name | .sampleNodes name _ => name
  | .sampleRelationships name _ => some name
  | .typedProperties (.nodes name) | .typedProperties (.relationships name)
  | .untypedProperties (.nodes name) | .untypedProperties (.relationships name) => some name
  | _ => none

def kindText (t : Template) : String := t.kind?.elim "" Subtype.val

def limit : Template → SampleLimit
  | .sampleNodes _ limit | .sampleRelationships _ limit => limit
  | _ => SampleLimit.default

theorem backquote_notMem_kindText (t : Template) : '\x60' ∉ t.kindText.toList := by
  unfold kindText
  cases t.kind? with
  | none => decide
  | some i => exact i.backquote_notMem

theorem text_eq_fill (t : Template) :
    ∃ frame, Frame.all[t.place]? = some frame ∧ t.text = frame.fill t.kindText t.limit.val := by
  cases t with
  | countNodes name | countRelationships name =>
    cases name with
    | none => exact ⟨_, rfl, (Frame.fill_fixed _ _ _).symm⟩
    | some i =>
      refine ⟨_, rfl, ?_⟩
      rw [Frame.fill_named]
      simp only [text, ofKind, Identifier.backquoted, String.append_assoc, String.reduceAppend]
      rfl
  | sampleNodes label limit =>
    cases label with
    | none => exact ⟨_, rfl, rfl⟩
    | some i =>
      refine ⟨_, rfl, ?_⟩
      simp only [text, ofKind, Frame.fill, Identifier.backquoted, String.append_assoc]
      rfl
  | sampleRelationships i limit =>
    refine ⟨_, rfl, ?_⟩
    simp only [text, Frame.fill, Identifier.backquoted, String.append_assoc]
    rfl
  | typedProperties subject | untypedProperties subject =>
    cases subject <;>
      · refine ⟨_, rfl, ?_⟩
        rw [Frame.fill_named]
        simp only [text, Identifier.backquoted, Subject.pattern, Subject.entity,
          String.append_assoc, String.reduceAppend]
        rfl
  | _ => exact ⟨_, rfl, (Frame.fill_fixed _ _ _).symm⟩

/-- Nothing of a template is up to a caller but a name and a number of samples. -/
theorem text_filled (t : Template) : Frame.Filled t.text := by
  obtain ⟨frame, found, text⟩ := t.text_eq_fill
  exact ⟨frame, List.mem_of_getElem? found, t.kindText, t.limit.val, t.backquote_notMem_kindText,
    t.limit.property.1, t.limit.property.2, text⟩

end Template

end CypherGate
