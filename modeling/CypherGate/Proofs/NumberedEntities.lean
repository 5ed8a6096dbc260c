import CypherGate.Proofs.NumberText
import CypherGate.Proofs.PathChains
/-!
# Entities with numbers

Servers end element ids in a number, alone or behind a prefix and a colon. Reading such an id undoes the
writing of its number, up to the longest numerals that are read at all. So numbers tell entities of one
prefix apart, and a relationship tells the identity of a node just if it has that node at its end.
-/
namespace CypherGate

namespace Text

variable {s : List Char} {ds : List Nat}

theorem decimalValue?_of_asciiDigit? {c : Char} {d : Nat} (digit : asciiDigit? c = some d) :
    decimalValue? c = some d := by
  rw [asciiDigit?, Option.ite_none_right_eq_some] at digit
  obtain ⟨⟨low, high⟩, value⟩ := digit
  have low : 0x30 ≤ c.toNat := low
  have high : c.toNat < 0x30 + 10 := Nat.lt_succ_of_le high
  have first : decimalZeros.find? (fun z => z ≤ c.toNat && c.toNat < z + 10) = some 0x30 :=
    List.find?_cons_of_pos (by simp [low, high])
  rw [decimalValue?, first, Option.map_some]
  exact value

namespace Spells

theorem decimals (h : Spells s ds) : s.map decimalValue? = ds.map some := by
  rw [← show s.map asciiDigit? = ds.map some from h]
  refine List.map_congr_left fun c hc => ?_
  obtain ⟨d, digit⟩ := Option.isSome_iff_exists.mp (h.isSome c hc)
  rw [digit, decimalValue?_of_asciiDigit? digit]

theorem colon_notMem (h : Spells s ds) : ':' ∉ s := by
  intro member
  have digit := h.isSome ':' member
  cases digit

end Spells

theorem length_decimal_le_iff {n k : Nat} (positive : 0 < k) :
    (decimal n).length ≤ k ↔ n < 10 ^ k := by
  induction n using decimal.induct generalizing k with
  | case1 n small =>
    rw [decimal, if_pos small]
    have larger : 10 ≤ 10 ^ k := Nat.le_pow positive
    simp only [List.length_singleton]
    omega
  | case2 n large ih =>
    rw [decimal, if_neg large, List.length_append, List.length_singleton]
    obtain ⟨k, rfl⟩ := Nat.exists_eq_succ_of_ne_zero positive.ne'
    rw [Nat.pow_succ, ← Nat.div_lt_iff_lt_mul (by decide)]
    cases k with
    | zero =>
      obtain ⟨ds, numeral⟩ := decimal_numeral (n / 10)
      have some_digit := List.length_pos_of_ne_nil numeral.nonempty
      rw [← numeral.spelled.length] at some_digit
      omega
    | succ k =>
      rw [← ih k.succ_pos]
      omega

end Text

namespace Identity

open Text

/-- The element id of a number: its decimal form, alone or behind a prefix and a colon. -/
def numberedId (front : Option String) (n : Nat) : String :=
  match front with
  | none => decimalText n
  | some front => front ++ ":" ++ decimalText n

theorem lastPart_numberedId (front : Option String) (n : Nat) :
    LastPart ':' (numberedId front n).toList (decimal n) := by
  obtain ⟨ds, numeral⟩ := decimal_numeral n
  refine ⟨numeral.spelled.colon_notMem, ?_⟩
  cases front with
  | none => exact .inl (by simp [numberedId, decimalText, signedDecimal])
  | some front => exact .inr ⟨front.toList, by simp [numberedId, decimalText, signedDecimal]⟩

/-- Whatever stands before the number, it is read unless its numeral is too long. -/
theorem ofElementId_numberedId (front : Option String) (n : Nat) :
    ofElementId (numberedId front n) =
      if n < 10 ^ maxDigits then .ok (.number n)
      else .error ⟨quoted (decimal n), .tooLong (decimal n).length⟩ := by
  obtain ⟨ds, numeral⟩ := decimal_numeral n
  have last := lastPart_numberedId front n
  have length := numeral.spelled.length
  have limit := length_decimal_le_iff (n := n) (k := maxDigits) (by decide)
  split
  next small =>
    have short : ds.length ≤ maxDigits := length ▸ limit.mpr small
    rw [(Reads.number last numeral.spelled.decimals numeral.nonempty short).eq, numeral.value]
  next large =>
    have long : maxDigits < ds.length := length ▸ Nat.not_le.mp (mt limit.mp large)
    have digits : ∀ c ∈ decimal n ++ [], isDigit c := by
      simpa using isDigit_of_decimals numeral.spelled.decimals
    rw [← List.append_nil (decimal n)] at last
    rw [(Reads.oversized last digits numeral.spelled.decimals (by simp) long).eq, List.append_nil, length]

theorem ofElementId_of_small (front : Option String) {n : Nat} (small : n < 2 ^ 63) :
    ofElementId (numberedId front n) = .ok (.number n) := by
  have short : n < 10 ^ maxDigits :=
    calc n < 2 ^ 63 := small
      _ ≤ 10 ^ 19 := by decide
      _ ≤ 10 ^ maxDigits := Nat.pow_le_pow_right (by decide) (by decide)
  rw [ofElementId_numberedId, if_pos short]

theorem ofElementId_numberedId_inj {front front' : Option String} {m n : Nat} (first : m < 2 ^ 63)
    (second : n < 2 ^ 63) :
    ofElementId (numberedId front m) = ofElementId (numberedId front' n) ↔ m = n := by
  rw [ofElementId_of_small front first, ofElementId_of_small front' second]
  simp

end Identity

open Identity

/-- What has an element id of its own. -/
inductive Entity where
  | node (node : Node Value)
  | relationship (relationship : Relationship Value)

namespace Entity

def elementId : Entity → String
  | node n => n.elementId
  | relationship r => r.elementId

def value : Entity → Value
  | node n => .node n
  | relationship r => .relationship r

def identity (e : Entity) : Except NumeralError Identity := ofElementId e.elementId

theorem tellsIdentity {e : Entity} {t : Tree} (form : PlainForm e.value t) :
    TellsIdentity t "identity" e.elementId := by
  cases e with
  | node n => exact PlainForm.identity_of_node form
  | relationship r => exact (PlainForm.identities_of_relationship form).1

end Entity

inductive Side where
  | start
  | finish
  deriving DecidableEq, Repr

/-- The key under which a plain form tells the identity of the node at an end. -/
def Side.key : Side → String
  | start => "start"
  | finish => "end"

def Relationship.nodeAt {α : Type} (r : Relationship α) : Side → String
  | .start => r.start
  | .finish => r.finish

theorem PlainForm.tellsIdentity_at {r : Relationship Value} {t : Tree}
    (form : PlainForm (.relationship r) t) (side : Side) :
    TellsIdentity t side.key (r.nodeAt side) := by
  obtain ⟨-, start, finish⟩ := form.identities_of_relationship
  cases side with
  | start => exact start
  | finish => exact finish

theorem TellsIdentity.get?_number {t : Tree} {key : String} {front : Option String} {n : Nat}
    (small : n < 2 ^ 63) (h : TellsIdentity t key (numberedId front n)) : t.get? key = some (.int n) := by
  obtain ⟨identity, reads, told⟩ := h
  obtain rfl : identity = .number n := Except.ok.inj (reads.eq.symm.trans (ofElementId_of_small front small))
  exact told

/-- How the numbers behind a prefix stand for entities: in their identities, in their plain forms and
in those of the relationships that lead to them. That relationships tell the identities of their nodes
does not even take numbers. -/
structure NumbersKept (front : Option String) : Prop where
  identity : ∀ (e : Entity) (n : Nat), n < 2 ^ 63 → e.elementId = numberedId front n →
    e.identity = .ok (.number n)
  distinct : ∀ (d e : Entity) (m n : Nat), m < 2 ^ 63 → n < 2 ^ 63 → m ≠ n →
    d.elementId = numberedId front m → e.elementId = numberedId front n → d.identity ≠ e.identity
  shown : ∀ (e : Entity) (n : Nat), n < 2 ^ 63 → e.elementId = numberedId front n →
    (∀ id ∈ e.value.elementIds, Readable id) →
      ∃ t, normalize e.value = .ok t ∧ t.get? "identity" = some (.int n)
  referred : ∀ (r : Relationship Value) (side : Side) (a : Node Value) (s : Tree),
    r.nodeAt side = a.elementId → normalize (.relationship r) = .ok s →
      ∃ identity, (Entity.node a).identity = .ok identity ∧ s.get? side.key = some identity.tree ∧
        ∀ t, normalize (.node a) = .ok t → t.get? "identity" = some identity.tree
  resolved : ∀ (r : Relationship Value) (side : Side) (a : Node Value) (m n : Nat) (s t : Tree),
    m < 2 ^ 63 → n < 2 ^ 63 → r.nodeAt side = numberedId front m → a.elementId = numberedId front n →
      normalize (.relationship r) = .ok s → normalize (.node a) = .ok t →
        (s.get? side.key = t.get? "identity" ↔ r.nodeAt side = a.elementId)

/-- Of entities whose element ids end in numbers below `2 ^ 63` behind one prefix, the identities are the
numbers, and relationships lead by these to their nodes and to no others. -/
theorem identities_keep_numbers (front : Option String) : NumbersKept front where
  identity := by
    intro e n small named
    rw [Entity.identity, named, ofElementId_of_small front small]
  distinct := by
    intro d e m n first second different named named' same
    rw [Entity.identity, Entity.identity, named, named', ofElementId_numberedId_inj first second] at same
    exact different same
  shown := by
    intro e n small named readable
    obtain ⟨t, form⟩ := (normalize_checks e.value).ok_iff.mpr readable
    have tells := Entity.tellsIdentity form
    rw [named] at tells
    exact ⟨t, form, tells.get?_number small⟩
  referred := by
    intro r side a s leads relationship
    have tells := PlainForm.tellsIdentity_at relationship side
    rw [leads] at tells
    have ⟨identity, reads, told⟩ := tells
    refine ⟨identity, reads.eq, told, fun t node => ?_⟩
    obtain ⟨shared, here, there⟩ := tells.get?_eq (PlainForm.identity_of_node node)
    rw [there, ← here, told]
  resolved := by
    intro r side a m n s t first second leads named relationship node
    have tells := PlainForm.tellsIdentity_at relationship side
    have own := PlainForm.identity_of_node node
    rw [leads] at tells
    rw [named] at own
    rw [tells.get?_number first, own.get?_number second, leads, named]
    constructor
    · intro same
      obtain rfl : m = n := by simpa using same
      rfl
    · intro same
      obtain rfl := (ofElementId_numberedId_inj first second).mp (congrArg ofElementId same)
      rfl

/-- Only what follows the last colon counts. -/
example : (normalize (.relationship ⟨"5:a:2", "ROAD", "4:a:1:7", "4:a:2:12", []⟩)).map
    (fun t => (t.get? "start", t.get? "end")) = .ok (some (.int 7), some (.int 12)) := rfl

end CypherGate
