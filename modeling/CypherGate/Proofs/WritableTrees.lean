import CypherGate.Json.Writer
import CypherGate.Proofs.ElementIds
import CypherGate.Proofs.NumberText
import CypherGate.Proofs.PlainTrees
/-!
# Trees that can be written

A tree has a text just if its integers are short and its scalars can be described. Taking the plain form of
a value changes nothing about that, for the numbers that are read from element ids are short.
-/
namespace CypherGate

namespace Text

theorem fits_iff {digits n : Nat} : fits digits n ↔ n < 10 ^ digits := by
  induction digits generalizing n with
  | zero => simp [fits]
  | succ digits ih =>
    have some_number : 0 < 10 ^ digits * 10 := by positivity
    rw [fits, Bool.or_eq_true, ih, beq_iff_eq, Nat.pow_succ, Nat.div_lt_iff_lt_mul (by decide)]
    omega

/-- Of no more digits than a numeral may have. -/
def Short (n : Int) : Prop := n.natAbs < 10 ^ maxDigits

theorem isWritable_iff {n : Int} : isWritable n ↔ Short n := fits_iff

theorem digitsValue_lt {ds : List Nat} (digits : ∀ d ∈ ds, d < 10) :
    digitsValue ds < 10 ^ ds.length := by
  induction ds using List.reverseRecOn with
  | nil => simp [digitsValue]
  | append_singleton ds d ih =>
    obtain ⟨front, last⟩ := List.forall_mem_append.mp digits
    have smaller := ih front
    have digit := last d List.mem_cons_self
    rw [digitsValue_append, digitsValue_singleton, List.length_append, List.length_singleton, pow_one,
      Nat.pow_succ]
    omega

theorem decimalValue?_lt {c : Char} {d : Nat} (h : decimalValue? c = some d) : d < 10 := by
  rw [decimalValue?, Option.map_eq_some_iff] at h
  obtain ⟨start, found, rfl⟩ := h
  have between := List.find?_some found
  rw [Bool.and_eq_true, decide_eq_true_iff, decide_eq_true_iff] at between
  omega

theorem short_digitsValue {ds : List Nat} (digits : ∀ d ∈ ds, d < 10) (short : ds.length ≤ maxDigits)
    (negative : Bool) : Short (applySign negative (digitsValue ds)) := by
  have value := digitsValue_lt digits
  have room : 10 ^ ds.length ≤ 10 ^ maxDigits := Nat.pow_le_pow_right (by decide) short
  unfold Short
  cases negative with
  | false =>
    rw [applySign, if_neg Bool.false_ne_true, Int.natAbs_natCast]
    omega
  | true =>
    rw [applySign, if_pos rfl, Int.natAbs_neg, Int.natAbs_natCast]
    omega

end Text

open Text

theorem short_of_identityTree {elementId : String} {n : Int} (h : identityTree elementId = .ok (.int n)) :
    Short n := by
  obtain ⟨identity, own, same⟩ := ok_of_map h
  have reads := Identity.reads_ofElementId elementId
  rw [own] at reads
  cases reads with
  | @number part ds last decimals nonempty short =>
    obtain rfl := Tree.int.inj same
    refine short_digitsValue (fun d hd => ?_) short false
    have member : some d ∈ part.map decimalValue? := decimals ▸ List.mem_map_of_mem hd
    obtain ⟨c, -, value⟩ := List.mem_map.mp member
    exact decimalValue?_lt value
  | name last other => cases same

/-- All integers in the tree are in the range, and all scalars in it can be described. -/
structure Tree.Within (range : Int → Prop) (t : Tree) : Prop where
  integers : ∀ n, t.Holds (.int n) → range n
  scalars : ∀ s, t.Holds (.other s) → s.text?.isSome

/-- All integers in the value are in the range, and all scalars in it can be described. -/
structure Value.Within (range : Int → Prop) (v : Value) : Prop where
  integers : ∀ w, v.Holds w → ∀ n ∈ w.integers, range n
  scalars : ∀ s, v.Holds (.other s) → s.text?.isSome

abbrev Tree.Writable (t : Tree) : Prop := t.Within Short

abbrev Value.Writable (v : Value) : Prop := v.Within Short

section

variable {range wider : Int → Prop}

theorem Tree.Within.mono {t : Tree} (h : t.Within range) (k : ∀ n, range n → wider n) : t.Within wider :=
  ⟨fun n holds => k n (h.integers n holds), h.scalars⟩

theorem Value.Within.mono {v : Value} (h : v.Within range) (k : ∀ n, range n → wider n) :
    v.Within wider :=
  ⟨fun w holds n own => k n (h.integers w holds n own), h.scalars⟩

theorem Value.within_int {n : Int} (h : range n) : (Value.int n).Within range := by
  have alone : ∀ w, (Value.int n).Holds w → w = .int n := by
    intro w holds
    rcases Relation.ReflTransGen.cases_head holds with same | ⟨v, first, -⟩
    · exact same.symm
    · cases first
  refine ⟨fun w holds m own => ?_, fun s holds => nomatch alone _ holds⟩
  obtain rfl := alone w holds
  obtain rfl := List.mem_singleton.mp own
  exact h

theorem Value.within_map {entries : List (String × Value)} (each : ∀ e ∈ entries, e.2.Within range) :
    (Value.map entries).Within range := by
  have part : ∀ w ∈ (Value.map entries).parts, w.Within range := by
    intro w hw
    obtain ⟨e, member, rfl⟩ := List.mem_map.mp hw
    exact each e (mem_of_mem_collapse e member)
  refine ⟨fun w holds => ?_, fun s holds => ?_⟩
  · rcases Relation.ReflTransGen.cases_head holds with rfl | ⟨v, first, rest⟩
    · nofun
    · exact (part v first).integers w rest
  · rcases Relation.ReflTransGen.cases_head holds with same | ⟨v, first, rest⟩
    · cases same
    · exact (part v first).scalars s rest

theorem Value.Within.part {v w : Value} (h : v.Within range) (part : w ∈ v.parts) : w.Within range :=
  ⟨fun u holds => h.integers u (.head part holds), fun s holds => h.scalars s (.head part holds)⟩

namespace Tree

theorem Within.part {t u : Tree} (h : t.Within range) (part : u ∈ t.parts) : u.Within range :=
  ⟨fun n holds => h.integers n (.head part holds), fun s holds => h.scalars s (.head part holds)⟩

theorem closed_within : Closed (Within range) := by
  intro t int other each
  constructor
  · intro n holds
    rcases holds_iff.mp holds with rfl | ⟨u, part, holds⟩
    · exact absurd rfl (int n)
    · exact (each u part).integers n holds
  · intro s holds
    rcases holds_iff.mp holds with rfl | ⟨u, part, holds⟩
    · exact absurd rfl (other s)
    · exact (each u part).scalars s holds

@[simp] theorem within_null : Tree.null.Within range := closed_within _ nofun nofun nofun

@[simp] theorem within_str {s : String} : (Tree.str s).Within range := closed_within.str s

@[simp] theorem within_int {n : Int} : (Tree.int n).Within range ↔ range n := by
  refine ⟨fun h => h.integers n .refl, fun h => ⟨fun m holds => ?_, fun s holds => ?_⟩⟩
  · obtain rfl := Tree.int.inj ((holds_of_leaf rfl).mp holds)
    exact h
  · cases (holds_of_leaf rfl).mp holds

@[simp] theorem within_other {s : Scalar} : (Tree.other s).Within range ↔ s.text?.isSome := by
  refine ⟨fun h => h.scalars s .refl, fun h => ⟨fun n holds => ?_, fun s' holds => ?_⟩⟩
  · cases (holds_of_leaf rfl).mp holds
  · obtain rfl := Tree.other.inj ((holds_of_leaf rfl).mp holds)
    exact h

@[simp] theorem within_list {ts : List Tree} : (Tree.list ts).Within range ↔ ∀ t ∈ ts, t.Within range :=
  ⟨fun h _ part => h.part part, closed_within.list⟩

@[simp] theorem within_map {es : List (String × Tree)} :
    (Tree.map es).Within range ↔ ∀ e ∈ es, e.2.Within range :=
  ⟨fun h _ member => h.part (List.mem_map_of_mem member),
    fun h => closed_within.map (List.forall_mem_map.mpr h)⟩

mutual
theorem isWritable_iff (t : Tree) : t.isWritable ↔ t.Writable := by
  cases t with
  | null | bool b | float x | str s => exact ⟨fun _ => closed_within _ nofun nofun nofun, fun _ => rfl⟩
  | int n =>
    rw [isWritable, Text.isWritable_iff]
    exact within_int.symm
  | other s =>
    rw [isWritable]
    exact within_other.symm
  | list items =>
    rw [isWritable, itemsWritable_iff items]
    exact within_list.symm
  | map entries =>
    rw [isWritable, entriesWritable_iff entries]
    exact within_map.symm

theorem itemsWritable_iff (items : List Tree) : itemsWritable items ↔ ∀ t ∈ items, t.Writable := by
  cases items with
  | nil => simp [itemsWritable]
  | cons t rest =>
    rw [itemsWritable, Bool.and_eq_true, isWritable_iff t, itemsWritable_iff rest, List.forall_mem_cons]

theorem entriesWritable_iff (entries : List (String × Tree)) :
    entriesWritable entries ↔ ∀ e ∈ entries, e.2.Writable := by
  cases entries with
  | nil => simp [entriesWritable]
  | cons entry rest =>
    obtain ⟨key, t⟩ := entry
    rw [entriesWritable, Bool.and_eq_true, isWritable_iff t, entriesWritable_iff rest,
      List.forall_mem_cons]
end

theorem json?_eq_some_iff {t : Tree} {text : String} :
    t.json? = some text ↔ t.Writable ∧ String.ofList (Json.write 0 t) = text := by
  rw [json?, Option.ite_none_right_eq_some, isWritable_iff, Option.some.injEq]

theorem exists_json?_iff {t : Tree} : (∃ text, t.json? = some text) ↔ t.Writable := by
  simp [json?_eq_some_iff]

theorem json?_eq_none_iff {t : Tree} : t.json? = none ↔ ¬t.Writable := by
  rw [← exists_json?_iff, Option.eq_none_iff_forall_ne_some, not_exists]

theorem toList_of_json? {t : Tree} {text : String} (h : t.json? = some text) :
    text.toList = Json.write 0 t := by
  obtain ⟨-, rfl⟩ := json?_eq_some_iff.mp h
  exact String.toList_ofList

end Tree

end

theorem PlainForm.writable {v : Value} {t : Tree} (h : PlainForm v t) (writable : v.Writable) :
    t.Writable := by
  induction v using Value.parts_induction generalizing t with
  | step v ih =>
    refine h.madeOf.closed Tree.closed_within ?_ ?_ ?_ ?_
    · exact fun w part u form => ih w part form (writable.part part)
    · exact fun n own => Tree.within_int.mpr (writable.integers v .refl n own)
    · rintro s rfl
      exact Tree.within_other.mpr (writable.scalars s .refl)
    · intro elementId u own
      cases u with
      | int n => exact Tree.within_int.mpr (short_of_identityTree own)
      | str s => exact Tree.closed_within.str s
      | null | bool b | float x | other s | list items | map entries =>
        obtain ⟨identity, -, same⟩ := ok_of_map own
        cases identity <;> cases same

theorem PlainForm.writable_iff {v : Value} {t : Tree} (h : PlainForm v t) : t.Writable ↔ v.Writable := by
  refine ⟨fun writable => ⟨fun w holds n own => ?_, fun s holds => ?_⟩, h.writable⟩
  · obtain ⟨u, form, holds⟩ := h.holds holds
    have short : ∀ m, u.Holds (.int m) → Short m := fun m inner => writable.integers m (holds.trans inner)
    cases form.madeOf with
    | int m =>
      obtain rfl := List.mem_singleton.mp own
      exact short n .refl
    | duration months days seconds nanoseconds =>
      exact short n (.part (List.mem_map_of_mem own))
    | point srid coordinates =>
      obtain rfl := List.mem_singleton.mp own
      exact short n (.part List.mem_cons_self)
    | null | bool b | float x | str s | other s | list each | tuple each | map each | node own' each
    | relationship own' first last each | path start each => cases own
  · obtain ⟨u, form, holds⟩ := h.holds holds
    obtain rfl := Except.ok.inj form
    exact writable.scalars s holds

end CypherGate
