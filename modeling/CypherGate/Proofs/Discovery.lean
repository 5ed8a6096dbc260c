import CypherGate.Proofs.Conversation
/-!
# Discovery of properties

A discovery asks for properties with their types and, if the database fails that query, once more without
them. From rows that carry the columns of the query it makes one property each, and ranks these.
-/
namespace CypherGate

open CypherGate.Action Trace Connection Request

namespace PlainRow

/-- A text as key, an integer as frequency and, where types are asked for, a type. -/
structure Carries (typed : Bool) (row : PlainRow) : Prop where
  key : ∃ name, row.lookup "key" = some (.str name)
  type : typed → (row.lookup "type").isSome
  frequency : ∃ n, row.lookup "frequency" = some (.int n)

def property (typed : Bool) (row : PlainRow) : Property where
  name := (row.lookup "key").getD .null
  type := if typed then row.lookup "type" else none
  frequency := match row.lookup "frequency" with
    | some (.int n) => n
    | _ => 0

def propertyReader : Bool → PlainRow → Except DataError Property
  | true => Property.ofTypedRow
  | false => Property.ofUntypedRow

variable {typed : Bool} {row : PlainRow} {rows : List PlainRow}

theorem propertyReader_of_carries (h : Carries typed row) :
    propertyReader typed row = .ok (property typed row) := by
  obtain ⟨name, key⟩ := h.key
  obtain ⟨n, frequency⟩ := h.frequency
  have count : countOf row "frequency" = .ok n := by
    simp [countOf, column, frequency, Except.bind, Tree.toCount]
  cases typed with
  | true =>
    obtain ⟨t, type⟩ := Option.isSome_iff_exists.mp (h.type rfl)
    simp [propertyReader, Property.ofTypedRow, column, property, key, type, frequency, count, bind,
      Except.bind, pure, Except.pure]
  | false =>
    simp [propertyReader, Property.ofUntypedRow, column, property, key, frequency, count, bind,
      Except.bind, pure, Except.pure]

theorem mapM_propertyReader (carry : ∀ row ∈ rows, Carries typed row) :
    rows.mapM (propertyReader typed) = .ok (rows.map (property typed)) := by
  induction rows with
  | nil => rfl
  | cons row rest ih =>
    obtain ⟨here, later⟩ := List.forall_mem_cons.mp carry
    rw [List.mapM_cons, propertyReader_of_carries here, ih later]
    rfl

def listed (typed : Bool) (rows : List PlainRow) : List Property :=
  (rows.map (property typed)).mergeSort Property.upTo

theorem rank_properties (carry : ∀ row ∈ rows, Carries typed row) :
    Property.rank (rows.map (property typed)) = .ok (listed typed rows) := by
  refine if_pos (List.all_eq_true.mpr fun p hp => ?_)
  obtain ⟨row, member, rfl⟩ := List.mem_map.mp hp
  obtain ⟨name, key⟩ := (carry row member).key
  simp [Property.textName?, property, key]

end PlainRow

open PlainRow

/-- The rows that a discovery goes by: those with types or, if the database failed to tell types, those
without. -/
inductive Told (db : Database) (subject : Subject) : Bool → List PlainRow → Prop
  | typed {rows : List PlainRow} (answered : rowsOf db (.typedProperties subject) = .ok rows) :
    Told db subject true rows
  | untyped {rows : List PlainRow} {cause : Fault}
    (failed : rowsOf db (.typedProperties subject) = .error (.execution cause))
    (answered : rowsOf db (.untypedProperties subject) = .ok rows) : Told db subject false rows

namespace Request

section

variable {subject : Subject} {site : Site} {link : Link} {rows : List PlainRow} {failure : Failure}

/-- What is done with the rows of either query. -/
def listing (typed : Bool) (rows : List PlainRow) : Action (List Property × Bool) := do
  let found ← ofData (rows.mapM (propertyReader typed))
  return (← ofData (Property.rank found), typed)

theorem listing_of_carries {typed : Bool} (carry : ∀ row ∈ rows, Carries typed row) :
    listing typed rows = ofExcept (.ok (listed typed rows, typed)) := by
  rw [listing, mapM_propertyReader carry]
  show (ofData (Property.rank (rows.map (property typed))) >>= fun found => pure (found, typed)) = _
  rw [rank_properties carry]
  rfl

theorem findProperties_of_typed (link : Link)
    (answered : rowsOf site.database (.typedProperties subject) = .ok rows)
    (carry : ∀ row ∈ rows, Carries true row) :
    (findProperties subject).run site link =
      ⟨.ok (listed true rows, true), link, [.sent (Template.typedProperties subject).text []]⟩ := by
  unfold findProperties
  rw [run_bind_ok (by rw [attempt_of_ok answered]), attempt_of_ok answered]
  show ((listing true rows).run site link).after _ = _
  rw [listing_of_carries carry]
  rfl

theorem findProperties_of_error (link : Link)
    (failed : rowsOf site.database (.typedProperties subject) = .error failure)
    (other : ∀ cause, failure ≠ .execution cause) :
    (findProperties subject).run site link =
      ⟨.error failure, link, [.sent (Template.typedProperties subject).text []]⟩ := by
  unfold findProperties
  rw [run_bind_error (by rw [attempt_of_error failed other]), attempt_of_error failed other]

section

variable {cause : Fault} (link : Link)
  (failed : rowsOf site.database (.typedProperties subject) = .error (.execution cause))

include failed

theorem findProperties_of_failed : ∃ record, (findProperties subject).run site link =
    ((Request.rows (.untypedProperties subject) >>= listing false).run site link).after
      [.sent (Template.typedProperties subject).text [], .logged record] := by
  obtain ⟨message, attempted⟩ := attempt_of_failedQuery link failed
  refine ⟨⟨.warning, .requests, message⟩, ?_⟩
  unfold findProperties
  rw [run_bind_ok (by rw [attempted]), attempted]
  rfl

theorem findProperties_of_untyped
    (answered : rowsOf site.database (.untypedProperties subject) = .ok rows)
    (carry : ∀ row ∈ rows, Carries false row) :
    ∃ record, (findProperties subject).run site link =
      ⟨.ok (listed false rows, false), link, [.sent (Template.typedProperties subject).text [],
        .logged record, .sent (Template.untypedProperties subject).text []]⟩ := by
  obtain ⟨record, run⟩ := findProperties_of_failed link failed
  refine ⟨record, run.trans ?_⟩
  rw [run_bind_ok (by rw [rows_run, answered]), rows_run, listing_of_carries carry]
  rfl

theorem findProperties_of_error_twice
    (again : rowsOf site.database (.untypedProperties subject) = .error failure) :
    ∃ record, (findProperties subject).run site link =
      ⟨.error failure, link, [.sent (Template.typedProperties subject).text [], .logged record,
        .sent (Template.untypedProperties subject).text []]⟩ := by
  obtain ⟨record, run⟩ := findProperties_of_failed link failed
  refine ⟨record, run.trans ?_⟩
  rw [run_bind_error (by rw [rows_run, again]), rows_run]
  rfl

end

theorem findProperties_of_told {typed : Bool} (link : Link) (told : Told site.database subject typed rows)
    (carry : ∀ row ∈ rows, Carries typed row) :
    ((findProperties subject).run site link).result = .ok (listed typed rows, typed) := by
  cases told with
  | typed answered => rw [findProperties_of_typed link answered carry]
  | untyped failed answered =>
    obtain ⟨record, run⟩ := findProperties_of_untyped link failed answered carry
    rw [run]

end

end Request

end CypherGate
