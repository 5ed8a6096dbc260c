import Mathlib.Data.List.Forall2
import CypherGate.Proofs.AllOrNothing
import CypherGate.Proofs.Discovery
import CypherGate.Proofs.Vetting
/-!
# Listings without types

The tools for properties list them with their types. If the database fails that query, and in no other
case, they list them without types and say so in a note; any other failure, of the first query or of the
second, is the failure of the call.
-/
namespace CypherGate

open CypherGate.Action Trace Connection Request PlainRow

namespace Subject

def title : Subject → String
  | .nodes _ => "label"
  | .relationships _ => "relationshipType"

def name : Subject → String
  | .nodes label => label.val
  | .relationships type => type.val

def tool : Subject → Tool
  | .nodes _ => .nodeProperties
  | .relationships _ => .relationshipProperties

def arguments : Subject → Arguments
  | .nodes label => [("label", .str label.val)]
  | .relationships type => [("type", .str type.val)]

theorem parseName_text (name text : String) :
    Arguments.parseName name [(name, .str text)] = .ok text := by
  have given : Arguments.given [(name, .str text)] = [(name, .str text)] := rfl
  have found : Arguments.required [(name, .str text)] name Conversion.text = .ok text := by
    simp [Arguments.required, Conversion.located, Conversion.text, Except.mapError]
  simp [Arguments.parseName, given, found, Arguments.unexpected]

theorem identifier_val (role : String) (i : Identifier) : identifier role i.val = pure i := by
  have named : Identifier.ofName role i.val = .ok i := dif_pos i.property
  rw [identifier, named]
  rfl

theorem run_request (subject : Subject) (guard : Guard) :
    (subject.tool.request subject.arguments).run guard =
      (fun found => Answer.tree (propertiesTree subject.title subject.name found)) <$>
        withSession (findProperties subject) := by
  have accepted (name : String) : accept (.ok name) = pure name := rfl
  cases subject with
  | nodes label =>
    show Answer.tree <$> runNodeProperties (.str label.val) = _
    rw [runNodeProperties, parseName_text, accepted, pure_bind, identifier_val, pure_bind]
    simp only [bind_pure_comp, Functor.map_map]
    rfl
  | relationships type =>
    show Answer.tree <$> runRelationshipProperties (.str type.val) = _
    rw [runRelationshipProperties, parseName_text, accepted, pure_bind, identifier_val, pure_bind]
    simp only [bind_pure_comp, Functor.map_map]
    rfl

theorem run_request_of_connected (subject : Subject) (guard : Guard) {site : Site} {link : Link}
    {driver : Nat} (connected : (connect.run site link).result = .ok driver) :
    ((subject.tool.request subject.arguments).run guard).run site link =
      let body := (findProperties subject).run site (connect.run site link).link
      ⟨(fun found => Answer.tree (propertiesTree subject.title subject.name found)) <$> body.result,
        body.link, (connect.run site link).events ++
          .sessionOpened driver site.endpoint.database :: (body.events ++ [.sessionClosed])⟩ := by
  rw [run_request, run_map, withSession_of_ok _ connected]

end Subject

structure Tells (typed : Bool) (row : PlainRow) (item : Tree) : Prop where
  name : item.get? "property" = row.lookup "key"
  type : item.get? "type" = if typed then row.lookup "type" else none
  frequency : item.get? "frequency" = row.lookup "frequency"

/-- Each row has its item. The types of all of them are there, or a note that they are not. -/
structure Listing (typed : Bool) (rows : List PlainRow) (t : Tree) : Prop where
  note : t.get? "note" = if typed then none else some (.str untypedNote)
  items : ∃ items order, t.get? "properties" = some (.list items) ∧ order.Perm rows ∧
    List.Forall₂ (Tells typed) order items ∧ ∀ item ∈ items, (item.get? "type").isSome = typed

section

variable {typed : Bool} {row : PlainRow} {rows : List PlainRow}

theorem get?_tree (p : Property) : p.tree.get? "property" = some p.name ∧
    p.tree.get? "type" = p.type ∧ p.tree.get? "frequency" = some (.int p.frequency) := by
  cases h : p.type <;> simp [Property.tree, Tree.get?, List.lookup_cons, h]

theorem tells_property (h : Carries typed row) : Tells typed row (property typed row).tree := by
  obtain ⟨name, type, frequency⟩ := get?_tree (property typed row)
  obtain ⟨text, key⟩ := h.key
  obtain ⟨n, count⟩ := h.frequency
  refine ⟨?_, type, ?_⟩
  · rw [name, property, key, Option.getD_some]
  · rw [frequency, property, count]

theorem isSome_type_property (h : Carries typed row) :
    ((property typed row).tree.get? "type").isSome = typed := by
  rw [(get?_tree _).2.1]
  cases typed with
  | true => exact h.type rfl
  | false => rfl

theorem listed_eq_map (typed : Bool) (rows : List PlainRow) :
    ∃ order : List PlainRow, order.Perm rows ∧ listed typed rows = order.map (property typed) := by
  let before (r s : PlainRow) : Bool := (property typed r).upTo (property typed s)
  refine ⟨rows.mergeSort before, List.mergeSort_perm rows before, ?_⟩
  exact (List.map_mergeSort (r := before) (f := property typed) fun _ _ _ _ => rfl).symm

theorem get?_propertiesTree (subject : Subject) (found : List Property) (typed : Bool) :
    let t := propertiesTree subject.title subject.name (found, typed)
    t.get? "properties" = some (.list (found.map Property.tree)) ∧
      t.get? "note" = if typed then none else some (.str untypedNote) := by
  cases subject <;> cases typed <;> exact ⟨rfl, rfl⟩

theorem listing_propertiesTree (subject : Subject) (carry : ∀ row ∈ rows, Carries typed row) :
    Listing typed rows (propertiesTree subject.title subject.name (listed typed rows, typed)) := by
  obtain ⟨properties, note⟩ := get?_propertiesTree subject (listed typed rows) typed
  obtain ⟨order, perm, ranked⟩ := listed_eq_map typed rows
  have carry : ∀ row ∈ order, Carries typed row := fun row member => carry row (perm.mem_iff.mp member)
  refine ⟨note, _, order, properties, perm, ?_⟩
  rw [ranked, List.map_map]
  constructor
  · rw [List.forall₂_map_right_iff, List.forall₂_same]
    exact fun row member => tells_property (carry row member)
  · intro item listed
    obtain ⟨row, member, rfl⟩ := List.mem_map.mp listed
    exact isSome_type_property (carry row member)

end

/-! ## When a discovery degrades -/

/-- A query fails as one that the database failed just if it met a fault of the server or of the client
library, the loss of the server apart. -/
theorem rowsOf_eq_execution_iff {db : Database} {template : Template} {cause : Fault} :
    rowsOf db template = .error (.execution cause) ↔
      db.fault? template.query = some cause ∧ cause.ofDatabase ∧
        ∀ kind text, cause ≠ .service kind text := by
  cases met : db.fault? template.query with
  | none =>
    simp only [rowsOf, replyTo, met, bind, Except.bind]
    cases (db.reply template.query.1 template.query.2).rows.mapM normalizeRow <;>
      simp [Except.mapError]
  | some fault =>
    simp only [rowsOf, replyTo, met, bind, Except.bind]
    cases fault <;> cases cause <;> simp [queryFailure, Fault.ofDatabase]

/-- What comes of the properties of a subject, told from what comes of the two queries for them. -/
structure Degrades (db : Database) (subject : Subject) (asked : List Query)
    (result : Except Failure Answer) : Prop where
  failed_iff : ∀ cause, rowsOf db (.typedProperties subject) = .error (.execution cause) ↔
    db.fault? (Template.typedProperties subject).query = some cause ∧ cause.ofDatabase ∧
      ∀ kind text, cause ≠ .service kind text
  typed : ∀ rows, rowsOf db (.typedProperties subject) = .ok rows →
    asked = [(Template.typedProperties subject).query] ∧
      ∃ t, result = .ok (.tree t) ∧ Listing true rows t
  failed : ∀ cause, rowsOf db (.typedProperties subject) = .error (.execution cause) →
    asked = [(Template.typedProperties subject).query, (Template.untypedProperties subject).query] ∧
      (∀ rows, rowsOf db (.untypedProperties subject) = .ok rows →
        ∃ t, result = .ok (.tree t) ∧ Listing false rows t) ∧
      ∀ failure, rowsOf db (.untypedProperties subject) = .error failure → result = .error failure
  passed_on : ∀ failure, rowsOf db (.typedProperties subject) = .error failure →
    (∀ cause, failure ≠ .execution cause) →
    asked = [(Template.typedProperties subject).query] ∧ result = .error failure

theorem Degrades.noted_iff {db : Database} {subject : Subject} {asked : List Query}
    {result : Except Failure Answer} (h : Degrades db subject asked result) :
    (∃ t, result = .ok (.tree t) ∧ (t.get? "note").isSome) ↔
      (∃ cause, rowsOf db (.typedProperties subject) = .error (.execution cause)) ∧
        ∃ rows, rowsOf db (.untypedProperties subject) = .ok rows := by
  constructor
  · rintro ⟨t, rfl, noted⟩
    cases typed : rowsOf db (.typedProperties subject) with
    | ok rows =>
      obtain ⟨-, t', same, listing⟩ := h.typed rows typed
      cases same
      simp [listing.note] at noted
    | error failure =>
      by_cases execution : ∃ cause, failure = .execution cause
      · obtain ⟨cause, rfl⟩ := execution
        refine ⟨⟨cause, rfl⟩, ?_⟩
        obtain ⟨-, -, fails⟩ := h.failed cause typed
        cases untyped : rowsOf db (.untypedProperties subject) with
        | ok rows => exact ⟨rows, rfl⟩
        | error failure => cases fails failure untyped
      · have other : ∀ cause, failure ≠ .execution cause := fun cause same => execution ⟨cause, same⟩
        cases (h.passed_on failure typed other).2
  · rintro ⟨⟨cause, failed⟩, rows, answered⟩
    obtain ⟨-, degraded, -⟩ := h.failed cause failed
    obtain ⟨t, told, listing⟩ := degraded rows answered
    exact ⟨t, told, by simp [listing.note]⟩

namespace Subject

theorem findProperties_degrades (subject : Subject) (site : Site) (link : Link)
    (typedRows : ∀ rows, rowsOf site.database (.typedProperties subject) = .ok rows →
      ∀ row ∈ rows, Carries true row)
    (untypedRows : ∀ rows, rowsOf site.database (.untypedProperties subject) = .ok rows →
      ∀ row ∈ rows, Carries false row) :
    let o := (findProperties subject).run site link
    Degrades site.database subject (sent o.events)
      ((fun found => Answer.tree (propertiesTree subject.title subject.name found)) <$> o.result) := by
  intro o
  constructor
  · exact fun _ => rowsOf_eq_execution_iff
  · intro rows answered
    have run : o = _ := findProperties_of_typed link answered (typedRows rows answered)
    rw [run]
    exact ⟨rfl, _, rfl, listing_propertiesTree subject (typedRows rows answered)⟩
  · intro cause failed
    cases untyped : rowsOf site.database (.untypedProperties subject) with
    | ok rows =>
      have carry := untypedRows rows untyped
      obtain ⟨record, run⟩ := findProperties_of_untyped link failed untyped carry
      rw [show o = _ from run]
      refine ⟨rfl, fun rows' same => ?_, nofun⟩
      obtain rfl := Except.ok.inj same
      exact ⟨_, rfl, listing_propertiesTree subject carry⟩
    | error failure =>
      obtain ⟨record, run⟩ := findProperties_of_error_twice link failed untyped
      rw [show o = _ from run]
      refine ⟨rfl, nofun, fun failure' same => ?_⟩
      cases same
      rfl
  · intro failure failed other
    have run : o = _ := findProperties_of_error link failed other
    rw [run]
    exact ⟨rfl, rfl⟩

/-- With a driver at hand the properties of a subject are asked for in one session. The listing is without
types, and has the note on it, just if the database failed the query for types. -/
theorem call_degrades (guard : Guard) (subject : Subject) (site : Site) (link : Link) {driver : Nat}
    (connected : (connect.run site link).result = .ok driver)
    (typedRows : ∀ rows, rowsOf site.database (.typedProperties subject) = .ok rows →
      ∀ row ∈ rows, Carries true row)
    (untypedRows : ∀ rows, rowsOf site.database (.untypedProperties subject) = .ok rows →
      ∀ row ∈ rows, Carries false row) :
    let inner := ((subject.tool.request subject.arguments).run guard).run site link
    let o := (subject.tool.call guard subject.arguments).run site link
    o.result = Tool.reply inner.result ∧ OneSession site.endpoint.database o.events ∧
      Degrades site.database subject (sent o.events) inner.result ∧
      ((∃ t, inner.result = .ok (.tree t) ∧ (t.get? "note").isSome) ↔
        (∃ cause, rowsOf site.database (.typedProperties subject) = .error (.execution cause)) ∧
          ∃ rows, rowsOf site.database (.untypedProperties subject) = .ok rows) := by
  intro inner o
  obtain ⟨logs, unseen, call⟩ := Tool.call_run guard subject.tool subject.arguments site link
  let body := (findProperties subject).run site (connect.run site link).link
  have request : inner = _ := subject.run_request_of_connected guard connected
  have events : o.events = (connect.run site link).events ++
      .sessionOpened driver site.endpoint.database :: (body.events ++ .sessionClosed :: logs) := by
    rw [show o.events = inner.events ++ logs from congrArg Outcome.events call, request]
    simp [body]
  have asked : sent o.events = sent body.events := by
    rw [events]
    simp [(connect_idle site link).sent_eq, unseen.idle.sent_eq, Event.query?]
  have talk := (findProperties_follows subject site (connect.run site link).link).talk
  have degrades := findProperties_degrades subject site (connect.run site link).link typedRows untypedRows
  refine ⟨congrArg Outcome.result call, ?_, ?_⟩
  · exact ⟨_, driver, body.events, logs, events, connect_idle site link, talk, unseen⟩
  · rw [asked, request]
    exact ⟨degrades, degrades.noted_iff⟩

def person : Subject := .nodes ⟨"Person", by decide⟩

def nameRow : PlainRow := [("key", .str "name"), ("frequency", .int 3)]

/-- A server with some rows about persons, which may lack the function that tells types. -/
def personServer (typed : Bool) (rows : List PlainRow) : Site :=
  let reply (query : String) : Reply :=
    if typed = false ∧ query = (Template.typedProperties person).text then
      ⟨[], none, some (.run, .server .client "Unknown function")⟩
    else ⟨rows.map Value.ofEntries, none, none⟩
  { Step.emptyServer with
    database := { Step.emptyServer.database with reply := fun query _ => reply query } }

theorem personServer_failed (rows : List PlainRow) :
    rowsOf (personServer false rows).database (.typedProperties person) =
      .error (.execution (.server .client "Unknown function")) := by
  simp only [rowsOf, replyTo, Database.fault?, personServer, Template.query, and_self, if_true]
  rfl

theorem rowsOf_of_reply {db : Database} {template : Template} {rows : List PlainRow}
    (reply : db.reply template.text [] = ⟨rows.map Value.ofEntries, none, none⟩)
    (normal : (rows.map Value.ofEntries).mapM normalizeRow = .ok rows) :
    rowsOf db template = .ok rows := by
  simp only [rowsOf, replyTo, Database.fault?, Template.query, reply, Option.map_none, bind, Except.bind]
  rw [normal]
  rfl

theorem personServer_untyped {typed : Bool} {rows : List PlainRow}
    (normal : (rows.map Value.ofEntries).mapM normalizeRow = .ok rows) :
    rowsOf (personServer typed rows).database (.untypedProperties person) = .ok rows := by
  have other : (Template.untypedProperties person).text ≠ (Template.typedProperties person).text := by
    decide +kernel
  exact rowsOf_of_reply (if_neg fun given => other given.2) normal

theorem personServer_typed {rows : List PlainRow}
    (normal : (rows.map Value.ofEntries).mapM normalizeRow = .ok rows) :
    rowsOf (personServer true rows).database (.typedProperties person) = .ok rows :=
  rowsOf_of_reply (by simp [personServer]) normal

def untypedServer : Site := personServer false [nameRow]

theorem call_degrades_untypedServer :
    let o := (person.tool.call Guard.Policy.standard person.arguments).run untypedServer Link.initial
    ((connect.run untypedServer Link.initial).result = .ok 0 ∧
      (∀ rows, rowsOf untypedServer.database (.typedProperties person) = .ok rows →
        ∀ row ∈ rows, Carries true row) ∧
      ∀ rows, rowsOf untypedServer.database (.untypedProperties person) = .ok rows →
        ∀ row ∈ rows, Carries false row) ∧
    sent o.events =
      [(Template.typedProperties person).query, (Template.untypedProperties person).query] ∧
    ∃ t text, t.json? = some text ∧ o.result = .ok text ∧ Listing false [nameRow] t := by
  intro o
  have failed := personServer_failed [nameRow]
  have answered : rowsOf untypedServer.database (.untypedProperties person) = .ok [nameRow] :=
    personServer_untyped rfl
  have typedRows : ∀ rows, rowsOf untypedServer.database (.typedProperties person) = .ok rows →
      ∀ row ∈ rows, Carries true row := by
    rw [untypedServer, failed]
    nofun
  have untypedRows : ∀ rows, rowsOf untypedServer.database (.untypedProperties person) = .ok rows →
      ∀ row ∈ rows, Carries false row := by
    rw [answered]
    intro rows same row member
    cases same
    obtain rfl := List.mem_singleton.mp member
    exact ⟨⟨"name", rfl⟩, nofun, ⟨3, rfl⟩⟩
  have carry := untypedRows _ answered
  obtain ⟨told, -, degrades, -⟩ :=
    call_degrades Guard.Policy.standard person untypedServer Link.initial rfl typedRows untypedRows
  obtain ⟨asked, -, -⟩ := degrades.failed _ failed
  have alone : listed false [nameRow] = [property false nameRow] := List.mergeSort_singleton _
  let t := propertiesTree person.title person.name ([property false nameRow], false)
  have listing : Listing false [nameRow] t := by
    have listing := listing_propertiesTree person carry
    rwa [alone] at listing
  have found : ((findProperties person).run untypedServer ⟨some 0, 1⟩).result =
      .ok ([property false nameRow], false) := by
    rw [← alone]
    exact findProperties_of_told _ (.untyped failed answered) carry
  have result : o.result = Tool.reply (.ok (.tree t)) := by
    rw [told, person.run_request_of_connected _ rfl]
    exact congrArg (fun found => Tool.reply (_ <$> found)) found
  have written : t.json? = some _ := if_pos (by decide)
  refine ⟨⟨rfl, typedRows, untypedRows⟩, asked, t, _, written, ?_, listing⟩
  rw [result, Tool.reply, Answer.render, written]
  rfl

end Subject

end CypherGate
