import CypherGate.Proofs.Conversation
import CypherGate.Proofs.Descriptions
import CypherGate.Proofs.SortedItems
import CypherGate.Proofs.WireRange
import CypherGate.Tool
/-!
# What requests come to

A request comes to a map, but for the test of the connection, which comes to one fixed text. Whether the map
can be written is up to the database. With a database behind the wire protocol every payload can be written.
-/
namespace CypherGate

open CypherGate.Action Connection Text

variable {α β : Type}

/-- On this site, all values that the action can come to are of a kind. -/
def Action.Yields (site : Site) (kind : α → Prop) (action : Action α) : Prop :=
  ∀ link a, (action.run site link).result = .ok a → kind a

namespace Action.Yields

variable {here : Site} {kind : α → Prop} {kind' : β → Prop}

theorem pure {a : α} (h : kind a) : Yields here kind (Pure.pure a) := by
  intro link b hb
  obtain rfl : a = b := Except.ok.inj hb
  exact h

theorem fail (failure : Failure) : Yields here kind (fail failure) := by
  intro link a ha
  cases ha

theorem ofExcept {result : Except Failure α} (h : ∀ a, result = .ok a → kind a) :
    Yields here kind (ofExcept result) :=
  fun _ => h

theorem bind {action : Action β} {next : β → Action α} (h : Yields here kind' action)
    (k : ∀ b, kind' b → Yields here kind (next b)) : Yields here kind (action >>= next) := by
  intro link a ha
  cases r : (action.run here link).result with
  | ok b =>
    rw [run_bind_ok r] at ha
    exact k b (h link b r) _ a ha
  | error failure =>
    rw [run_bind_error r] at ha
    cases ha

theorem any (action : Action α) : Yields here (fun _ => True) action := fun _ _ _ => trivial

theorem map {f : β → α} {action : Action β} (h : Yields here kind' action)
    (k : ∀ b, kind' b → kind (f b)) : Yields here kind (f <$> action) :=
  h.bind fun b hb => pure (k b hb)

theorem recover {action : Action α} {handler : Failure → Action α} (h : Yields here kind action)
    (k : ∀ failure, Yields here kind (handler failure)) : Yields here kind (action.recover handler) := by
  intro link a ha
  cases r : (action.run here link).result with
  | ok b =>
    rw [recover_ok r] at ha
    exact h link a ha
  | error failure =>
    rw [recover_error r] at ha
    exact k failure _ a ha

theorem withSession {body : Action α} (h : Yields here kind body) :
    Yields here kind (withSession body) :=
  (any _).bind fun _ _ => (any _).bind fun _ _ => (any _).bind fun _ _ => h

end Action.Yields

theorem forall₂_of_mapM {ε : Type} {f : α → Except ε β} {xs : List α} {ys : List β}
    (h : xs.mapM f = .ok ys) : List.Forall₂ (fun x y => f x = .ok y) xs ys := by
  induction xs generalizing ys with
  | nil =>
    obtain rfl := Except.ok.inj h
    exact .nil
  | cons x rest ih =>
    rw [List.mapM_cons] at h
    obtain ⟨y, first, h⟩ := ok_of_bind h
    obtain ⟨others, later, h⟩ := ok_of_bind h
    obtain rfl := Except.ok.inj h
    exact .cons first (ih later)

namespace PlainRow

def Writable (row : PlainRow) : Prop := ∀ e ∈ row, e.2.Writable

variable {row : PlainRow} {name : String}

theorem Writable.lookup (h : Writable row) {t : Tree} (found : row.lookup name = some t) : t.Writable :=
  h _ (mem_of_lookup_eq_some found)

theorem Writable.column (h : Writable row) {t : Tree} (found : column row name = .ok t) : t.Writable := by
  unfold PlainRow.column at found
  split at found
  next t' known =>
    obtain rfl := Except.ok.inj found
    exact h.lookup known
  next => cases found

theorem Writable.countOf (h : Writable row) {n : Int} (found : countOf row name = .ok n) : Short n := by
  obtain ⟨t, known, count⟩ := ok_of_bind found
  exact Tree.toCount_short (h.column known) count

end PlainRow

theorem normalizeRow_writable {row : Row} {es : PlainRow} (h : normalizeRow row = .ok es)
    (writable : ∀ cell ∈ row, cell.2.Writable) : PlainRow.Writable es := by
  obtain ⟨plain, each, rfl⟩ := ok_of_map h
  intro e he
  obtain ⟨cell, member, -, form⟩ := exists_of_mem_right (plainEntry_collapse (entries_madeOf each)) he
  exact form.writable (writable cell (mem_of_mem_collapse cell member))

theorem Summary.tree_writable {summary : Option Summary} (h : ∀ s ∈ summary, s.OnWire) :
    (tree summary).Writable := by
  cases summary with
  | none => simp [tree, counterTree]
  | some s =>
    obtain ⟨available, consumed, counters⟩ := h s rfl
    have listed : (counterTree (some s)).Writable := by
      unfold counterTree
      cases known : s.counters with
      | none => simp [known]
      | some names =>
        have counter : ∀ name, ((names.lookup name).getD (.int 0)).Writable := by
          intro name
          cases found : names.lookup name with
          | none => exact Tree.within_int.mpr (IsWord.short (by decide))
          | some t => exact (counters names known _ (mem_of_lookup_eq_some found)).writable
        simp [known, counter]
    simp [tree, available.writable, consumed.writable, listed]

namespace Request

variable {here : Site}

/-- As far as the site's database keeps to the wire protocol. -/
def Given (here : Site) (P : Prop) : Prop := here.database.OnWire → P

/-- Rows that can be written, and their number too. -/
structure SoundRows (rows : List PlainRow) : Prop where
  writable : ∀ row ∈ rows, PlainRow.Writable row
  size : Short rows.length

theorem rowsTree_writable {rows : List PlainRow} (sound : SoundRows rows) : (rowsTree rows).Writable := by
  refine Tree.within_list.mpr (List.forall_mem_map.mpr fun row member => ?_)
  exact Tree.within_map.mpr (sound.writable row member)

theorem fetch_yields (query : String) (parameters : List (String × Value)) :
    Yields here (fun reply => Given here ((∀ p ∈ parameters, p.2.Within IsWord) ∧
      Reply.OnWire ⟨reply.1, reply.2, none⟩)) (fetch query parameters) := by
  intro link reply h wire
  rw [fetch_run (query, parameters)] at h
  unfold replyTo Database.fault? at h
  cases known : (here.database.reply query parameters).fault with
  | some fault => simp [known] at h
  | none =>
    obtain rfl : (_, _) = reply := by simpa [known] using h
    obtain ⟨rows, size, summary⟩ := wire.reply query parameters known
    exact ⟨wire.parameters query parameters known, rows, size, summary⟩

theorem plainRows_yields {rows : List Row} {summary : Option Summary}
    (told : Given here (Reply.OnWire ⟨rows, summary, none⟩)) :
    Yields here (fun plain => Given here (SoundRows plain)) (plainRows rows) := by
  refine .ofExcept fun plain h wire => ?_
  have each := forall₂_of_mapM (ok_of_mapError (ok_of_mapError h))
  refine ⟨fun row member => ?_, each.length_eq ▸ (told wire).size.short⟩
  obtain ⟨raw, member', form⟩ := exists_of_mem_right each member
  exact normalizeRow_writable form fun cell hcell => ((told wire).rows raw member' cell hcell).writable

theorem rows_yields (template : Template) :
    Yields here (fun rows => Given here (SoundRows rows)) (rows template) :=
  (fetch_yields _ _).bind fun _ told => plainRows_yields fun wire => (told wire).2

theorem countRows_yields (template : Template) (name : String) :
    Yields here (fun n => Given here (Short n)) (countRows template name) := by
  refine (rows_yields template).bind fun rows sound => .ofExcept fun n h wire => ?_
  have count := ok_of_mapError h
  cases rows with
  | nil =>
    obtain rfl := Except.ok.inj count
    exact IsWord.short (by decide)
  | cons row rest => exact ((sound wire).writable row List.mem_cons_self).countOf count

theorem attempt_yields (template : Template) :
    Yields here (fun tried => Given here (∀ rows ∈ tried, SoundRows rows)) (attempt template) := by
  refine ((rows_yields template).map fun rows sound wire => ?_).recover fun failure => ?_
  · rintro _ ⟨⟩
    exact sound wire
  · cases failure with
    | execution cause => exact (Action.Yields.any _).bind fun _ _ => .pure fun _ => nofun
    | _ => exact .fail _

theorem columnOf_yields {rows : List PlainRow} {name : String} (sound : Given here (SoundRows rows)) :
    Yields here (fun ts => Given here (∀ t ∈ ts, t.Writable)) (ofData (PlainRow.columnOf rows name)) := by
  refine .ofExcept fun ts h wire t ht => ?_
  obtain ⟨row, member, found⟩ := exists_of_mem_right (forall₂_of_mapM (ok_of_mapError h)) ht
  exact ((sound wire).writable row member).column found

end Request

namespace Property

def Writable (p : Property) : Prop := p.name.Writable ∧ (∀ t ∈ p.type, t.Writable) ∧ Short p.frequency

theorem Writable.tree {p : Property} (h : p.Writable) : p.tree.Writable := by
  obtain ⟨name, type, frequency⟩ := h
  cases known : p.type with
  | none => simp [Property.tree, known, name, frequency]
  | some t => simp [Property.tree, known, name, frequency, type t known]

variable {row : PlainRow} {p : Property}

theorem ofTypedRow_writable (h : ofTypedRow row = .ok p) (writable : PlainRow.Writable row) : p.Writable := by
  obtain ⟨name, first, h⟩ := ok_of_bind h
  obtain ⟨type, second, h⟩ := ok_of_bind h
  obtain ⟨n, third, h⟩ := ok_of_bind h
  obtain rfl := Except.ok.inj h
  refine ⟨writable.column first, ?_, writable.countOf third⟩
  rintro _ ⟨⟩
  exact writable.column second

theorem ofUntypedRow_writable (h : ofUntypedRow row = .ok p) (writable : PlainRow.Writable row) :
    p.Writable := by
  obtain ⟨name, first, h⟩ := ok_of_bind h
  obtain ⟨n, second, h⟩ := ok_of_bind h
  obtain rfl := Except.ok.inj h
  exact ⟨writable.column first, nofun, writable.countOf second⟩

theorem rank_subset {ps found : List Property} (h : rank ps = .ok found) : found ⊆ ps := by
  unfold rank at h
  split at h
  · obtain rfl := Except.ok.inj h
    exact (List.mergeSort_perm ps upTo).subset
  · exact Sort.adaptive_subset h

end Property

namespace Request

variable {here : Site}

theorem readProperties_yields {read : PlainRow → Except DataError Property} {rows : List PlainRow}
    (each : ∀ row p, read row = .ok p → PlainRow.Writable row → p.Writable)
    (sound : Given here (SoundRows rows)) :
    Yields here (fun ps => Given here (∀ p ∈ ps, p.Writable)) (ofData (rows.mapM read)) := by
  refine .ofExcept fun ps h wire p hp => ?_
  obtain ⟨row, member, found⟩ := exists_of_mem_right (forall₂_of_mapM (ok_of_mapError h)) hp
  exact each row p found ((sound wire).writable row member)

theorem rank_yields {ps : List Property} (writable : Given here (∀ p ∈ ps, p.Writable)) :
    Yields here (fun found => Given here (∀ p ∈ found, p.Writable)) (ofData (Property.rank ps)) :=
  .ofExcept fun _ h wire p hp => writable wire p (Property.rank_subset (ok_of_mapError h) hp)

theorem findProperties_yields (subject : Subject) :
    Yields here (fun found => Given here (∀ p ∈ found.1, p.Writable)) (findProperties subject) := by
  refine (attempt_yields _).bind fun tried sound => ?_
  cases tried with
  | some rows =>
    have sound : Given here (SoundRows rows) := fun wire => sound wire rows rfl
    exact (readProperties_yields (fun _ _ => Property.ofTypedRow_writable) sound).bind
      fun _ known => (rank_yields known).bind fun _ known => .pure known
  | none =>
    exact (rows_yields _).bind fun _ sound =>
      (readProperties_yields (fun _ _ => Property.ofUntypedRow_writable) sound).bind
        fun _ known => (rank_yields known).bind fun _ known => .pure known

/-- A map, which can be written if the database keeps to the wire protocol. -/
structure Payload (here : Site) (t : Tree) : Prop where
  is_map : ∃ entries, t = .map entries
  writable : here.database.OnWire → t.Writable

theorem Payload.map {entries : List (String × Tree)}
    (h : Given here (∀ e ∈ entries, e.2.Writable)) : Payload here (.map entries) :=
  ⟨⟨entries, rfl⟩, fun wire => Tree.within_map.mpr (h wire)⟩

theorem nameTree_writable (name : Option String) (otherwise : String) :
    (nameTree name otherwise).Writable := Tree.within_str

variable (guard : Guard)

theorem runQuery_yields (q parameters : Value) :
    Yields here (Payload here) (runQuery guard q parameters) := by
  refine (Action.Yields.any _).bind fun args _ => ?_
  cases guard.classify args.query with
  | rejected refusal => exact (Action.Yields.any _).bind fun _ _ => .fail _
  | safe =>
    refine (fetch_yields _ _).withSession.bind fun reply told => ?_
    refine (plainRows_yields fun wire => (told wire).2).bind fun records sound => .pure (.map fun wire => ?_)
    have given : (Value.map args.parameters).plain.Writable :=
      Value.Writable.plain (Value.within_map (told wire).1).writable
    have summary := Summary.tree_writable (told wire).2.summary
    simp [given, summary, rowsTree_writable (sound wire)]

theorem runSchema_yields : Yields here (Payload here) runSchema := by
  have body : Yields here (fun found : List PlainRow × List PlainRow × List PlainRow =>
      Given here (SoundRows found.1) ∧ Given here (SoundRows found.2.1) ∧
        Given here (SoundRows found.2.2))
      (do return (← rows .labels, ← rows .relationshipTypes, ← rows .propertyKeys)) :=
    (rows_yields _).bind fun _ labels => (rows_yields _).bind fun _ types =>
      (rows_yields _).bind fun _ keys => .pure ⟨labels, types, keys⟩
  refine body.withSession.bind fun found sound => ?_
  refine (columnOf_yields sound.1).bind fun labels first => ?_
  refine (columnOf_yields sound.2.1).bind fun types second => ?_
  refine (columnOf_yields sound.2.2).bind fun keys third => .pure (.map fun wire => ?_)
  simpa using ⟨first wire, second wire, third wire⟩

theorem runTestConnection_yields :
    Yields here (· = "Neo4j connection test successful!") runTestConnection :=
  .recover ((Action.Yields.any _).bind fun _ _ => .pure rfl) fun _ => .fail _

theorem runNodeCount_yields (label : Value) : Yields here (Payload here) (runNodeCount label) := by
  refine (Action.Yields.any _).bind fun label _ => (Action.Yields.any _).bind fun name _ => ?_
  refine (countRows_yields _ _).withSession.bind fun n short => .pure (.map fun wire => ?_)
  simp [nameTree_writable, short wire]

theorem runRelationshipCount_yields (type : Value) :
    Yields here (Payload here) (runRelationshipCount type) := by
  refine (Action.Yields.any _).bind fun type _ => (Action.Yields.any _).bind fun name _ => ?_
  refine (countRows_yields _ _).withSession.bind fun n short => .pure (.map fun wire => ?_)
  simp [nameTree_writable, short wire]

theorem runDatabaseInfo_yields : Yields here (Payload here) runDatabaseInfo := by
  have body : Yields here (fun found : List PlainRow × Int × Int =>
      Given here (SoundRows found.1) ∧ Given here (Short found.2.1) ∧ Given here (Short found.2.2))
      (do return (← rows .components, ← countRows .totalNodes "nodeCount",
        ← countRows .totalRelationships "relCount")) :=
    (rows_yields _).bind fun _ components => (countRows_yields _ _).bind fun _ nodes =>
      (countRows_yields _ _).bind fun _ relationships => .pure ⟨components, nodes, relationships⟩
  refine body.withSession.bind fun found sound => .pure (.map fun wire => ?_)
  obtain ⟨components, nodes, relationships⟩ := found
  obtain ⟨sound, first, second⟩ := sound
  have told : ∀ name, (((components.head?.getD []).lookup name).getD .null).Writable := by
    intro name
    cases components with
    | nil => exact Tree.within_null
    | cons row rest =>
      cases found : row.lookup name with
      | none => simp [found]
      | some t =>
        have writable := ((sound wire).writable row List.mem_cons_self).lookup found
        simpa [found] using writable
  simp [told, first wire, second wire]

theorem runSampleData_yields (label type limit : Value) :
    Yields here (Payload here) (runSampleData label type limit) := by
  refine (Action.Yields.any _).bind fun args _ => (Action.Yields.any _).bind fun template _ => ?_
  refine (rows_yields template).withSession.bind fun samples sound => .pure (.map fun wire => ?_)
  simp [rowsTree_writable (sound wire), (sound wire).size]

theorem propertiesTree_payload {title name : String} {found : List Property × Bool}
    (writable : Given here (∀ p ∈ found.1, p.Writable)) :
    Payload here (propertiesTree title name found) := by
  refine .map fun wire => ?_
  have listed : ∀ p ∈ found.1, p.tree.Writable := fun p hp => (writable wire p hp).tree
  cases found.2 <;> simpa using listed

theorem runNodeProperties_yields (label : Value) :
    Yields here (Payload here) (runNodeProperties label) := by
  refine (Action.Yields.any _).bind fun label _ => (Action.Yields.any _).bind fun name _ => ?_
  exact (findProperties_yields _).withSession.bind fun found writable =>
    .pure (propertiesTree_payload writable)

theorem runRelationshipProperties_yields (type : Value) :
    Yields here (Payload here) (runRelationshipProperties type) := by
  refine (Action.Yields.any _).bind fun type _ => (Action.Yields.any _).bind fun name _ => ?_
  exact (findProperties_yields _).withSession.bind fun found writable =>
    .pure (propertiesTree_payload writable)

/-- What requests can come to: such a map or, for the test of the connection, a fixed text. -/
inductive Expected (here : Site) : Answer → Prop where
  | passed : Expected here (.text "Neo4j connection test successful!")
  | payload {t : Tree} (payload : Payload here t) : Expected here (.tree t)

theorem runListing_yields (title : String) (template : Template) :
    Yields here (Expected here)
      (do return Answer.tree (.map [(title, rowsTree (← withSession (rows template)))])) := by
  refine (rows_yields template).withSession.bind fun found sound => .pure (.payload (.map fun wire => ?_))
  simp [rowsTree_writable (sound wire)]

theorem run_yields (request : Request) : Yields here (Expected here) (request.run guard) := by
  have tree : ∀ {action : Action Tree}, Yields here (Payload here) action →
      Yields here (Expected here) (Answer.tree <$> action) :=
    fun h => h.map fun _ payload => .payload payload
  cases request with
  | query q parameters => exact tree (runQuery_yields guard q parameters)
  | schema => exact tree runSchema_yields
  | testConnection =>
    refine runTestConnection_yields.map ?_
    rintro s rfl
    exact .passed
  | nodeCount label => exact tree (runNodeCount_yields label)
  | relationshipCount type => exact tree (runRelationshipCount_yields type)
  | databaseInfo => exact tree runDatabaseInfo_yields
  | indexes => exact runListing_yields "indexes" .indexes
  | constraints => exact runListing_yields "constraints" .constraints
  | sampleData label type limit => exact tree (runSampleData_yields label type limit)
  | nodeProperties label => exact tree (runNodeProperties_yields label)
  | relationshipProperties type => exact tree (runRelationshipProperties_yields type)

end Request

end CypherGate
