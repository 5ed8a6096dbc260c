import CypherGate.Step
import CypherGate.Proofs.AllOrNothing
import CypherGate.Proofs.OwnQueries
import CypherGate.Proofs.Turns
/-!
# Only vetted queries are sent

Over a whole run the database receives queries of two kinds: what a caller gave, word for word, if
the guard found it safe, and the program's own.
-/
namespace CypherGate

open CypherGate.Action Trace Connection

/-- The text that a value gives. Bytes give the text that they encode. -/
inductive GivesText : Value → String → Prop
  | text (s : String) : GivesText (.str s) s
  | bytes {content : List UInt8} {s : String} (h : Conversion.decode? content = some s) :
    GivesText (.other (.bytes content)) s

/-- The parameters that a value gives: none if it is null, else those of the map that it is. -/
inductive GivesMap : Value → List (String × Value) → Prop
  | nothing : GivesMap .null []
  | map (entries : List (String × Value)) : GivesMap (.map entries) entries
  | node (node : Node Value) : GivesMap (.node node) node.properties
  | relationship (relationship : Relationship Value) :
    GivesMap (.relationship relationship) relationship.properties

theorem Conversion.givesText_of_text {v : Value} {s : String} (h : Conversion.text v = .ok s) :
    GivesText v s := by
  cases v with
  | str t =>
    cases h
    exact .text s
  | other scalar =>
    cases scalar with
    | bytes content =>
      cases d : decode? content with
      | none => simp [text, d] at h
      | some t =>
        simp only [text, d, Option.elim_some, Except.ok.injEq] at h
        exact .bytes (h ▸ d)
    | _ => cases h
  | _ => cases h

theorem Conversion.givesMap_of_entries {v : Value} {es : List (String × Value)}
    (h : Conversion.entries v = .ok es) : GivesMap v es := by
  cases v with
  | map entries =>
    cases h
    exact .map es
  | node node =>
    cases h
    exact .node node
  | relationship relationship =>
    cases h
    exact .relationship relationship
  | _ => cases h

namespace QueryArguments

open Arguments

theorem lookup_query (q p : Value) :
    (given [("query", q), ("parameters", p)]).lookup "query" =
      if isNull q then none else some q := by
  cases hq : isNull q <;> cases hp : isNull p <;>
    simp [given, collapse, setEntry, hq, hp, List.lookup_cons]

theorem lookup_parameters (q p : Value) :
    (given [("query", q), ("parameters", p)]).lookup "parameters" =
      if isNull p then none else some p := by
  cases hq : isNull q <;> cases hp : isNull p <;>
    simp [given, collapse, setEntry, hq, hp, List.lookup_cons]

theorem gives_of_parse {q p : Value} {args : QueryArguments}
    (h : parse [("query", q), ("parameters", p)] = .ok args) :
    GivesText q args.query ∧ GivesMap p args.parameters := by
  obtain ⟨⟨text, entries⟩, read, rfl⟩ := ok_of_map h
  obtain ⟨query, parameters⟩ := Checked.both_eq_ok.mp (Checked.adding_eq_ok.mp read).2
  constructor
  · rw [required, lookup_query] at query
    cases null : isNull q with
    | true => simp [null] at query
    | false =>
      simp only [null, Bool.false_eq_true, if_false] at query
      exact Conversion.givesText_of_text (ok_of_mapError query)
  · rw [Arguments.optional, lookup_parameters] at parameters
    cases null : isNull p with
    | true =>
      obtain rfl : p = .null := by
        cases p <;> simp [isNull] at null ⊢
      simp only [isNull, if_true, Except.ok.injEq] at parameters
      subst parameters
      exact .nothing
    | false =>
      simp only [null, Bool.false_eq_true, if_false] at parameters
      exact Conversion.givesMap_of_entries (ok_of_mapError parameters)

end QueryArguments

namespace Request

/-- Whether a query may be sent for a request. -/
def Vets (guard : Guard) (request : Request) (q : Query) : Prop :=
  (∃ text parameters, request = .query text parameters ∧ GivesText text q.1 ∧
      GivesMap parameters q.2 ∧ guard.classify q.1 = .safe) ∨
    (Frame.Filled q.1 ∧ q.2 = [])

theorem vets_of_own {guard : Guard} {request : Request} {templates : List Template} {q : Query}
    (h : q ∈ (ownScript templates).queries) : request.Vets guard q := by
  obtain ⟨t, -, rfl⟩ := List.mem_map.mp h
  exact .inr ⟨t.text_filled, rfl⟩

theorem vets_of_property {guard : Guard} {request : Request} {subject : Subject} {q : Query}
    (h : q ∈ (propertyScript subject).queries) : request.Vets guard q := by
  simp only [propertyScript, Script.queries, List.mem_cons, List.not_mem_nil, or_false] at h
  rcases h with rfl | rfl
  · exact .inr ⟨(Template.typedProperties subject).text_filled, rfl⟩
  · exact .inr ⟨(Template.untypedProperties subject).text_filled, rfl⟩

theorem vets_of_script {guard : Guard} {request : Request} {script : Script} {q : Query}
    (h : request.script guard = .ok script) (member : q ∈ script.queries) :
    request.Vets guard q := by
  cases request with
  | query text parameters =>
    obtain ⟨args, parsed, h⟩ := ok_of_bind h
    obtain ⟨givesText, givesMap⟩ := QueryArguments.gives_of_parse (ok_of_mapError parsed)
    cases verdict : guard.classify args.query with
    | rejected refusal =>
      rw [verdict] at h
      cases h
    | safe =>
      rw [verdict] at h
      cases h
      obtain rfl := List.mem_singleton.mp member
      exact .inl ⟨text, parameters, rfl, givesText, givesMap, verdict⟩
  | schema | testConnection | databaseInfo | indexes | constraints =>
    cases h
    exact vets_of_own member
  | nodeCount label | relationshipCount type =>
    obtain ⟨name, -, h⟩ := ok_of_bind h
    obtain ⟨identifier, -, h⟩ := ok_of_bind h
    cases h
    exact vets_of_own member
  | sampleData label relationshipType limit =>
    obtain ⟨args, -, h⟩ := ok_of_bind h
    obtain ⟨template, -, h⟩ := ok_of_bind h
    cases h
    exact vets_of_own member
  | nodeProperties label | relationshipProperties type =>
    obtain ⟨name, -, h⟩ := ok_of_bind h
    obtain ⟨identifier, -, h⟩ := ok_of_bind h
    cases h
    exact vets_of_property member

theorem vets_of_sent (guard : Guard) (request : Request) (site : Site) (link : Link) :
    ∀ q ∈ sent ((request.run guard).run site link).events, request.Vets guard q := by
  intro q hq
  have shaped := request.run_shaped guard
  cases s : request.script guard with
  | error failure =>
    rw [s] at shaped
    obtain ⟨logs, unseen, run⟩ := shaped
    rw [run, unseen.idle.sent_eq] at hq
    cases hq
  | ok script =>
    rw [s] at shaped
    cases c : (connect.run site link).result with
    | error failure =>
      obtain ⟨failure', run⟩ := Sitting.run_unconnected shaped c
      rw [run, (connect_idle site link).sent_eq] at hq
      cases hq
    | ok driver =>
      obtain ⟨-, served⟩ := Sitting.run_served shaped c
      exact vets_of_script s (served.in_order.subset hq)

end Request

namespace Step

/-- The request that a step makes, by itself or by a tool. -/
def request? : Step → Option Request
  | .tool t args => some (t.request args)
  | .request r => some r
  | _ => none

def isFetch : Step → Bool
  | .fetch _ _ => true
  | _ => false

theorem sent_withSession_fail (failure : Failure) (site : Site) (link : Link) :
    sent ((withSession (Action.fail failure : Action StepResult)).run site link).events = [] := by
  have idle := connect_idle site link
  cases c : (Connection.connect.run site link).result with
  | error failure => rw [withSession_of_error _ c, idle.sent_eq]
  | ok driver =>
    rw [withSession_of_ok _ c]
    simp [idle.sent_eq, Event.query?]

theorem vets_of_sent {step : Step} (h : step.isFetch = false) (guard : Guard) (site : Site)
    (link : Link) : ∀ q ∈ sent (step.run guard site link).events,
      ∃ request, step.request? = some request ∧ request.Vets guard q := by
  intro q hq
  cases step with
  | tool tool args =>
    obtain ⟨logs, unseen, call⟩ := tool.call_run guard args site link
    simp only [run, action, run_map, call, sent_append, unseen.idle.sent_eq, List.append_nil] at hq
    exact ⟨_, rfl, Request.vets_of_sent guard _ site link q hq⟩
  | request request =>
    simp only [run, action, run_map] at hq
    exact ⟨request, rfl, request.vets_of_sent guard site link q hq⟩
  | fetch query parameters => cases h
  | connect =>
    simp only [run, action, run_map, (connect_idle site link).sent_eq, List.not_mem_nil] at hq
  | close =>
    rw [run, action, run_bind_ok (a := ()) (by rw [close_run])] at hq
    simp [(close_idle site link).sent_eq] at hq
  | abandon cause =>
    simp only [run, action, sent_withSession_fail, List.not_mem_nil] at hq
  | together calls =>
    have idle := Batch.runTogether_idle (fun _ => site) link calls
    simp only [run, action, runTogether, Action.run, idle.sent_eq, List.not_mem_nil] at hq

/-- Whatever callers ask and whatever the database does, over a whole run it receives no query but
those that some request of the run may send. -/
theorem sent_vetted (guard : Guard) (link : Link) (steps : List (Site × Step))
    (h : ∀ s ∈ steps, s.2.isFetch = false) :
    ∀ q ∈ sent (runAll guard link steps).2,
      ∃ s ∈ steps, ∃ request, s.2.request? = some request ∧ request.Vets guard q := by
  induction steps generalizing link with
  | nil => simp [runAll]
  | cons head rest ih =>
    intro q hq
    simp only [runAll, sent_append, List.mem_append] at hq
    rcases hq with hq | hq
    · obtain ⟨request, made, vets⟩ :=
        vets_of_sent (h head List.mem_cons_self) guard head.1 link q hq
      exact ⟨head, List.mem_cons_self, request, made, vets⟩
    · obtain ⟨s, member, request, made, vets⟩ :=
        ih _ (fun s hs => h s (List.mem_cons_of_mem _ hs)) q hq
      exact ⟨s, List.mem_cons_of_mem _ member, request, made, vets⟩

/-- A server that is always there and has no data. -/
def emptyServer : Site where
  endpoint := ⟨"bolt://localhost:7687", "neo4j", "", none⟩
  database := ⟨fun _ => none, none, fun _ _ => ⟨[], none, none⟩⟩

/-- A guard that knows one query. -/
def oneQuery : Guard := ⟨fun query => if query = "RETURN $n" then .safe else .rejected .opening⟩

/-- A safe query, a query that the guard refuses, and a tool with a query of its own. -/
def threeCalls : List (Site × Step) := [
  (emptyServer, .tool .query [("query", .str "RETURN $n"), ("parameters", .map [("n", .int 1)])]),
  (emptyServer, .tool .query [("query", .str "DROP x")]),
  (emptyServer, .tool .sampleData [("label", .str "Person")])]

theorem sent_vetted_threeCalls :
    (∀ s ∈ threeCalls, s.2.isFetch = false) ∧
    (sent (runAll oneQuery Link.initial threeCalls).2).map Prod.fst =
      ["RETURN $n", "MATCH (n:\x60Person\x60) RETURN n LIMIT 5"] ∧
    ∀ q ∈ sent (runAll oneQuery Link.initial threeCalls).2,
      ∃ s ∈ threeCalls, ∃ request, s.2.request? = some request ∧
        request.Vets oneQuery q := by
  have noFetch : ∀ s ∈ threeCalls, s.2.isFetch = false := by simp [threeCalls, isFetch]
  refine ⟨noFetch, ?_, sent_vetted oneQuery Link.initial threeCalls noFetch⟩
  decide +kernel

end Step

end CypherGate
