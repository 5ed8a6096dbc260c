import CypherGate.Proofs.AllOrNothing
import CypherGate.Proofs.Payloads
import CypherGate.Proofs.Verdicts
/-!
# Tools and their requests

A tool stands for one request, whose arguments are the parameters of the call, each under its own name.
A call has the effects of the request and adds records to the log; its text tells the payload of the
request or its failure. A payload never begins like a failure does. The call itself fails on one occasion
only, which no database behind the wire protocol brings about: the payload has something in it that cannot
be written.
-/
namespace CypherGate

open CypherGate.Action Trace Connection

namespace Tool

def failureMark : String := "Error: "

theorem head_of_json? {entries : List (String × Tree)} {text : String}
    (h : (Tree.map entries).json? = some text) : text.toList.head? = some '\x7b' := by
  rw [Tree.toList_of_json? h]
  cases entries <;> simp [Json.write]

theorem render_tree {t : Tree} {text : String} (h : t.json? = some text) :
    (Answer.tree t).render = .ok text := by
  rw [Answer.render, h]
  rfl

theorem render_tree_of_none {t : Tree} (h : t.json? = none) :
    (Answer.tree t).render = .error (.data .oversized) := by
  rw [Answer.render, h]
  rfl

theorem json?_of_render {t : Tree} {text : String} (h : (Answer.tree t).render = .ok text) :
    t.json? = some text := by
  cases written : t.json? with
  | none =>
    rw [render_tree_of_none written] at h
    cases h
  | some own =>
    rw [render_tree written] at h
    rw [Except.ok.inj h]

/-- The answers without a text: maps with something in them that cannot be written. -/
theorem render_eq_error_iff {answer : Answer} {failure : Failure} :
    answer.render = .error failure ↔
      failure = .data .oversized ∧ ∃ t, answer = .tree t ∧ ¬t.Writable := by
  cases answer with
  | text s => simp [Answer.render]
  | tree t =>
    by_cases writable : t.Writable
    · obtain ⟨text, written⟩ := Tree.exists_json?_iff.mpr writable
      simp [render_tree written, writable]
    · simp [render_tree_of_none (Tree.json?_eq_none_iff.mpr writable), writable, eq_comm]

theorem render_unmarked {guard : Guard} {request : Request} {site : Site} {link : Link} {answer : Answer}
    {text : String} (h : ((request.run guard).run site link).result = .ok answer)
    (rendered : answer.render = .ok text) : ¬failureMark.toList <+: text.toList := by
  cases request.run_yields guard link answer h with
  | passed =>
    obtain rfl := Except.ok.inj rendered
    decide
  | payload payload =>
    obtain ⟨entries, rfl⟩ := payload.is_map
    have head := head_of_json? (json?_of_render rendered)
    rintro ⟨rest, marked⟩
    rw [← marked] at head
    cases head

/-- An argument that may be left out, which then is null. -/
def Offers (args : Arguments) (name : String) (value : Value) : Prop :=
  args.lookup name = some value ∨ args.lookup name = none ∧ value = .null

/-- The request that a call stands for. -/
inductive Calls (args : Arguments) : Tool → Request → Prop where
  | query {q parameters : Value} (given : args.lookup "query" = some q)
    (offered : Offers args "parameters" parameters) : Calls args .query (.query q parameters)
  | schema : Calls args .schema .schema
  | testConnection : Calls args .testConnection .testConnection
  | nodeCount {label : Value} (offered : Offers args "label" label) :
    Calls args .nodeCount (.nodeCount label)
  | relationshipCount {type : Value} (offered : Offers args "type" type) :
    Calls args .relationshipCount (.relationshipCount type)
  | databaseInfo : Calls args .databaseInfo .databaseInfo
  | indexes : Calls args .indexes .indexes
  | constraints : Calls args .constraints .constraints
  | sampleData {label type limit : Value} (label_offered : Offers args "label" label)
    (type_offered : Offers args "relationshipType" type)
    (limit_offered : Offers args "limit" limit) :
    Calls args .sampleData (.sampleData label type limit)
  | nodeProperties {label : Value} (given : args.lookup "label" = some label) :
    Calls args .nodeProperties (.nodeProperties label)
  | relationshipProperties {type : Value} (given : args.lookup "type" = some type) :
    Calls args .relationshipProperties (.relationshipProperties type)

theorem offers_argument (args : Arguments) (name : String) :
    Offers args name ((args.lookup name).getD .null) := by
  cases h : args.lookup name with
  | some v => exact .inl h
  | none => exact .inr ⟨h, rfl⟩

theorem argument_of_given {args : Arguments} {name : String} (h : (args.lookup name).isSome) :
    args.lookup name = some ((args.lookup name).getD .null) := by
  obtain ⟨v, hv⟩ := Option.isSome_iff_exists.mp h
  rw [hv]
  rfl

theorem calls_request {tool : Tool} {args : Arguments}
    (given : ∀ p ∈ tool.parameters, p.required → (args.lookup p.name).isSome) :
    Calls args tool (tool.request args) := by
  have offered := offers_argument args
  cases tool with
  | query =>
    have first := given ⟨"query", true⟩ (by simp [parameters]) rfl
    exact .query (argument_of_given first) (offered "parameters")
  | schema => exact .schema
  | testConnection => exact .testConnection
  | nodeCount => exact .nodeCount (offered "label")
  | relationshipCount => exact .relationshipCount (offered "type")
  | databaseInfo => exact .databaseInfo
  | indexes => exact .indexes
  | constraints => exact .constraints
  | sampleData =>
    exact .sampleData (offered "label") (offered "relationshipType") (offered "limit")
  | nodeProperties =>
    have first := given ⟨"label", true⟩ (by simp [parameters]) rfl
    exact .nodeProperties (argument_of_given first)
  | relationshipProperties =>
    have first := given ⟨"type", true⟩ (by simp [parameters]) rfl
    exact .relationshipProperties (argument_of_given first)

/-- What a call comes to, held against its request on the same link. -/
structure Faithful (database : Database) (inner : Outcome Answer) (outer : Outcome String) : Prop where
  same_link : outer.link = inner.link
  same_events : ∃ logs, Unseen logs ∧ outer.events = inner.events ++ logs
  answered : database.OnWire → ∃ text, outer.result = .ok text
  raised : ∀ failure, inner.result = .error failure →
    outer.result = .ok (failureMark ++ failure.message)
  text : ∀ s, inner.result = .ok (.text s) → outer.result = .ok s
  tree : ∀ t text, inner.result = .ok (.tree t) → t.json? = some text → outer.result = .ok text
  unanswered : ∀ failure, outer.result = .error failure ↔
    failure = .data .oversized ∧ ∃ t, inner.result = .ok (.tree t) ∧ ¬t.Writable
  told : ∀ text, outer.result = .ok text →
    (failureMark.toList <+: text.toList ↔ ∃ failure, inner.result = .error failure)

theorem reply_eq_error_iff {result : Except Failure Answer} {failure : Failure} :
    reply result = .error failure ↔
      failure = .data .oversized ∧ ∃ t, result = .ok (.tree t) ∧ ¬t.Writable := by
  cases result with
  | ok answer => simp [reply, render_eq_error_iff]
  | error cause => simp [reply]

theorem exists_reply_iff {result : Except Failure Answer} :
    (∃ text, reply result = .ok text) ↔ ∀ t, result = .ok (.tree t) → t.Writable := by
  constructor
  · rintro ⟨text, told⟩ t rfl
    by_contra unwritable
    have untold := reply_eq_error_iff.mpr ⟨rfl, t, rfl, unwritable⟩
    exact nomatch told.symm.trans untold
  · intro writable
    cases told : reply result with
    | ok text => exact ⟨text, rfl⟩
    | error failure =>
      obtain ⟨-, t, tree, unwritable⟩ := reply_eq_error_iff.mp told
      exact absurd (writable t tree) unwritable

theorem call_answers_iff (guard : Guard) (tool : Tool) (args : Arguments) (site : Site) (link : Link) :
    (∃ text, ((tool.call guard args).run site link).result = .ok text) ↔
      ∀ t, (((tool.request args).run guard).run site link).result = .ok (.tree t) → t.Writable := by
  obtain ⟨logs, -, call⟩ := call_run guard tool args site link
  rw [call]
  exact exists_reply_iff

/-- The text of a call is missing for no database behind the wire protocol. -/
theorem call_answers (guard : Guard) (tool : Tool) (args : Arguments) (site : Site) (link : Link)
    (wire : site.database.OnWire) : ∃ text, ((tool.call guard args).run site link).result = .ok text := by
  refine (call_answers_iff guard tool args site link).mpr fun t tree => ?_
  cases (tool.request args).run_yields guard link _ tree with
  | payload payload => exact payload.writable wire

/-- A call with the parameters that it needs is faithful to the request for these parameters, from
every link and whatever the database does. -/
theorem call_faithful (guard : Guard) (tool : Tool) (args : Arguments) (site : Site) (link : Link)
    (given : ∀ p ∈ tool.parameters, p.required → (args.lookup p.name).isSome) :
    ∃ request, Calls args tool request ∧
      Faithful site.database ((request.run guard).run site link)
        ((tool.call guard args).run site link) := by
  obtain ⟨logs, unseen, call⟩ := call_run guard tool args site link
  refine ⟨tool.request args, calls_request given, ?_⟩
  have answers := call_answers guard tool args site link
  rw [call] at answers ⊢
  refine ⟨rfl, ⟨logs, unseen, rfl⟩, answers, ?_, ?_, ?_, fun _ => reply_eq_error_iff, ?_⟩
  · intro failure raised
    simp only [reply, raised, failureMark]
  · intro s text
    simp only [reply, text, Answer.render]
  · intro t text tree written
    simp only [reply, tree, render_tree written]
  · intro text told
    cases r : (((tool.request args).run guard).run site link).result with
    | ok answer =>
      simp only [reply, r] at told
      simp [render_unmarked r told]
    | error failure =>
      simp only [reply, r, Except.ok.injEq] at told
      have marked : failureMark.toList <+: text.toList := by
        rw [← told, String.toList_append]
        exact List.prefix_append _ _
      simp [marked]

/-- A server that answers with the integer it is given, if the protocol has that integer. -/
def echoServer : Site where
  endpoint := ⟨"bolt://localhost:7687", "neo4j", "", none⟩
  database := ⟨fun _ => none, none, fun _ parameters =>
    match parameters with
    | [(name, .int n)] =>
      if IsWord n then ⟨[[(name, .int n)]], none, none⟩
      else ⟨[], none, some (.run, .system .general "Integer out of range")⟩
    | _ => ⟨[], none, some (.run, .server .client "Expected one integer")⟩⟩

theorem echoServer_onWire : echoServer.database.OnWire := by
  have echoes : ∀ query parameters, (echoServer.database.reply query parameters).fault = none →
      ∃ name n, IsWord n ∧ parameters = [(name, .int n)] ∧
        echoServer.database.reply query parameters = ⟨[[(name, .int n)]], none, none⟩ := by
    intro query parameters answered
    dsimp only [echoServer] at answered ⊢
    split at answered
    next name n =>
      split at answered
      next word => exact ⟨name, n, word, rfl, if_pos word⟩
      next => cases answered
    next => cases answered
  constructor
  · intro query parameters answered
    obtain ⟨name, n, word, rfl, -⟩ := echoes query parameters answered
    simp [Value.within_int word]
  · intro query parameters answered
    obtain ⟨name, n, word, -, reply⟩ := echoes query parameters answered
    rw [reply]
    exact ⟨by simp [Value.within_int word], by simp [IsWord], nofun⟩

theorem call_faithful_echoServer :
    let guard : Guard := ⟨fun _ => .safe⟩
    let args : Arguments := [("query", .str "RETURN $n AS n"), ("parameters", .map [("n", .int 42)])]
    let o := (query.call guard args).run echoServer Link.initial
    ((∀ p ∈ query.parameters, p.required → (args.lookup p.name).isSome) ∧
      echoServer.database.OnWire) ∧
    (∃ request, Calls args query request ∧
      Faithful echoServer.database ((request.run guard).run echoServer Link.initial) o) ∧
    ∃ text, o.result = .ok text ∧ ¬failureMark.toList <+: text.toList := by
  intro guard args o
  have given : ∀ p ∈ query.parameters, p.required → (args.lookup p.name).isSome := by decide
  have faithful := call_faithful guard query args echoServer Link.initial given
  refine ⟨⟨given, echoServer_onWire⟩, faithful, ?_⟩
  obtain ⟨request, calls, faithful⟩ := faithful
  obtain ⟨text, told⟩ := faithful.answered echoServer_onWire
  refine ⟨text, told, fun marked => ?_⟩
  obtain ⟨failure, raised⟩ := (faithful.told text told).mp marked
  cases calls with
  | query first offered =>
    obtain rfl := Option.some.inj first
    obtain second | ⟨missing, -⟩ := offered
    · obtain rfl := Option.some.inj second
      cases raised
    · cases missing

end Tool

end CypherGate
