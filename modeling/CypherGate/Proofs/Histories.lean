import CypherGate.Proofs.Faithful
import CypherGate.Proofs.Vetting
/-!
# Requests and what was before them

All that the past leaves behind is the link, and a request makes nothing of it but a session. So wherever
a driver is at hand or can be had, the same call comes to the same text and sends the same queries,
whatever the steps before it were and however they ended.
-/
namespace CypherGate

open CypherGate.Action Trace Connection

variable {α β : Type}

/-- Sites that differ at most in what creating and verifying a driver come to. -/
structure Site.Alike (s t : Site) : Prop where
  endpoint : s.endpoint = t.endpoint
  reply : s.database.reply = t.database.reply

/-- A driver is in place, or can be created and verified. -/
def Site.Serves (site : Site) (link : Link) : Prop :=
  link.driver.isSome ∨ site.database.create site.endpoint = none ∧ site.database.verify = none

/-- Outcomes that a caller and the database cannot tell apart, on links that go on to serve. -/
structure Agree (s t : Site) (o o' : Outcome α) : Prop where
  result : o.result = o'.result
  sent : sent o.events = sent o'.events
  serves : s.Serves o.link
  serves' : t.Serves o'.link

/-- Two runs of the action agree, whatever the links that they start from. -/
def Action.Forgets (action : Action α) : Prop :=
  ∀ s t k l, s.Alike t → s.Serves k → t.Serves l → Agree s t (action.run s k) (action.run t l)

theorem Agree.after {s t : Site} {o o' : Outcome α} {es fs : List Event} (h : Agree s t o o')
    (same : Trace.sent es = Trace.sent fs) : Agree s t (o.after es) (o'.after fs) :=
  { h with sent := by simp [same, h.sent] }

namespace Action.Forgets

theorem settled (result : Except Failure α) : Forgets (ofExcept result) :=
  fun _ _ _ _ _ serves serves' => ⟨rfl, rfl, serves, serves'⟩

theorem logged (source : LogSource) (level : LogLevel) (message : String) :
    Forgets (Action.log source level message) :=
  fun _ _ _ _ _ serves serves' => ⟨rfl, rfl, serves, serves'⟩

theorem andThen {action : Action α} {next : Except Failure α → Action β} (h : Forgets action)
    (k : ∀ result, Forgets (next result)) : Forgets (action.andThen next) := by
  intro s t l l' alike serves serves'
  obtain ⟨result, sent, served, served'⟩ := h s t l l' alike serves serves'
  rw [run_andThen, run_andThen, ← result]
  exact (k _ _ _ _ _ alike served served').after sent

theorem bind {action : Action α} {next : α → Action β} (h : Forgets action)
    (k : ∀ a, Forgets (next a)) : Forgets (action >>= next) := by
  refine h.andThen fun result => ?_
  cases result with
  | ok a => exact k a
  | error failure => exact settled (.error failure)

theorem map (f : α → β) {action : Action α} (h : Forgets action) : Forgets (f <$> action) :=
  h.bind fun a => settled (.ok (f a))

theorem recover {action : Action α} {handler : Failure → Action α} (h : Forgets action)
    (k : ∀ failure, Forgets (handler failure)) : Forgets (action.recover handler) := by
  refine h.andThen fun result => ?_
  cases result with
  | ok a => exact settled (.ok a)
  | error failure => exact k failure

end Action.Forgets

namespace Connection

theorem connect_of_serves {site : Site} {link : Link} (h : site.Serves link) :
    ∃ driver, (connect.run site link).result = .ok driver ∧
      (connect.run site link).link.driver = some driver := by
  cases inPlace : link.driver with
  | some driver =>
    refine ⟨driver, ?_⟩
    rw [connect_of_some inPlace]
    exact ⟨rfl, inPlace⟩
  | none =>
    obtain ⟨create, verified⟩ := h.resolve_left (by simp [inPlace])
    obtain ⟨record, run⟩ := verify_run link.created site ⟨some link.created, link.created + 1⟩
    have opened : openDriver.run site link = _ := openDriver_of_none create
    refine ⟨link.created, ?_⟩
    rw [connect_of_none inPlace, run_bind_ok (a := link.created) (by rw [opened]), opened, run]
    simp [verification, verified]

theorem withSession_forgets {body : Action α} (h : Forgets body) : Forgets (withSession body) := by
  intro s t k l alike serves serves'
  obtain ⟨driver, connected, inPlace⟩ := connect_of_serves serves
  obtain ⟨driver', connected', inPlace'⟩ := connect_of_serves serves'
  have inner := h s t (connect.run s k).link (connect.run t l).link alike
    (.inl (by simp [inPlace])) (.inl (by simp [inPlace']))
  rw [withSession_of_ok body connected, withSession_of_ok body connected']
  refine { inner with sent := ?_ }
  simp [(connect_idle s k).sent_eq, (connect_idle t l).sent_eq, Event.query?, inner.sent]

theorem fetch_forgets (query : String) (parameters : List (String × Value)) :
    Forgets (fetch query parameters) := by
  intro s t k l alike serves serves'
  have same : replyTo s.database (query, parameters) = replyTo t.database (query, parameters) := by
    simp only [replyTo, Database.fault?, alike.reply]
  rw [fetch_run (query, parameters), fetch_run (query, parameters)]
  exact ⟨same, rfl, serves, serves'⟩

end Connection

/-! ## Requests -/

namespace Request

open Action.Forgets

theorem rows_forgets (template : Template) : Forgets (rows template) :=
  (fetch_forgets _ _).bind fun _ => settled _

theorem countRows_forgets (template : Template) (name : String) :
    Forgets (countRows template name) :=
  (rows_forgets template).bind fun _ => settled _

theorem attempt_forgets (template : Template) : Forgets (attempt template) := by
  refine ((rows_forgets template).map some).recover fun failure => ?_
  cases failure with
  | execution cause => exact (logged _ _ _).bind fun _ => settled _
  | _ => exact settled _

theorem findProperties_forgets (subject : Subject) : Forgets (findProperties subject) := by
  refine (attempt_forgets _).bind fun typed => ?_
  cases typed with
  | some rows => exact (settled _).bind fun _ => (settled _).bind fun _ => settled _
  | none =>
    exact (rows_forgets _).bind fun _ => (settled _).bind fun _ => (settled _).bind fun _ =>
      settled _

theorem runQuery_forgets (guard : Guard) (query parameters : Value) :
    Forgets (runQuery guard query parameters) := by
  refine (settled _).bind fun args => ?_
  cases guard.classify args.query with
  | rejected refusal => exact (logged _ _ _).bind fun _ => settled _
  | safe =>
    exact (withSession_forgets (fetch_forgets _ _)).bind fun _ => (settled _).bind fun _ =>
      settled _

theorem runSchema_forgets : Forgets runSchema := by
  have body := (rows_forgets .labels).bind fun labels => (rows_forgets .relationshipTypes).bind
    fun types => (rows_forgets .propertyKeys).bind fun keys => settled (.ok (labels, types, keys))
  exact (withSession_forgets body).bind fun _ =>
    (settled _).bind fun _ => (settled _).bind fun _ => (settled _).bind fun _ => settled _

theorem runTestConnection_forgets : Forgets runTestConnection :=
  ((withSession_forgets (rows_forgets .ping)).bind fun _ => settled _).recover fun _ => settled _

theorem runNodeCount_forgets (label : Value) : Forgets (runNodeCount label) := by
  refine (settled _).bind fun label => ?_
  rw [optionalIdentifier_eq]
  exact (settled _).bind fun _ => (withSession_forgets (countRows_forgets _ _)).bind fun _ =>
    settled _

theorem runRelationshipCount_forgets (type : Value) : Forgets (runRelationshipCount type) := by
  refine (settled _).bind fun type => ?_
  rw [optionalIdentifier_eq]
  exact (settled _).bind fun _ => (withSession_forgets (countRows_forgets _ _)).bind fun _ =>
    settled _

theorem runDatabaseInfo_forgets : Forgets runDatabaseInfo :=
  (withSession_forgets ((rows_forgets _).bind fun _ => (countRows_forgets _ _).bind fun _ =>
    (countRows_forgets _ _).bind fun _ => settled _)).bind fun _ => settled _

theorem runSampleData_forgets (label relationshipType limit : Value) :
    Forgets (runSampleData label relationshipType limit) := by
  refine (settled _).bind fun args => ?_
  rw [sampleTemplate_eq]
  exact (settled _).bind fun template => (withSession_forgets (rows_forgets template)).bind
    fun _ => settled _

theorem runNodeProperties_forgets (label : Value) : Forgets (runNodeProperties label) :=
  (settled _).bind fun _ => (settled _).bind fun _ =>
    (withSession_forgets (findProperties_forgets _)).bind fun _ => settled _

theorem runRelationshipProperties_forgets (type : Value) :
    Forgets (runRelationshipProperties type) :=
  (settled _).bind fun _ => (settled _).bind fun _ =>
    (withSession_forgets (findProperties_forgets _)).bind fun _ => settled _

theorem run_forgets (guard : Guard) (request : Request) : Forgets (request.run guard) := by
  cases request with
  | query q parameters => exact (runQuery_forgets guard q parameters).map _
  | schema => exact runSchema_forgets.map _
  | testConnection => exact runTestConnection_forgets.map _
  | nodeCount label => exact (runNodeCount_forgets label).map _
  | relationshipCount type => exact (runRelationshipCount_forgets type).map _
  | databaseInfo => exact runDatabaseInfo_forgets.map _
  | indexes => exact (withSession_forgets (rows_forgets .indexes)).bind fun _ => settled _
  | constraints => exact (withSession_forgets (rows_forgets .constraints)).bind fun _ => settled _
  | sampleData label type limit => exact (runSampleData_forgets label type limit).map _
  | nodeProperties label => exact (runNodeProperties_forgets label).map _
  | relationshipProperties type => exact (runRelationshipProperties_forgets type).map _

end Request

namespace Tool

open Action.Forgets Step

theorem logFailure_forgets (tool : Tool) (failure : Failure) : Forgets (tool.logFailure failure) := by
  unfold logFailure
  split
  · exact settled (.ok ())
  · exact logged _ _ _
  · exact logged _ _ _

theorem call_forgets (guard : Guard) (tool : Tool) (args : Arguments) :
    Forgets (tool.call guard args) := by
  refine ((tool.request args).run_forgets guard).andThen fun result => ?_
  cases result with
  | ok answer => exact settled answer.render
  | error failure => exact (tool.logFailure_forgets failure).bind fun _ => settled _

/-- After any two histories, however they ended, the same call answers the same text and sends the same
queries, as long as each link has a driver or can get one. A payload that cannot be written has no text
after any history. -/
theorem call_after_any_history (guard : Guard) (tool : Tool) (args : Arguments)
    (past past' : List (Site × Step)) (site site' : Site) (alike : site.Alike site')
    (serves : site.Serves (Step.runAll guard Link.initial past).1)
    (serves' : site'.Serves (Step.runAll guard Link.initial past').1) :
    let inner := ((tool.request args).run guard).run site (Step.runAll guard Link.initial past).1
    let o := (tool.call guard args).run site (Step.runAll guard Link.initial past).1
    let o' := (tool.call guard args).run site' (Step.runAll guard Link.initial past').1
    o.result = o'.result ∧ sent o.events = sent o'.events ∧
      ((∃ text, o.result = .ok text) ↔ ∀ t, inner.result = .ok (.tree t) → t.Writable) ∧
      (site.database.OnWire → ∃ text, o.result = .ok text) := by
  intro inner o o'
  have agree := call_forgets guard tool args _ _ _ _ alike serves serves'
  exact ⟨agree.result, agree.sent, call_answers_iff guard tool args site _,
    call_answers guard tool args site _⟩

/-- Like the empty server, but it no longer takes connections. -/
def refusingServer : Site :=
  { emptyServer with database := { emptyServer.database with verify := some (.service .any "down") } }

/-- A history that ends with a driver which failed its verification. -/
def troubledPast : List (Site × Step) :=
  [(emptyServer, .connect), (emptyServer, .close), (refusingServer, .tool .schema [])]

theorem call_after_any_history_troubled :
    let args : Arguments := [("label", .str "Person")]
    let link := (Step.runAll Guard.Policy.standard Link.initial troubledPast).1
    let o := (nodeCount.call Guard.Policy.standard args).run emptyServer Link.initial
    let o' := (nodeCount.call Guard.Policy.standard args).run refusingServer link
    (emptyServer.Alike refusingServer ∧ emptyServer.Serves Link.initial ∧
      link = ⟨some 1, 2⟩ ∧ refusingServer.Serves link) ∧
    (sent o.events).map Prod.fst = ["MATCH (n:\x60Person\x60) RETURN count(n) AS count"] ∧
    ∃ text, o.result = .ok text ∧ o'.result = .ok text ∧ sent o.events = sent o'.events := by
  intro args link o o'
  have alike : emptyServer.Alike refusingServer := ⟨rfl, rfl⟩
  have serves : emptyServer.Serves Link.initial := .inr ⟨rfl, rfl⟩
  have left : link = ⟨some 1, 2⟩ := rfl
  have serves' : refusingServer.Serves link := .inl (by rw [left]; rfl)
  obtain ⟨same, asked, answers, -⟩ := call_after_any_history Guard.Policy.standard nodeCount
    args [] troubledPast emptyServer refusingServer alike serves serves'
  obtain ⟨text, told⟩ := answers.mpr fun t tree => by
    obtain rfl := Answer.tree.inj (Except.ok.inj tree)
    exact (Tree.isWritable_iff _).mp (by decide)
  exact ⟨⟨alike, serves, left, serves'⟩, rfl, text, told, same ▸ told, asked⟩

end Tool

end CypherGate
