import CypherGate.Proofs.Faithful
import CypherGate.Proofs.Vetting
/-!
# Failures in the log

A failed call leaves a record of level warning or above, written where the failure came about or by the
tool itself. A tool says nothing of what the guard refused, for the guard's refusals of queries have been
logged with the request; but no part logs that a name was refused, and such a call leaves no trace at all.
-/
namespace CypherGate

open CypherGate.Action Trace Connection

variable {α β : Type}

def Event.isAlarm : Event → Bool
  | .logged record => record.level != .info
  | _ => false

def Trace.Alarmed (events : List Event) : Prop := ∃ e ∈ events, e.isAlarm

@[simp] theorem Trace.alarmed_append {es fs : List Event} :
    Alarmed (es ++ fs) ↔ Alarmed es ∨ Alarmed fs := by
  simp only [Alarmed, List.mem_append, or_and_right, exists_or]

@[simp] theorem Trace.not_alarmed_nil : ¬Alarmed [] := by simp [Alarmed]

@[simp] theorem Trace.alarmed_logged {record : LogRecord} :
    Alarmed [.logged record] ↔ record.level ≠ .info := by
  simp [Alarmed, Event.isAlarm]

/-- Neither a query nor a name is refused. -/
def Action.Unguarded (action : Action α) : Prop :=
  ∀ site link failure, (action.run site link).result = .error failure →
    failure.part? ≠ some .guard

namespace Action.Unguarded

theorem settled {result : Except Failure α}
    (h : ∀ failure, result = .error failure → failure.part? ≠ some .guard) :
    Unguarded (ofExcept result) :=
  fun _ _ failure => h failure

theorem pure (a : α) : Unguarded (Pure.pure a) := by
  rintro site link failure ⟨⟩

theorem fail {failure : Failure} (h : failure.part? ≠ some .guard) :
    Unguarded (fail failure : Action α) := by
  rintro site link _ ⟨⟩
  exact h

theorem bind {action : Action α} {next : α → Action β} (h : Unguarded action)
    (k : ∀ a, Unguarded (next a)) : Unguarded (action >>= next) := by
  intro site link failure failed
  cases r : (action.run site link).result with
  | ok a =>
    rw [run_bind_ok r] at failed
    exact k a site _ failure failed
  | error cause =>
    rw [run_bind_error r] at failed
    obtain rfl := Except.error.inj failed
    exact h site link cause r

theorem recover {action : Action α} {handler : Failure → Action α} (h : Unguarded action)
    (k : ∀ failure, failure.part? ≠ some .guard → Unguarded (handler failure)) :
    Unguarded (action.recover handler) := by
  intro site link failure failed
  cases r : (action.run site link).result with
  | ok a =>
    rw [recover_ok r, r] at failed
    cases failed
  | error cause =>
    rw [recover_error r] at failed
    exact k cause (h site link cause r) site _ failure failed

theorem map (f : α → β) {action : Action α} (h : Unguarded action) : Unguarded (f <$> action) :=
  h.bind fun a => pure (f a)

end Action.Unguarded

namespace Connection

theorem creationFailure_unguarded (fault : Fault) :
    (creationFailure fault).part? ≠ some .guard := by
  unfold creationFailure
  split <;> simp [Failure.part?]

theorem openDriver_unguarded : Unguarded openDriver := by
  intro site link failure failed
  cases create : site.database.create site.endpoint with
  | none =>
    rw [openDriver_of_none create] at failed
    cases failed
  | some fault =>
    obtain ⟨logs, -, run⟩ := openDriver_of_some link create
    rw [run] at failed
    cases failed
    exact creationFailure_unguarded fault

theorem verify_unguarded (driver : Nat) : Unguarded (verify driver) := by
  intro site link failure failed
  obtain ⟨record, run⟩ := verify_run driver site link
  rw [run] at failed
  unfold verification at failed
  split at failed
  · cases failed
  · cases failed
    simp [Failure.part?]

theorem connect_unguarded : Unguarded connect := by
  intro site link failure failed
  cases inPlace : link.driver with
  | some driver =>
    rw [connect_of_some inPlace] at failed
    cases failed
  | none =>
    rw [connect_of_none inPlace] at failed
    exact (openDriver_unguarded.bind verify_unguarded) site link failure failed

theorem withSession_unguarded {body : Action α} (h : Unguarded body) :
    Unguarded (withSession body) := by
  intro site link failure failed
  cases connected : (connect.run site link).result with
  | ok driver =>
    rw [withSession_of_ok body connected] at failed
    exact h site _ failure failed
  | error cause =>
    rw [withSession_of_error body connected] at failed
    obtain rfl : cause = failure := Except.error.inj failed
    exact connect_unguarded site link cause connected

theorem fetch_unguarded (query : String) (parameters : List (String × Value)) :
    Unguarded (fetch query parameters) := by
  intro site link failure failed
  rw [fetch_run (query, parameters)] at failed
  unfold replyTo at failed
  split at failed
  next fault _ =>
    cases failed
    cases fault <;> simp [queryFailure, Failure.part?]
  next => cases failed

end Connection

namespace Request

theorem ofData_unguarded (result : Except DataError α) : Unguarded (ofData result) := by
  refine .settled fun failure failed => ?_
  cases result <;> cases failed
  simp [Failure.part?]

theorem rows_unguarded (template : Template) : Unguarded (rows template) :=
  (fetch_unguarded _ _).bind fun _ => ofData_unguarded _

theorem countRows_unguarded (template : Template) (name : String) :
    Unguarded (countRows template name) :=
  (rows_unguarded template).bind fun _ => ofData_unguarded _

theorem attempt_unguarded (template : Template) : Unguarded (attempt template) := by
  refine ((rows_unguarded template).map some).recover fun failure other => ?_
  cases failure with
  | execution cause =>
    rintro site link failure ⟨⟩
  | _ => exact .fail other

theorem findProperties_unguarded (subject : Subject) : Unguarded (findProperties subject) := by
  refine (attempt_unguarded _).bind fun typed => ?_
  cases typed with
  | some rows =>
    exact (ofData_unguarded _).bind fun _ => (ofData_unguarded _).bind fun _ => .pure _
  | none =>
    exact (rows_unguarded _).bind fun _ => (ofData_unguarded _).bind fun _ =>
      (ofData_unguarded _).bind fun _ => .pure _

/-! ## Refusals -/

/-- A check may refuse names and arguments, but no query. -/
def SparesQueries (checked : Except Failure α) : Prop :=
  ∀ refusal, checked ≠ .error (.rejected refusal)

namespace SparesQueries

theorem ok (a : α) : SparesQueries (.ok a) := by
  rintro refusal ⟨⟩

theorem bind {checked : Except Failure α} {next : α → Except Failure β} (h : SparesQueries checked)
    (k : ∀ a, SparesQueries (next a)) : SparesQueries (checked >>= next) := by
  cases checked with
  | ok a => exact k a
  | error failure =>
    rintro refusal ⟨⟩
    exact h refusal rfl

theorem map (f : α → β) {checked : Except Failure α} (h : SparesQueries checked) :
    SparesQueries (f <$> checked) := by
  rw [map_eq_pure_bind]
  exact h.bind fun a => ok (f a)

end SparesQueries

/-- What the guard refuses is told by the events: an alarm for a query, none for a name. -/
def Reports (action : Action α) : Prop :=
  ∀ site link, (∀ refusal, (action.run site link).result = .error (.rejected refusal) →
      Alarmed (action.run site link).events) ∧
    ∀ name, (action.run site link).result = .error (.unsafeName name) →
      ¬Alarmed (action.run site link).events

namespace Reports

theorem of_unguarded {action : Action α} (h : Unguarded action) : Reports action :=
  fun site link => ⟨fun _ failed => absurd rfl (h site link _ failed),
    fun _ failed => absurd rfl (h site link _ failed)⟩

theorem map (f : α → β) {action : Action α} (h : Reports action) : Reports (f <$> action) := by
  intro site link
  rw [run_map]
  cases r : (action.run site link).result with
  | ok a => exact ⟨fun _ failed => (by cases failed), fun _ failed => (by cases failed)⟩
  | error failure =>
    refine ⟨fun refusal failed => ?_, fun name failed => ?_⟩
    · cases failed
      exact (h site link).1 refusal r
    · cases failed
      exact (h site link).2 name r

theorem check {γ : Type} {checked : Except Failure γ} {next : γ → Action α}
    (h : SparesQueries checked) (k : ∀ a, Reports (next a)) :
    Reports (ofExcept checked >>= next) := by
  cases checked with
  | ok a =>
    rw [show ofExcept (Except.ok a) >>= next = next a from ofExcept_andThen _ _]
    exact k a
  | error failure =>
    intro site link
    refine ⟨fun refusal failed => ?_, fun name _ => not_alarmed_nil⟩
    cases failed
    exact absurd rfl (h refusal)

end Reports

theorem accepted_spares (checked : Checked α) : SparesQueries (accepted checked) := by
  cases checked <;> rintro refusal ⟨⟩

theorem named_spares (role name : String) : SparesQueries (named role name) := by
  unfold named
  cases Identifier.ofName role name <;> rintro refusal ⟨⟩

theorem namedOptional_spares (role : String) (name : Option String) :
    SparesQueries (namedOptional role name) := by
  unfold namedOptional
  split
  · exact (named_spares role _).map some
  · exact .ok none

theorem sampled_spares (args : SampleArguments) : SparesQueries (sampled args) := by
  unfold sampled
  split
  · exact (namedOptional_spares labelRole args.label).bind fun _ => .ok _
  · refine (namedOptional_spares typeRole args.relationshipType).bind fun type => ?_
    cases type <;> exact .ok _

theorem runQuery_reports (guard : Guard) (q parameters : Value) :
    Reports (runQuery guard q parameters) := by
  refine .check (accepted_spares _) fun args => ?_
  cases guard.classify args.query with
  | rejected refusal =>
    intro site link
    refine ⟨fun _ _ => by simp, fun name failed => ?_⟩
    cases failed
  | safe =>
    refine .of_unguarded ((withSession_unguarded (fetch_unguarded _ _)).bind fun reply => ?_)
    exact (ofData_unguarded _).bind fun _ => .pure _

theorem runSchema_unguarded : Unguarded runSchema := by
  refine (withSession_unguarded ?_).bind fun _ => (ofData_unguarded _).bind fun _ =>
    (ofData_unguarded _).bind fun _ => (ofData_unguarded _).bind fun _ => .pure _
  exact (rows_unguarded _).bind fun _ => (rows_unguarded _).bind fun _ =>
    (rows_unguarded _).bind fun _ => .pure _

theorem runTestConnection_unguarded : Unguarded runTestConnection := by
  refine ((withSession_unguarded (rows_unguarded _)).bind fun _ => .pure _).recover
    fun failure other => .fail ?_
  split
  · simp [Failure.part?]
  · exact other

theorem runNodeCount_reports (label : Value) : Reports (runNodeCount label) := by
  refine .check (accepted_spares _) fun label => ?_
  rw [optionalIdentifier_eq]
  refine .check (namedOptional_spares _ _) fun name => .of_unguarded ?_
  exact (withSession_unguarded (countRows_unguarded _ _)).bind fun _ => .pure _

theorem runRelationshipCount_reports (type : Value) : Reports (runRelationshipCount type) := by
  refine .check (accepted_spares _) fun type => ?_
  rw [optionalIdentifier_eq]
  refine .check (namedOptional_spares _ _) fun name => .of_unguarded ?_
  exact (withSession_unguarded (countRows_unguarded _ _)).bind fun _ => .pure _

theorem runDatabaseInfo_unguarded : Unguarded runDatabaseInfo := by
  refine (withSession_unguarded ?_).bind fun _ => .pure _
  exact (rows_unguarded _).bind fun _ => (countRows_unguarded _ _).bind fun _ =>
    (countRows_unguarded _ _).bind fun _ => .pure _

theorem runSampleData_reports (label relationshipType limit : Value) :
    Reports (runSampleData label relationshipType limit) := by
  refine .check (accepted_spares _) fun args => ?_
  rw [sampleTemplate_eq]
  refine .check (sampled_spares args) fun template => .of_unguarded ?_
  exact (withSession_unguarded (rows_unguarded template)).bind fun _ => .pure _

theorem runNodeProperties_reports (label : Value) : Reports (runNodeProperties label) := by
  refine .check (accepted_spares _) fun label => .check (named_spares _ _) fun name => .of_unguarded ?_
  exact (withSession_unguarded (findProperties_unguarded _)).bind fun _ => .pure _

theorem runRelationshipProperties_reports (type : Value) :
    Reports (runRelationshipProperties type) := by
  refine .check (accepted_spares _) fun type => .check (named_spares _ _) fun name => .of_unguarded ?_
  exact (withSession_unguarded (findProperties_unguarded _)).bind fun _ => .pure _

theorem run_reports (guard : Guard) (request : Request) : Reports (request.run guard) := by
  cases request with
  | query q parameters => exact (runQuery_reports guard q parameters).map _
  | schema => exact .of_unguarded (runSchema_unguarded.map _)
  | testConnection => exact .of_unguarded (runTestConnection_unguarded.map _)
  | nodeCount label => exact (runNodeCount_reports label).map _
  | relationshipCount type => exact (runRelationshipCount_reports type).map _
  | databaseInfo => exact .of_unguarded (runDatabaseInfo_unguarded.map _)
  | indexes | constraints =>
    exact .of_unguarded ((withSession_unguarded (rows_unguarded _)).bind fun _ => .pure _)
  | sampleData label type limit => exact (runSampleData_reports label type limit).map _
  | nodeProperties label => exact (runNodeProperties_reports label).map _
  | relationshipProperties type => exact (runRelationshipProperties_reports type).map _

end Request

namespace Tool

open Step

theorem logFailure_alarmed (tool : Tool) (failure : Failure) (site : Site) (link : Link) :
    Alarmed ((tool.logFailure failure).run site link).events ↔ failure.part? ≠ some .guard := by
  unfold logFailure
  split
  next byGuard => simp [byGuard]
  next part other byPart => simpa [byPart] using other
  next byNone => simp [byNone]

theorem call_alarmed {guard : Guard} {tool : Tool} {args : Arguments} {site : Site} {link : Link}
    {failure : Failure}
    (failed : (((tool.request args).run guard).run site link).result = .error failure) :
    Alarmed ((tool.call guard args).run site link).events ↔
      Alarmed (((tool.request args).run guard).run site link).events ∨
        failure.part? ≠ some .guard := by
  rw [call_of_error failed, alarmed_append, logFailure_alarmed]

/-- Whatever went before and whatever the database does: a call that answers with a failure has left a
warning or an error in the log, unless a name was refused. Of that there is none. -/
theorem call_logged_iff (guard : Guard) (tool : Tool) (args : Arguments) (site : Site)
    (link : Link) :
    let inner := ((tool.request args).run guard).run site link
    let o := (tool.call guard args).run site link
    ((∃ text, o.result = .ok text) ↔ ∀ t, inner.result = .ok (.tree t) → t.Writable) ∧
      ∀ text, o.result = .ok text → failureMark.toList <+: text.toList →
        (Alarmed o.events ↔ ∀ name, inner.result ≠ .error (.unsafeName name)) := by
  intro inner o
  refine ⟨call_answers_iff guard tool args site link, fun text answered marked => ?_⟩
  cases r : inner.result with
  | ok answer =>
    rw [show o = _ from call_of_ok r] at answered
    exact absurd marked (render_unmarked r answered)
  | error failure =>
    have told := (tool.request args).run_reports guard site link
    rw [show Alarmed o.events ↔ _ from call_alarmed r]
    cases failure with
    | rejected refusal => simp [told.1 refusal r]
    | unsafeName name => simp [told.2 name r, Failure.part?]
    | _ => simp [Failure.part?]

/-- A refused label leaves no trace. -/
theorem call_unlogged :
    let args : Arguments := [("label", .str "bad label")]
    let o := (nodeCount.call Guard.Policy.standard args).run emptyServer Link.initial
    o.result = .ok ("Error: Invalid label name 'bad label'. Labels must contain only letters, " ++
      "numbers, and underscores and must not start with a number.") ∧
    o.link = Link.initial ∧ ¬Alarmed o.events := by
  intro args o
  have silent : o.events = [] := rfl
  refine ⟨rfl, rfl, ?_⟩
  rw [silent]
  exact not_alarmed_nil

end Tool

end CypherGate
