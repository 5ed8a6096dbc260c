import CypherGate.Proofs.Lifecycle
import CypherGate.Proofs.Script
/-!
# Following a script

Within a session an action leaves the link as it is and sends the queries of its script in order. It
stops at the first fault that the script does not absorb, and comes to a value only at the end.
-/
namespace CypherGate

open CypherGate.Action Trace Connection

variable {α β : Type}

/-- An action that does nothing and only comes to a result. -/
def Action.Silent (action : Action α) : Prop := ∃ result, action = ofExcept result

theorem Action.Silent.ofExcept (result : Except Failure α) : Silent (ofExcept result) :=
  ⟨result, rfl⟩

theorem Action.Silent.bind {action : Action α} {next : α → Action β} (h : Silent action)
    (k : ∀ a, Silent (next a)) : Silent (action >>= next) := by
  obtain ⟨result, rfl⟩ := h
  cases result with
  | error failure => exact ⟨.error failure, ofExcept_andThen _ _⟩
  | ok a =>
    obtain ⟨result, h⟩ := k a
    exact ⟨result, (ofExcept_andThen _ _).trans h⟩

namespace Script

/-- What came of a script on a link. -/
structure Followed (script : Script) (db : Database) (link : Link) (o : Outcome α) : Prop where
  same_link : o.link = link
  talk : Talk o.events
  in_order : sent o.events <+: script.path db
  stops : ∀ q ∈ (sent o.events).dropLast, script.Passes db q
  complete : ∀ a, o.result = .ok a →
    sent o.events = script.path db ∧ ∀ q ∈ script.path db, script.Passes db q

def Follows (script : Script) (action : Action α) : Prop :=
  ∀ site link, script.Followed site.database link (action.run site link)

theorem passes_of_fault?_eq_none {script : Script} {db : Database} {q : Query}
    (h : db.fault? q = none) : script.Passes db q := by
  intro fault hf
  simp [h] at hf

theorem follows_ofExcept (r : Except Failure α) : (inOrder []).Follows (ofExcept r) := by
  intro site link
  constructor <;> simp [Talk, Script.path]

theorem Follows.bind {qs rs : List Query} {action : Action α} {next : α → Action β}
    (h : (inOrder qs).Follows action) (k : ∀ a, (inOrder rs).Follows (next a)) :
    (inOrder (qs ++ rs)).Follows (action >>= next) := by
  intro site link
  have first := h site link
  cases r : (action.run site link).result with
  | error failure =>
    rw [run_bind_error r]
    refine ⟨first.same_link, first.talk, ?_, first.stops, ?_⟩
    · exact first.in_order.trans (List.prefix_append qs rs)
    · intro a ha
      cases ha
  | ok a =>
    rw [run_bind_ok r]
    have second := k a site (action.run site link).link
    obtain ⟨all, passed⟩ := first.complete a r
    refine ⟨second.same_link.trans first.same_link, first.talk.append second.talk, ?_, ?_, ?_⟩
    · simp only [Outcome.after_events, sent_append, all]
      exact (List.prefix_append_right_inj qs).mpr second.in_order
    · intro q hq
      simp only [Outcome.after_events, sent_append, all, path, List.dropLast_append] at hq
      split at hq
      · exact passed q (List.dropLast_subset qs hq)
      · rcases List.mem_append.mp hq with hq | hq
        · exact passed q hq
        · exact second.stops q hq
    · intro b hb
      obtain ⟨all', passed'⟩ := second.complete b hb
      constructor
      · simp [all, all', path]
      · intro q hq
        rcases List.mem_append.mp hq with hq | hq
        · exact passed q hq
        · exact passed' q hq

section

variable {db : Database} {link : Link} {first second : Query} {result : Except Failure α}

theorem followed_first (answered : ∀ a, result = .ok a → db.fault? first = none) :
    (withFallback first second).Followed db link ⟨result, link, [.sent first.1 first.2]⟩ := by
  constructor
  · rfl
  · simp [Talk, Event.query?]
  · simp only [sent_cons, Event.query?, path]
    split <;> simp
  · simp [Event.query?]
  · intro a ha
    have none := answered a ha
    simp [Event.query?, path, none, passes_of_fault?_eq_none none]

theorem followed_second {fault : Fault} (record : LogRecord) (fails : db.fault? first = some fault)
    (failed : isFailedQuery fault) (answered : ∀ a, result = .ok a → db.fault? second = none) :
    (withFallback first second).Followed db link
      ⟨result, link, [.sent first.1 first.2, .logged record, .sent second.1 second.2]⟩ := by
  have passes : (withFallback first second).Passes db first := by
    intro fault' h
    rw [fails] at h
    cases h
    exact ⟨rfl, failed⟩
  constructor
  · rfl
  · simp [Talk, Event.query?, Event.isLogged]
  · simp [Event.query?, path, fails, failed]
  · simpa [Event.query?] using passes
  · intro a ha
    have none := answered a ha
    simp [Event.query?, path, fails, failed, passes, passes_of_fault?_eq_none none]

end

end Script

namespace Connection

def replyTo (db : Database) (q : Query) : Except Failure (List Row × Option Summary) :=
  match db.fault? q with
  | some fault => .error (queryFailure fault)
  | none => .ok ((db.reply q.1 q.2).rows, (db.reply q.1 q.2).summary)

theorem fetch_run (q : Query) (site : Site) (link : Link) :
    (fetch q.1 q.2).run site link = ⟨replyTo site.database q, link, [.sent q.1 q.2]⟩ := by
  unfold fetch replyTo Database.fault?
  cases h : (site.database.reply q.1 q.2).fault <;> simp [h, Outcome.after]

theorem fetch_follows (q : Query) : (Script.inOrder [q]).Follows (fetch q.1 q.2) := by
  intro site link
  rw [fetch_run]
  constructor
  · rfl
  · simp [Talk, Event.query?]
  · simp [Event.query?, Script.path]
  · simp [Event.query?]
  · intro a ha
    have answered : site.database.fault? q = none := by
      cases h : site.database.fault? q with
      | none => rfl
      | some fault => simp [replyTo, h] at ha
    simp [Event.query?, Script.path, Script.passes_of_fault?_eq_none answered]

end Connection

namespace Request

def rowsOf (db : Database) (template : Template) : Except Failure (List PlainRow) :=
  replyTo db template.query >>= fun (rows, _) =>
    ((rows.mapM normalizeRow).mapError .numeral).mapError .data

theorem rows_run (template : Template) (site : Site) (link : Link) :
    (rows template).run site link =
      ⟨rowsOf site.database template, link, [.sent template.text []]⟩ := by
  refine (run_bind_ofExcept (fetch template.text []) _ site link).trans ?_
  rw [show fetch template.text [] = fetch template.query.1 template.query.2 from rfl, fetch_run]
  rfl

theorem rows_follows (template : Template) :
    (Script.inOrder [template.query]).Follows (rows template) :=
  (fetch_follows template.query).bind fun _ => Script.follows_ofExcept _

theorem countRows_follows (template : Template) (name : String) :
    (Script.inOrder [template.query]).Follows (countRows template name) :=
  (rows_follows template).bind fun _ => Script.follows_ofExcept _

section

variable {template : Template} {site : Site} {link : Link}

theorem some_rows_run : (some <$> rows template).run site link =
    ⟨some <$> rowsOf site.database template, link, [.sent template.text []]⟩ := by
  rw [run_map, rows_run]

theorem attempt_of_ok {found : List PlainRow} (h : rowsOf site.database template = .ok found) :
    (attempt template).run site link = ⟨.ok (some found), link, [.sent template.text []]⟩ := by
  rw [attempt, recover_ok (a := some found) (by rw [some_rows_run, h]; rfl), some_rows_run, h]
  rfl

theorem attempt_of_failedQuery (link : Link) {cause : Fault}
    (h : rowsOf site.database template = .error (.execution cause)) :
    ∃ message, (attempt template).run site link = ⟨.ok none, link,
      [.sent template.text [], .logged ⟨.warning, .requests, message⟩]⟩ := by
  refine ⟨s!"Optional query failed, using fallback: {cause.detail}", ?_⟩
  rw [attempt, recover_error (by rw [some_rows_run, h]; rfl), some_rows_run]
  rfl

theorem attempt_of_error {failure : Failure} (h : rowsOf site.database template = .error failure)
    (other : ∀ cause, failure ≠ .execution cause) :
    (attempt template).run site link = ⟨.error failure, link, [.sent template.text []]⟩ := by
  rw [attempt, recover_error (by rw [some_rows_run, h]; rfl), some_rows_run]
  cases failure with
  | execution cause => exact absurd rfl (other cause)
  | _ => rfl

end

theorem fault?_of_rowsOf_eq_ok {db : Database} {template : Template} {found : List PlainRow}
    (h : rowsOf db template = .ok found) : db.fault? template.query = none := by
  cases k : db.fault? template.query with
  | none => rfl
  | some fault =>
    simp only [rowsOf, replyTo, k] at h
    cases h

theorem fault?_of_rowsOf_eq_failedQuery {db : Database} {template : Template} {cause : Fault}
    (h : rowsOf db template = .error (.execution cause)) :
    ∃ fault, db.fault? template.query = some fault ∧ Script.isFailedQuery fault := by
  cases k : db.fault? template.query with
  | none =>
    simp only [rowsOf, replyTo, k, bind, Except.bind] at h
    cases r : (db.reply template.query.1 template.query.2).rows.mapM normalizeRow with
    | ok rows =>
      rw [r] at h
      cases h
    | error numeral =>
      rw [r] at h
      cases h
  | some fault =>
    refine ⟨fault, rfl, ?_⟩
    simp only [rowsOf, replyTo, k, bind, Except.bind, Except.error.injEq] at h
    simp [Script.isFailedQuery, h]

theorem listing_silent (convert : PlainRow → Except DataError Property) (found : List PlainRow)
    (typed : Bool) :
    Silent (do
      let properties ← ofData (found.mapM convert)
      return (← ofData (Property.rank properties), typed)) :=
  (Silent.ofExcept _).bind fun _ => (Silent.ofExcept _).bind fun _ => Silent.ofExcept _

theorem findProperties_follows (subject : Subject) :
    (propertyScript subject).Follows (findProperties subject) := by
  intro site link
  unfold findProperties
  cases typed : rowsOf site.database (.typedProperties subject) with
  | ok found =>
    obtain ⟨result, silent⟩ := listing_silent Property.ofTypedRow found true
    rw [run_bind_ok (by rw [attempt_of_ok typed]), attempt_of_ok typed]
    simp only [silent, run_ofExcept]
    exact Script.followed_first fun _ _ => fault?_of_rowsOf_eq_ok typed
  | error failure =>
    by_cases execution : ∃ cause, failure = .execution cause
    · obtain ⟨cause, rfl⟩ := execution
      obtain ⟨fault, fails, failed⟩ := fault?_of_rowsOf_eq_failedQuery typed
      obtain ⟨message, attempted⟩ := attempt_of_failedQuery link typed
      rw [run_bind_ok (by rw [attempted]), attempted]
      cases untyped : rowsOf site.database (.untypedProperties subject) with
      | ok found =>
        obtain ⟨result, silent⟩ := listing_silent Property.ofUntypedRow found false
        rw [run_bind_ok (by rw [rows_run, untyped]), rows_run, silent]
        exact Script.followed_second _ fails failed fun _ _ => fault?_of_rowsOf_eq_ok untyped
      | error failure =>
        rw [run_bind_error (by rw [rows_run, untyped]), rows_run]
        exact Script.followed_second _ fails failed fun a ha => by cases ha
    · have other : ∀ cause, failure ≠ .execution cause := fun cause h => execution ⟨cause, h⟩
      rw [run_bind_error (by rw [attempt_of_error typed other]), attempt_of_error typed other]
      exact Script.followed_first fun a ha => by cases ha

end Request

end CypherGate
