import Mathlib.Tactic.Choose
import CypherGate.Proofs.Conversation
/-!
# Requests in one sitting

A request either is refused before anything is asked of the database, or it is one session and a
conclusion drawn from what the session came to. Which of the two is told by its script.
-/
namespace CypherGate

open CypherGate.Action Trace Connection

variable {α β γ : Type}

/-- One session in which a script is followed, and a conclusion from its result. A session that
failed leads to no value. -/
def Sitting (script : Script) (action : Action α) : Prop :=
  ∃ (γ : Type) (body : Action γ) (conclude : Except Failure γ → Except Failure α),
    action = (withSession body).andThen (fun result => ofExcept (conclude result)) ∧
    (∀ failure, ∃ failure', conclude (.error failure) = .error failure') ∧ script.Follows body

namespace Sitting

variable {script : Script}

theorem of_follows {body : Action α} (h : script.Follows body) :
    Sitting script (withSession body) :=
  ⟨α, body, id, (andThen_ofExcept _).symm, fun failure => ⟨failure, rfl⟩, h⟩

theorem conclude {action : Action α} {next : Except Failure α → Action β}
    (h : Sitting script action) (silent : ∀ result, Silent (next result))
    (fails : ∀ failure, ∃ failure', next (.error failure) = fail failure') :
    Sitting script (action.andThen next) := by
  obtain ⟨δ, body, first, rfl, failed, follows⟩ := h
  have known : ∀ result, ∃ value, next result = ofExcept value ∧
      ∀ failure, result = .error failure → ∃ failure', value = .error failure' := by
    intro result
    cases result with
    | ok a =>
      obtain ⟨value, h⟩ := silent (.ok a)
      exact ⟨value, h, by simp⟩
    | error failure =>
      obtain ⟨failure', h⟩ := fails failure
      exact ⟨.error failure', h, fun _ _ => ⟨failure', rfl⟩⟩
  choose value next_eq value_fails using known
  refine ⟨δ, body, fun result => value (first result), ?_, ?_, follows⟩
  · rw [andThen_assoc]
    congr
    funext result
    rw [ofExcept_andThen, next_eq]
  · intro failure
    obtain ⟨failure', h⟩ := failed failure
    exact value_fails _ failure' h

theorem bind {action : Action α} {next : α → Action β} (h : Sitting script action)
    (silent : ∀ a, Silent (next a)) : Sitting script (action >>= next) := by
  refine h.conclude (fun result => ?_) (fun failure => ⟨failure, rfl⟩)
  cases result with
  | ok a => exact silent a
  | error failure => exact Silent.ofExcept (.error failure)

theorem map (f : α → β) {action : Action α} (h : Sitting script action) :
    Sitting script (f <$> action) :=
  h.bind fun a => Silent.ofExcept (.ok (f a))

theorem recover {action : Action α} {handler : Failure → Action α} (h : Sitting script action)
    (fails : ∀ failure, ∃ failure', handler failure = fail failure') :
    Sitting script (action.recover handler) := by
  refine h.conclude (fun result => ?_) fails
  cases result with
  | ok a => exact Silent.ofExcept (.ok a)
  | error failure =>
    obtain ⟨failure', h⟩ := fails failure
    exact ⟨.error failure', h⟩

end Sitting

namespace Request

/-- What a request comes to by its script: it is refused, which only the log tells, or it is done in
one sitting. -/
def Shaped (script : Except Failure Script) (action : Action α) : Prop :=
  match script with
  | .error failure => ∃ logs, Unseen logs ∧
    ∀ site link, action.run site link = ⟨.error failure, link, logs⟩
  | .ok script => Sitting script action

namespace Shaped

theorem map {script : Except Failure Script} (f : α → β) {action : Action α}
    (h : Shaped script action) : Shaped script (f <$> action) := by
  cases script with
  | ok script => exact Sitting.map f h
  | error failure =>
    obtain ⟨logs, unseen, run⟩ := h
    refine ⟨logs, unseen, fun site link => ?_⟩
    rw [run_map, run]
    rfl

theorem check (checked : Except Failure γ) {script : γ → Except Failure Script}
    {next : γ → Action α} (h : ∀ a, checked = .ok a → Shaped (script a) (next a)) :
    Shaped (checked >>= script) (ofExcept checked >>= next) := by
  cases checked with
  | ok a =>
    rw [show ofExcept (Except.ok a) >>= next = next a from ofExcept_andThen _ _]
    exact h a rfl
  | error failure =>
    refine ⟨[], by simp [Unseen], fun site link => ?_⟩
    rfl

end Shaped

theorem optionalIdentifier_eq (role : String) (name : Option String) :
    optionalIdentifier role name = ofExcept (namedOptional role name) := by
  unfold optionalIdentifier namedOptional
  cases name.filter (· ≠ "") with
  | none => rfl
  | some name =>
    dsimp only [identifier, named]
    cases Identifier.ofName role name <;> rfl

theorem sampleTemplate_eq (args : SampleArguments) :
    sampleTemplate args = ofExcept (sampled args) := by
  unfold sampleTemplate sampled
  simp only [optionalIdentifier_eq]
  split
  · cases namedOptional labelRole args.label <;> rfl
  · cases namedOptional typeRole args.relationshipType with
    | ok type => cases type <;> rfl
    | error failure => rfl

theorem runQuery_shaped (guard : Guard) (q parameters : Value) :
    Shaped ((query q parameters).script guard) (runQuery guard q parameters) := by
  refine .check _ fun args _ => ?_
  cases guard.classify args.query with
  | rejected refusal =>
    let shown := String.ofList (args.query.toList.take 200)
    refine ⟨[.logged ⟨.warning, .requests, s!"Rejected query ({refusal.reason}): {shown}"⟩], ?_,
      fun site link => ?_⟩
    · simp [Unseen, Event.isLogged]
    · simp [Outcome.after, shown]
  | safe =>
    refine (Sitting.of_follows (fetch_follows (args.query, args.parameters))).bind fun reply => ?_
    exact (Silent.ofExcept _).bind fun _ => Silent.ofExcept _

theorem runSchema_shaped (guard : Guard) : Shaped (schema.script guard) runSchema := by
  refine Sitting.bind (.of_follows ?_) fun _ => ?_
  · exact (rows_follows _).bind fun _ => (rows_follows _).bind fun _ =>
      (rows_follows _).bind fun _ => Script.follows_ofExcept _
  · exact (Silent.ofExcept _).bind fun _ => (Silent.ofExcept _).bind fun _ =>
      (Silent.ofExcept _).bind fun _ => Silent.ofExcept _

theorem runTestConnection_shaped (guard : Guard) :
    Shaped (testConnection.script guard) runTestConnection :=
  ((Sitting.of_follows (rows_follows .ping)).bind fun _ => Silent.ofExcept _).recover
    fun _ => ⟨_, rfl⟩

theorem runNodeCount_shaped (guard : Guard) (label : Value) :
    Shaped ((nodeCount label).script guard) (runNodeCount label) := by
  refine .check _ fun label _ => ?_
  rw [optionalIdentifier_eq]
  refine .check _ fun name _ => ?_
  exact (Sitting.of_follows (countRows_follows _ _)).bind fun _ => Silent.ofExcept _

theorem runRelationshipCount_shaped (guard : Guard) (type : Value) :
    Shaped ((relationshipCount type).script guard) (runRelationshipCount type) := by
  refine .check _ fun type _ => ?_
  rw [optionalIdentifier_eq]
  refine .check _ fun name _ => ?_
  exact (Sitting.of_follows (countRows_follows _ _)).bind fun _ => Silent.ofExcept _

theorem runDatabaseInfo_shaped (guard : Guard) :
    Shaped (databaseInfo.script guard) runDatabaseInfo := by
  refine Sitting.bind (.of_follows ?_) fun _ => Silent.ofExcept _
  exact (rows_follows _).bind fun _ => (countRows_follows _ _).bind fun _ =>
    (countRows_follows _ _).bind fun _ => Script.follows_ofExcept _

theorem runSampleData_shaped (guard : Guard) (label relationshipType limit : Value) :
    Shaped ((sampleData label relationshipType limit).script guard)
      (runSampleData label relationshipType limit) := by
  refine .check _ fun args _ => ?_
  rw [sampleTemplate_eq]
  refine .check _ fun template _ => ?_
  exact (Sitting.of_follows (rows_follows template)).bind fun _ => Silent.ofExcept _

theorem runNodeProperties_shaped (guard : Guard) (label : Value) :
    Shaped ((nodeProperties label).script guard) (runNodeProperties label) := by
  refine .check _ fun label _ => .check _ fun name _ => ?_
  exact (Sitting.of_follows (findProperties_follows (.nodes name))).bind fun _ => Silent.ofExcept _

theorem runRelationshipProperties_shaped (guard : Guard) (type : Value) :
    Shaped ((relationshipProperties type).script guard) (runRelationshipProperties type) := by
  refine .check _ fun type _ => .check _ fun name _ => ?_
  exact (Sitting.of_follows (findProperties_follows (.relationships name))).bind
    fun _ => Silent.ofExcept _

theorem run_shaped (guard : Guard) (request : Request) :
    Shaped (request.script guard) (request.run guard) := by
  cases request with
  | query q parameters => exact (runQuery_shaped guard q parameters).map _
  | schema => exact (runSchema_shaped guard).map _
  | testConnection => exact (runTestConnection_shaped guard).map _
  | nodeCount label => exact (runNodeCount_shaped guard label).map _
  | relationshipCount type => exact (runRelationshipCount_shaped guard type).map _
  | databaseInfo => exact (runDatabaseInfo_shaped guard).map _
  | indexes => exact (Sitting.of_follows (rows_follows .indexes)).bind fun _ => Silent.ofExcept _
  | constraints =>
    exact (Sitting.of_follows (rows_follows .constraints)).bind fun _ => Silent.ofExcept _
  | sampleData label relationshipType limit =>
    exact (runSampleData_shaped guard label relationshipType limit).map _
  | nodeProperties label => exact (runNodeProperties_shaped guard label).map _
  | relationshipProperties type => exact (runRelationshipProperties_shaped guard type).map _

end Request

end CypherGate
