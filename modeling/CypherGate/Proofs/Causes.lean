import CypherGate.Proofs.Conversation
import CypherGate.Proofs.Vetting
/-!
# Causes of failed queries

A query that meets a fault of the database fails with a message of its own. The words that the fault was
raised with stand in that message, except those of the client library: other than the loss of the server,
all its faults are told by one fixed sentence.
-/
namespace CypherGate

namespace Fault

/-- What a fault was raised with. -/
def words : Fault → String
  | .server _ text | .service _ text | .client _ text | .system _ text => text
  | .coded _ message => message

/-- The words of a fault can be read in a message. -/
def ToldBy (fault : Fault) (message : String) : Prop := fault.words.toList <:+: message.toList

def ofClient : Fault → Bool
  | .client _ _ => true
  | _ => false

theorem infix_knownMessage (message : String) : message.toList <:+: (knownMessage message).toList := by
  unfold knownMessage
  split
  next empty =>
    rw [empty]
    exact List.nil_infix
  next => exact List.infix_rfl

theorem toldBy_append (fault : Fault) (head : String) : fault.ToldBy (head ++ fault.words) := by
  rw [ToldBy, String.toList_append]
  exact (List.suffix_append head.toList fault.words.toList).isInfix

end Fault

namespace Connection

open CypherGate.Action CypherGate.Step

variable {fault : Fault}

theorem queryFailure_ofDatabase (ofDatabase : fault.ofDatabase) :
    queryFailure fault = .unavailable fault ∨ queryFailure fault = .execution fault := by
  cases fault with
  | service kind text => exact .inl rfl
  | server kind text | coded code message | client kind text => exact .inr rfl
  | system kind text => cases ofDatabase

theorem toldBy_queryFailure (ofDatabase : fault.ofDatabase) (other : ¬fault.ofClient) :
    fault.ToldBy (queryFailure fault).message := by
  cases fault with
  | server kind text => exact List.infix_rfl
  | coded code message => exact Fault.infix_knownMessage message
  | service kind text => exact Fault.toldBy_append (.service kind text) "Neo4j is unavailable: "
  | client kind text => exact absurd rfl other
  | system kind text => cases ofDatabase

theorem message_queryFailure (client : fault.ofClient) :
    (queryFailure fault).message = Fault.clientSentence := by
  cases fault with
  | client kind text => rfl
  | server kind text | coded code message | service kind text | system kind text => cases client

/-- At whatever stage the database fails a query, the query fails as one that the database failed or, if
the server was lost, as one for which there is none. The message tells the cause, whatever its words are,
but all faults of the client library are told by the same sentence. -/
theorem fetch_tells_cause (q : Query) (site : Site) (link : Link) {stage : Stage}
    (met : (site.database.reply q.1 q.2).fault = some (stage, fault)) (ofDatabase : fault.ofDatabase) :
    ∃ failure, (fetch q.1 q.2).run site link = ⟨.error failure, link, [.sent q.1 q.2]⟩ ∧
      (failure = .unavailable fault ∨ failure = .execution fault) ∧
      (¬fault.ofClient → fault.ToldBy failure.message) ∧
      (fault.ofClient → failure.message = Fault.clientSentence) := by
  have fails : replyTo site.database q = .error (queryFailure fault) := by
    simp [replyTo, Database.fault?, met]
  exact ⟨queryFailure fault, by rw [fetch_run, fails], queryFailure_ofDatabase ofDatabase,
    toldBy_queryFailure ofDatabase, message_queryFailure⟩

/-- A server that fails every query with one fault. -/
def failingServer (stage : Stage) (fault : Fault) : Site :=
  { emptyServer with database :=
    { emptyServer.database with reply := fun _ _ => ⟨[], none, some (stage, fault)⟩ } }

/-- A server's fault with a code, met when the result is discarded. -/
theorem fetch_tells_cause_coded :
    let fault : Fault := .coded "Neo.ClientError.Statement.SyntaxError" "Invalid input"
    let site := failingServer .consume fault
    ((site.database.reply "RETURN" []).fault = some (.consume, fault) ∧ fault.ofDatabase) ∧
      ∃ failure, (fetch "RETURN" []).run site Link.initial =
          ⟨.error failure, Link.initial, [.sent "RETURN" []]⟩ ∧
        (failure = .unavailable fault ∨ failure = .execution fault) ∧
        fault.ToldBy failure.message := by
  intro fault site
  have met : (site.database.reply "RETURN" []).fault = some (.consume, fault) := rfl
  obtain ⟨failure, run, failed, told, -⟩ :=
    fetch_tells_cause ("RETURN", []) site Link.initial met rfl
  exact ⟨⟨met, rfl⟩, failure, run, failed, told nofun⟩

/-- The words of a session that has expired are nowhere in the message. -/
theorem fetch_hides_client_cause :
    let fault : Fault := .client .sessionExpired "no route to host"
    ∃ failure, ((fetch "RETURN 1" []).run (failingServer .run fault) Link.initial).result =
      .error failure ∧ ¬fault.ToldBy failure.message := by
  intro fault
  refine ⟨.execution fault, rfl, ?_⟩
  unfold Fault.ToldBy
  decide +kernel

end Connection

end CypherGate
