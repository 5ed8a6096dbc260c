import CypherGate.Connection.Action
/-!
# The shared driver

One driver serves all requests. It is created and verified on first use, stays in place when
verification fails, and lives until it is closed; later use creates a new one. A request borrows
one session and gives it back on every way out.
-/
namespace CypherGate.Connection

open CypherGate.Action

def isCreationFault : Fault → Bool
  | .system .value _ => true
  | fault => fault.ofDatabase

/-- Creates a driver and puts it in place, unverified. -/
def openDriver : Action Nat := do
  let here ← site
  let endpoint := here.endpoint
  emit (.requested endpoint.uri endpoint.username endpoint.password)
  match here.database.create endpoint with
  | some fault =>
    if isCreationFault fault then
      log .connection .error
        s!"Failed to create Neo4j driver for {endpoint.uri}: {fault.text}"
      fail (.unconnected fault)
    else fail (.fault fault)
  | none =>
    let before ← link
    let driver := before.created
    setLink ⟨some driver, driver + 1⟩
    emit (.created driver)
    return driver

def verify (driver : Nat) : Action Nat := do
  let here ← site
  let endpoint := here.endpoint
  match here.database.verify with
  | some fault =>
    emit (.verified driver false)
    log .connection .error s!"Failed to connect to Neo4j at {endpoint.uri}: {fault.text}"
    fail (.unconnected fault)
  | none =>
    emit (.verified driver true)
    let name := (endpoint.database.filter (· ≠ "")).getD "default"
    log .connection .info s!"Connected to Neo4j at {endpoint.uri} (db={name})"
    return driver

/-- The driver in place, or a new one that is verified. -/
def connect : Action Nat := do
  match (← link).driver with
  | some driver => return driver
  | none => verify (← openDriver)

def close : Action Unit := do
  let before ← link
  match before.driver with
  | none => return
  | some driver =>
    emit (.driverClosed driver)
    setLink { before with driver := none }
    log .connection .info "Neo4j connection closed"

def withSession {α : Type} (body : Action α) : Action α := do
  let driver ← connect
  let here ← site
  emit (.sessionOpened driver here.endpoint.database)
  body.closingWith .sessionClosed

def queryFailure (fault : Fault) : Failure :=
  match fault with
  | .service _ _ => .unavailable fault
  | .system _ _ => .fault fault
  | _ => .execution fault

def fetch (query : String) (parameters : List (String × Value)) :
    Action (List Row × Option Summary) := do
  emit (.sent query parameters)
  let reply := (← site).database.reply query parameters
  match reply.fault with
  | some (_, fault) => fail (queryFailure fault)
  | none => return (reply.rows, reply.summary)

end CypherGate.Connection
