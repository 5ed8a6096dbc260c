import CypherGate.Text.Quoted
import CypherGate.Text.Split
/-!
# Faults

What the database server, the client library or the system around them can raise. The server's
errors may carry a code that places them, of four parts between points, of which the second one is a
group; the client library shows its own errors, outside their text, by one fixed sentence.
-/
namespace CypherGate

inductive ServerKind where
  | general
  | client
  | auth
  | tokenExpired
  | cypherSyntax
  | cypherType
  | violation
  | forbidden
  | readOnlyDatabase
  | notLeader
  | transient
  | databaseUnavailable
  | database
  deriving DecidableEq, Repr

inductive ServiceKind where
  | any
  | read
  | write
  deriving DecidableEq, Repr

inductive ClientKind where
  | general
  | sessionExpired
  | configuration
  deriving DecidableEq, Repr

inductive SystemKind where
  | general
  | value
  | type
  | key
  | io
  deriving DecidableEq, Repr

inductive Fault where
  | server (kind : ServerKind) (text : String)
  | coded (code message : String)
  | service (kind : ServiceKind) (text : String)
  | client (kind : ClientKind) (text : String)
  | system (kind : SystemKind) (text : String)
  deriving DecidableEq, Repr

namespace Fault

/-- Codes of older servers, and what newer ones send instead. -/
def renamedCodes : List (String × String) :=
  [("Neo.TransientError.Transaction.Terminated", "Neo.ClientError.Transaction.Terminated"),
    ("Neo.TransientError.Transaction.LockClientStopped",
      "Neo.ClientError.Transaction.LockClientStopped")]

def knownCode (code : String) : String :=
  if code = "" then "Neo.DatabaseError.General.UnknownError"
  else (renamedCodes.lookup code).getD code

def knownMessage (message : String) : String :=
  if message = "" then "An unknown error occurred" else message

def text : Fault → String
  | .server _ t | .service _ t | .client _ t => t
  | .coded code message =>
    s!"\x7bcode: {knownCode code}\x7d \x7bmessage: {knownMessage message}\x7d"
  | .system .key t => quote t
  | .system _ t => t

def clientSentence : String :=
  "50N42: Unexpected error has occurred. See debug log for details."

def detail : Fault → String
  | .coded _ message => knownMessage message
  | .service _ _ | .client _ _ => clientSentence
  | f => f.text

def ofDatabase : Fault → Bool
  | .system _ _ => false
  | _ => true

def clientKinds : List (String × ServerKind) :=
  [("Neo.ClientError.Statement.SyntaxError", .cypherSyntax),
    ("Neo.ClientError.Statement.InvalidSyntax", .cypherSyntax),
    ("Neo.ClientError.Statement.TypeError", .cypherType),
    ("Neo.ClientError.Statement.InvalidType", .cypherType),
    ("Neo.ClientError.Procedure.TypeError", .cypherType),
    ("Neo.ClientError.Schema.ConstraintValidationFailed", .violation),
    ("Neo.ClientError.Schema.ConstraintViolation", .violation),
    ("Neo.ClientError.Statement.ConstraintVerificationFailed", .violation),
    ("Neo.ClientError.Statement.ConstraintViolation", .violation),
    ("Neo.ClientError.General.ForbiddenOnReadOnlyDatabase", .readOnlyDatabase),
    ("Neo.ClientError.General.ReadOnly", .forbidden),
    ("Neo.ClientError.Schema.ForbiddenOnConstraintIndex", .forbidden),
    ("Neo.ClientError.Schema.IndexBelongsToConstraint", .forbidden),
    ("Neo.ClientError.Security.Forbidden", .forbidden),
    ("Neo.ClientError.Transaction.ForbiddenDueToTransactionType", .forbidden),
    ("Neo.ClientError.Security.AuthorizationFailed", .auth),
    ("Neo.ClientError.Security.Unauthorized", .auth),
    ("Neo.ClientError.Security.TokenExpired", .tokenExpired),
    ("Neo.ClientError.Security.AuthorizationExpired", .transient),
    ("Neo.ClientError.Cluster.NotALeader", .notLeader)]

def transientKinds : List (String × ServerKind) :=
  [("Neo.TransientError.General.DatabaseUnavailable", .databaseUnavailable)]

def group? (code : String) : Option String :=
  match Text.splitOn '.' code.toList with
  | [_, group, _, _] => some (String.ofList group)
  | _ => none

/-- The kind of an error by its code. A code without a group stands for an error of the database. -/
def kindOfCode (code : String) : ServerKind :=
  let known := knownCode code
  match group? known with
  | some "ClientError" => (clientKinds.lookup known).getD .client
  | some "TransientError" => (transientKinds.lookup known).getD .transient
  | some "DatabaseError" | none => .database
  | some _ => .general

end Fault

end CypherGate
