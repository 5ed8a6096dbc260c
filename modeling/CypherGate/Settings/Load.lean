import CypherGate.Arguments.Conversion
import CypherGate.Connection.Action
import CypherGate.Settings.Source
import CypherGate.Url.Authority
/-!
# Loading of settings

Every setting has a type, and all but the password have a default. Either all settings are in order
or every problem is reported, in the order of the settings.
-/
namespace CypherGate

inductive Transport where
  | stdio
  | sse
  deriving DecidableEq, Repr

def Transport.name : Transport → String
  | .stdio => "stdio"
  | .sse => "sse"

structure Settings where
  uri : String
  username : String
  password : String
  database : Option String
  logLevel : String
  serverName : String
  transport : Transport
  host : String
  port : Int
  extraForbidden : List String
  extraProcedures : List String
  deriving DecidableEq, Repr

inductive SettingsFailure where
  | unreadable (cause : Unreadable)
  | invalid (problems : List Problem)
  deriving DecidableEq, Repr

def SettingsFailure.message : SettingsFailure → String
  | .unreadable cause => cause.message
  | .invalid _ => "Configuration error"

namespace Settings

def url : Conversion String := fun v => do
  let s ← Conversion.text v
  match Url.split s with
  | .error defect => .error (.broken defect.message)
  | .ok u =>
    if u.scheme.isEmpty || u.authority.isEmpty then .error (.broken ("Invalid URL: " ++ quote s))
    else .ok s

def nonEmptyText : Conversion String := fun v => do
  let s ← Conversion.text v
  if s = "" then .error .emptyText else .ok s

def transportOf : Conversion Transport
  | .str "stdio" => .ok .stdio
  | .str "sse" => .ok .sse
  | _ => .error (.notOneOf Transport.stdio.name Transport.sse.name)

/-- The items of a value that is a list in some form. A path lists its relationships. -/
def items? : Value → Option (List Value)
  | .list vs | .tuple vs => some vs
  | .duration months days seconds nanoseconds =>
    some [.int months, .int days, .int seconds, .int nanoseconds]
  | .point _ coordinates => some (coordinates.map .float)
  | .path p => some (p.steps.map fun (r, _) => .relationship r)
  | _ => none

def textsFrom (location : String) (i : Nat) : List Value → Checked (List String)
  | [] => .ok []
  | v :: rest =>
    let first := Conversion.located Conversion.text s!"{location}.{i}" v
    (first.both (textsFrom location (i + 1) rest)).map fun (s, ss) => s :: ss

def texts (location : String) (v : Value) : Checked (List String) :=
  match items? v with
  | some vs => textsFrom location 0 vs
  | none => .error [⟨location, .notList⟩]

def field {α : Type} (value? : Setting → Option Value) (setting : Setting) (default : Checked α)
    (convert : String → Value → Checked α) : Checked α :=
  match value? setting with
  | none => default
  | some v => convert setting.name v

def check (value? : Setting → Option Value) : Checked Settings :=
  let text (setting : Setting) (default : String) : Checked String :=
    field value? setting (.ok default) (Conversion.located Conversion.text)
  let list (setting : Setting) : Checked (List String) := field value? setting (.ok []) texts
  let uri := field value? .uri (.ok defaultUri) (Conversion.located url)
  let password :=
    field value? .password (.error [⟨Setting.password.name, .missing⟩]) (Conversion.located nonEmptyText)
  let database :=
    field value? .database (.ok none) (Conversion.located fun v => some <$> Conversion.text v)
  let transport := field value? .transport (.ok .stdio) (Conversion.located transportOf)
  let port := field value? .port (.ok defaultPort) (Conversion.located Conversion.integer)
  let all := uri.both <| (text .username defaultUsername).both <| password.both <| database.both <|
    (text .logLevel defaultLogLevel).both <| (text .serverName defaultServerName).both <|
    transport.both <| (text .host defaultHost).both <| port.both <|
    (list .extraForbidden).both (list .extraProcedures)
  all.map fun (uri, username, password, database, logLevel, serverName, transport, host, port,
      extraForbidden, extraProcedures) =>
    { uri, username, password, database, logLevel, serverName, transport, host, port,
      extraForbidden, extraProcedures }

def load (sources : Sources) : Except SettingsFailure Settings :=
  match sources.unreadable? with
  | some cause => .error (.unreadable cause)
  | none => (check sources.value?).mapError .invalid

def endpoint (s : Settings) : Endpoint := ⟨s.uri, s.username, s.password, s.database⟩

def policy (s : Settings) : Guard.Policy :=
  Guard.Policy.standard.extend s.extraForbidden s.extraProcedures

end Settings

end CypherGate
