import CypherGate.Log
import CypherGate.Settings.Load
import CypherGate.Text.Terminal
/-!
# The command line

Options override settings of the environment. An option takes its value after an equals sign or
from the next argument, whatever that is, and the last one counts. Every argument is looked at
before help is given, and help is given before values are.
-/
namespace CypherGate.CommandLine

def options : List (String × Setting) :=
  [("--neo4j-uri", .uri), ("--neo4j-username", .username), ("--neo4j-password", .password),
    ("--neo4j-database", .database), ("--transport", .transport), ("--host", .host),
    ("--port", .port), ("--log-level", .logLevel)]

structure Scan where
  values : List (Setting × String)
  help : Bool
  operands : List String
  deriving DecidableEq, Repr

namespace Scan

def empty : Scan := ⟨[], false, []⟩

def addValue (setting : Setting) (value : String) (s : Scan) : Scan :=
  { s with values := (setting, value) :: s.values }

def addOperands (operands : List String) (s : Scan) : Scan :=
  { s with operands := operands ++ s.operands }

def askHelp (s : Scan) : Scan := { s with help := true }

end Scan

inductive Word where
  | endOfOptions
  | operand
  | help
  | valued (setting : Setting) (value : String)
  /-- An option whose value is the next argument. -/
  | pending (setting : Setting)
  | unknown
  deriving DecidableEq, Repr

/-- Options of one letter stand together after one dash; help is the only one. -/
def shortWord : List Char → Word
  | '-' :: letters => if letters.all (· == 'h') then .help else .unknown
  | _ => .unknown

def optionWord (arg : String) : Word :=
  if arg = "--help" then .help
  else match Text.cut? '=' arg.toList with
    | some (name, value) =>
      match options.lookup (String.ofList name) with
      | some setting => .valued setting (String.ofList value)
      | none => shortWord arg.toList
    | none =>
      match options.lookup arg with
      | some setting => .pending setting
      | none => shortWord arg.toList

def word (arg : String) : Word :=
  if arg = "--" then .endOfOptions
  else match arg.toList with
    | '-' :: _ :: _ => optionWord arg
    | _ => .operand

/-- What the arguments say; nothing if an option is unknown or lacks its value. -/
def scan? : List String → Option Scan
  | [] => some .empty
  | arg :: rest =>
    match word arg with
    | .endOfOptions => some (Scan.empty.addOperands rest)
    | .operand => (scan? rest).map (·.addOperands [arg])
    | .help => (scan? rest).map (·.askHelp)
    | .valued setting value => (scan? rest).map (·.addValue setting value)
    | .pending setting =>
      match rest with
      | [] => none
      | value :: rest' => (scan? rest').map (·.addValue setting value)
    | .unknown => none

/-- The override that an option stands for. The port is a number on the command line already. -/
def override? (setting : Setting) (value : String) : Option Value :=
  match setting with
  | .port => (Conversion.integerText value).toOption.map .int
  | _ => some (.str value)

/-- The overrides of a scan, the last value of each option; nothing if the port is no number. -/
def overrides? (s : Scan) : Option (List (String × Value)) :=
  (collapse (s.values.map fun (setting, value) => (setting.name, (setting, value)))).mapM
    fun (name, setting, value) => (override? setting value).map fun v => (name, v)

inductive Conclusion where
  | help
  | misuse
  | failed (cause : SettingsFailure)
  /-- The settings are in order, but records cannot be shown at their level. -/
  | noLevel (name : LayoutName)
  | serve (settings : Settings)

def start (settings : Settings) : Conclusion :=
  match levelNumber settings.logLevel with
  | .error name => .noLevel name
  | .ok _ => .serve settings

def conclude (args : List String) (environment : List (String × String)) (file : Option String) :
    Conclusion :=
  match scan? args with
  | none => .misuse
  | some s =>
    if s.help then .help
    else match overrides? s with
      | none => .misuse
      | some overrides =>
        if !s.operands.isEmpty then .misuse
        else match Settings.load ⟨overrides, environment, file⟩ with
          | .error cause => .failed cause
          | .ok settings => start settings

def unreadableNote (line : Nat) : String :=
  s!"python-dotenv could not parse statement starting at line {line}\n"

def problemLines (problems : List Problem) : String :=
  "Configuration error:\n" ++ String.join (problems.map fun p => "  " ++ p.text ++ "\n") ++
    "\nUse --help for usage information\n"

def report (file : Option String) (problems : List Problem) : String :=
  let lines := (file.map VariableFile.unreadableLines).getD []
  String.join (lines.map unreadableNote) ++
    String.ofList (Text.withoutControls (problemLines problems).toList)

def exitCode : Conclusion → Nat
  | .help | .serve _ => 0
  | .misuse => 2
  | .failed _ | .noLevel _ => 1

end CypherGate.CommandLine
