import CypherGate.Text.Case
/-!
# Log records

Records go to the standard error, for the standard output carries the protocol. A level is set by
name, without regard to case; a name that is none stands for information. Two names are refused,
since they name layouts of records.
-/
namespace CypherGate

inductive LogLevel where
  | info
  | warning
  | error
  deriving DecidableEq, Repr

inductive LogSource where
  | connection
  | requests
  | tools
  | commandLine
  deriving DecidableEq, Repr

structure LogRecord where
  level : LogLevel
  source : LogSource
  message : String
  deriving DecidableEq, Repr

def LogLevel.name : LogLevel → String
  | .info => "INFO"
  | .warning => "WARNING"
  | .error => "ERROR"

def loggerName (component : String) : String := "neo4j-readonly-mcp." ++ component

def LogSource.component : LogSource → String
  | .connection => "neo4j_handler"
  | .requests => "readonly_query.graph_store"
  | .tools => "readonly_query.server"
  | .commandLine => "cli"

def LogSource.logger (s : LogSource) : String := loggerName s.component

def logFormat : String := "%(asctime)s  %(name)-40s  %(levelname)-7s  %(message)s"

def levelNumbers : List (String × Nat) :=
  [("CRITICAL", 50), ("FATAL", 50), ("ERROR", 40), ("WARNING", 30), ("WARN", 30), ("INFO", 20),
    ("DEBUG", 10), ("NOTSET", 0)]

/-- A name of layouts that is given for a level. -/
inductive LayoutName where
  | basic
  | styles
  deriving DecidableEq, Repr

def layoutNames : List (String × LayoutName) := [("BASIC_FORMAT", .basic), ("_STYLES", .styles)]

def basicLayout : String := "'%(levelname)s:%(name)s:%(message)s'"

def LayoutName.message : LayoutName → String
  | .basic => "Unknown level: " ++ basicLayout
  | .styles =>
    "Level not an integer or a valid string: \x7b'%': (<class 'logging.PercentStyle'>, " ++
      basicLayout ++ "), '\x7b': (<class 'logging.StrFormatStyle'>, " ++
      "'\x7blevelname\x7d:\x7bname\x7d:\x7bmessage\x7d'), " ++
      "'$': (<class 'logging.StringTemplateStyle'>, " ++
      "'$\x7blevelname\x7d:$\x7bname\x7d:$\x7bmessage\x7d')\x7d"

def levelNumber (name : String) : Except LayoutName Nat :=
  match layoutNames.lookup (upperCase name) with
  | some layout => .error layout
  | none => .ok ((levelNumbers.lookup (upperCase name)).getD 20)

end CypherGate
