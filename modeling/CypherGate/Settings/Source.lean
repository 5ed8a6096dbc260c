import CypherGate.Json.Reader
import CypherGate.Graph.Value
import CypherGate.Settings.Field
import CypherGate.Settings.Interpolation
import CypherGate.Text.Case
/-!
# Where settings come from

Overrides come first, then variables of the environment, then those of a file. Names are compared
without case. Of several spellings the first one counts among overrides, and the last one among
variables. A null override and an empty variable count as not given, an empty override does not.
-/
namespace CypherGate

structure Sources where
  overrides : List (String × Value)
  environment : List (String × String)
  file : Option String

/-- Sources in which settings are texts. -/
inductive Layer where
  | environment
  | file
  deriving DecidableEq, Repr

def Layer.title : Layer → String
  | .environment => "EnvSettingsSource"
  | .file => "DotEnvSettingsSource"

/-- Why a text is no value for a list setting. -/
inductive Unreadable where
  | malformed (setting : Setting) (layer : Layer)
  | tooDeep (bracket : Char)
  deriving DecidableEq, Repr

def Unreadable.message : Unreadable → String
  | .malformed setting layer =>
    "error parsing value for field \x22" ++ setting.name ++ "\x22 from source \x22" ++
      layer.title ++ "\x22"
  | .tooDeep bracket =>
    "maximum recursion depth exceeded while decoding a JSON " ++
      (if bracket = '[' then "array" else "object") ++ " from a unicode string"

def deepestNesting : Nat := 975

namespace Sources

def named {α : Type} (setting : Setting) (pairs : List (String × α)) : List α :=
  (pairs.filter fun (name, _) => lowerCase name = setting.name).map Prod.snd

def override? (s : Sources) (setting : Setting) : Option Value :=
  (named setting s.overrides).find? fun
    | .null => false
    | _ => true

def layer (s : Sources) : Layer → VariableFile.Assignments
  | .environment => s.environment.map fun (name, value) => (name, some value)
  | .file => (s.file.map (VariableFile.assignments s.environment)).getD []

def text? (s : Sources) (layer : Layer) (setting : Setting) : Option String :=
  ((named setting ((s.layer layer).filter fun (_, value) => value ≠ some "")).getLast?).join

/-- What a text means for a setting. A list may be given as null, which is no value. -/
def read (setting : Setting) (layer : Layer) (text : String) : Except Unreadable (Option Value) :=
  if setting.isList then
    match Json.readWithin Text.maxDigits deepestNesting text.toList with
    | .error .malformed => .error (.malformed setting layer)
    | .error (.tooDeep bracket) => .error (.tooDeep bracket)
    | .ok .null => .ok none
    | .ok t => .ok (some (Value.ofTree t))
  else .ok (some (.str text))

def inLayer (s : Sources) (layer : Layer) (setting : Setting) : Except Unreadable (Option Value) :=
  match s.text? layer setting with
  | none => .ok none
  | some text => read setting layer text

def unreadable? (s : Sources) : Option Unreadable :=
  [Layer.environment, .file].findSome? fun layer =>
    Setting.all.findSome? fun setting =>
      match s.inLayer layer setting with
      | .error u => some u
      | .ok _ => none

def value? (s : Sources) (setting : Setting) : Option Value :=
  s.override? setting
    <|> (s.inLayer .environment setting).toOption.join
    <|> (s.inLayer .file setting).toOption.join

end Sources

end CypherGate
