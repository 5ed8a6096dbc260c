import CypherGate.Settings.VariableFile
/-!
# References between variables

In a value of a file of variables, `${NAME}` stands for the value of a variable and
`${NAME:-default}` has a default. Variables set earlier in the file come before those of the
environment.
-/
namespace CypherGate.VariableFile

structure Reference where
  name : List Char
  default : List Char
  deriving DecidableEq, Repr

def readReference? (s : List Char) : Option (Reference × List Char) :=
  match Text.splitBefore (fun c => c == '\x7d' || c == ':') s with
  | (name, '\x7d' :: after) => some (⟨name, []⟩, after)
  | (name, ':' :: '-' :: rest) =>
    (Text.cut? '\x7d' rest).map fun (default, after) => (⟨name, default⟩, after)
  | _ => none

def expand (value : Reference → List Char) : List Char → List Char
  | [] => []
  | c :: rest =>
    match (if c = '$' ∧ rest.head? = some '\x7b' then readReference? (rest.drop 1) else none) with
    | some (r, after) =>
      if after.length ≤ rest.length then value r ++ expand value after else value r
    | none => c :: expand value rest
  termination_by s => s.length
  decreasing_by all_goals grind

/-- Variables without a value are listed, too. -/
abbrev Assignments := List (String × Option String)

def valueOf (environment : List (String × String)) (earlier : Assignments) (r : Reference) :
    List Char :=
  let name := String.ofList r.name
  match earlier.lookup name, environment.lookup name with
  | some value, _ => (value.getD "").toList
  | none, some value => value.toList
  | none, none => r.default

def assignments (environment : List (String × String)) (text : String) : Assignments :=
  (bindings text).foldl (fun earlier b =>
    setEntry (String.ofList b.name)
      (b.value.map fun v => String.ofList (expand (valueOf environment earlier) v)) earlier) []

end CypherGate.VariableFile
