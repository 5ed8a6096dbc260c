/-!
# Control sequences of terminals

A sequence that sets colours or moves the cursor is an escape, an opening bracket, parameters and a
letter. It is not part of a text that goes elsewhere.
-/
namespace CypherGate.Text

def isParameter (c : Char) : Bool := ('0' ≤ c && c ≤ '9') || c == ';' || c == '?'

def isFinalLetter (c : Char) : Bool := ('a' ≤ c && c ≤ 'z') || ('A' ≤ c && c ≤ 'Z')

/-- The text behind the control sequence at its start, if there is one. -/
def afterControl? : List Char → Option (List Char)
  | '\x1b' :: '[' :: rest =>
    match rest.dropWhile isParameter with
    | c :: after => if isFinalLetter c then some after else none
    | [] => none
  | _ => none

theorem length_afterControl?_lt {s after : List Char} (h : afterControl? s = some after) :
    after.length < s.length := by
  unfold afterControl? at h
  split at h
  · next rest =>
    have shorter := (List.dropWhile_suffix isParameter (l := rest)).length_le
    split at h
    · next c tail eq =>
      split at h
      · simp_all only [List.length_cons, Option.some.injEq]
        omega
      · simp at h
    · simp at h
  · simp at h

def withoutControls : List Char → List Char
  | [] => []
  | c :: rest =>
    match _h : afterControl? (c :: rest) with
    | some after => withoutControls after
    | none => c :: withoutControls rest
  termination_by s => s.length
  decreasing_by
    · exact length_afterControl?_lt _h
    · exact Nat.lt_succ_self rest.length

end CypherGate.Text
