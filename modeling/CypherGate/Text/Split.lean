/-!
# Splitting text at delimiters
-/
namespace CypherGate.Text

def splitOn (d : Char) : List Char → List (List Char)
  | [] => [[]]
  | c :: rest =>
    match splitOn d rest with
    | [] => [[]]
    | part :: parts => if c = d then [] :: part :: parts else (c :: part) :: parts

/-- The text up to the first character of a class, and the rest from that character on. -/
def splitBefore (p : Char → Bool) (s : List Char) : List Char × List Char :=
  (s.takeWhile fun c => !p c, s.dropWhile fun c => !p c)

/-- The text before the first delimiter and the text after it, if there is one. -/
def cut? (d : Char) (s : List Char) : Option (List Char × List Char) :=
  match splitBefore (· == d) s with
  | (_, []) => none
  | (before, _ :: after) => some (before, after)

theorem cut?_eq_some {d : Char} {s before after : List Char}
    (h : cut? d s = some (before, after)) : s = before ++ d :: after := by
  have whole := @List.takeWhile_append_dropWhile _ (fun c => !(c == d)) s
  unfold cut? splitBefore at h
  split at h
  · simp at h
  · next c rest eq =>
    have first := List.head?_dropWhile_not (fun c => !(c == d)) s
    simp only [Prod.mk.injEq, Option.some.injEq] at eq h
    simp_all

end CypherGate.Text
