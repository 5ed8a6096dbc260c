import CypherGate.Text.CaseTable
/-!
# Case mapping

Full case mapping of Unicode text. Lower-casing is context-free except for capital sigma, which
becomes a final sigma after a cased letter that no cased letter follows; case-ignorable characters
between are skipped on both sides.
-/
namespace CypherGate.Text

/-- Membership in a class given by its bounds in ascending order. -/
def withinBounds : List Nat → Nat → Bool
  | [], _ => false
  | b :: rest, n => if n < b then false else !withinBounds rest n

def CaseRun.image? (r : CaseRun) (n : Nat) : Option Nat :=
  if r.first ≤ n && n ≤ r.last && (n - r.first) % r.step == 0
  then some (r.image + (n - r.first)) else none

def mapByRuns (runs : List CaseRun) (c : Char) : Char :=
  match runs.findSome? (·.image? c.toNat) with
  | some n => Char.ofNat n
  | none => c

def isCased (c : Char) : Bool := withinBounds casedBounds c.toNat

def isCaseIgnorable (c : Char) : Bool := withinBounds caseIgnorableBounds c.toNat

def lowerChar (c : Char) : List Char :=
  if c = '\u0130' then ['i', '\u0307'] else [mapByRuns lowerRuns c]

/-- Whether the nearest character that is not case-ignorable is cased. -/
def meetsCased (s : List Char) : Bool :=
  match s.dropWhile isCaseIgnorable with
  | [] => false
  | c :: _ => isCased c

/-- Lower case of capital sigma, given the text before it, nearest character first, and after. -/
def lowerSigma (before after : List Char) : Char :=
  if meetsCased before && !meetsCased after then '\u03C2' else '\u03C3'

/-- Lower case of a text that follows `before`, nearest character first. -/
def lowerAfter (before : List Char) : List Char → List Char
  | [] => []
  | c :: rest =>
    (if c = '\u03A3' then [lowerSigma before rest] else lowerChar c) ++ lowerAfter (c :: before) rest

def lower (s : List Char) : List Char := lowerAfter [] s

/-- Of the runs only that of the letters of ASCII begins in ASCII. -/
theorem lowerRuns_eq :
    ∃ runs, lowerRuns = ⟨0x41, 0x5A, 1, 0x61⟩ :: runs ∧ ∀ r ∈ runs, 0x80 ≤ r.first :=
  ⟨lowerRuns.tail, rfl, by decide +kernel⟩

theorem mapByRuns_letters :
    ∀ n < 0x80, mapByRuns [⟨0x41, 0x5A, 1, 0x61⟩] (Char.ofNat n) = (Char.ofNat n).toLower := by
  decide

def isAscii (c : Char) : Bool := c.toNat < 0x80

theorem mapByRuns_of_ascii {c : Char} (ascii : isAscii c) :
    mapByRuns lowerRuns c = c.toLower := by
  obtain ⟨runs, split, beyond⟩ := lowerRuns_eq
  have below : c.toNat < 0x80 := of_decide_eq_true ascii
  have none : runs.findSome? (·.image? c.toNat) = none := by
    rw [List.findSome?_eq_none_iff]
    intro r hr
    have := beyond r hr
    simp only [CaseRun.image?, ite_eq_right_iff, Bool.and_eq_true, decide_eq_true_eq, reduceCtorEq,
      imp_false]
    omega
  have letters := mapByRuns_letters c.toNat below
  rw [Char.ofNat_toNat] at letters
  rw [← letters, split]
  simp only [mapByRuns, List.findSome?_cons, none, List.findSome?_nil]

theorem lower_of_ascii {s : List Char} (ascii : s.all isAscii) :
    lower s = s.map Char.toLower := by
  have all : ∀ before, lowerAfter before s = s.map Char.toLower := by
    induction s with
    | nil => simp [lowerAfter]
    | cons c rest ih =>
      intro before
      simp only [List.all_cons, Bool.and_eq_true] at ascii
      obtain ⟨here, later⟩ := ascii
      have sigma : c ≠ '\u03A3' := by
        rintro rfl
        simp [isAscii] at here
      have dotted : c ≠ '\u0130' := by
        rintro rfl
        simp [isAscii] at here
      rw [lowerAfter, if_neg sigma, lowerChar, if_neg dotted, mapByRuns_of_ascii here, ih later]
      rfl
  exact all []

private def special? (table : List (Nat × List Nat)) (c : Char) : Option (List Char) :=
  (table.lookup c.toNat).map (·.map Char.ofNat)

def upperChar (c : Char) : List Char :=
  (special? upperSpecials c).getD [mapByRuns upperRuns c]

def upper (s : List Char) : List Char := s.flatMap upperChar

/-- Letters of the Georgian alphabet have no title case of their own. -/
def isGeorgian (c : Char) : Bool :=
  let n := c.toNat
  (0x10D0 ≤ n && n ≤ 0x10FA) || (0x10FD ≤ n && n ≤ 0x10FF)

def titleChar (c : Char) : List Char :=
  if isGeorgian c then [c] else (special? titleSpecials c).getD (upperChar c)

def capitalize : List Char → List Char
  | [] => []
  | c :: rest => titleChar c ++ lowerAfter [c] rest

end CypherGate.Text

namespace CypherGate

def lowerCase (s : String) : String := String.ofList (Text.lower s.toList)

theorem map_lowerCase_of_ascii {ws : List String}
    (ascii : ws.all fun w => w.toList.all Text.isAscii) :
    ws.map lowerCase = ws.map fun w => String.ofList (w.toList.map Char.toLower) := by
  apply List.map_congr_left
  intro w hw
  rw [lowerCase, Text.lower_of_ascii (List.all_eq_true.mp ascii w hw)]

def upperCase (s : String) : String := String.ofList (Text.upper s.toList)

end CypherGate
