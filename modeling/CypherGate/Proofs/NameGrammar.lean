import CypherGate.Identifier
/-!
# The grammar of names

A plain name is a letter or an underscore and after it letters, digits and underscores, all of them ASCII.
The check admits these names and no others, but for one line break that may follow a plain name.
-/
namespace CypherGate.Identifier

/-- A name that queries could take without backquotes as well. -/
def Plain (name : String) : Prop :=
  ∃ first rest, name.toList = first :: rest ∧ (first.isAlpha ∨ first = '_') ∧
    ∀ c ∈ rest, c.isAlphanum ∨ c = '_'

/-- A plain name, or one with a line break behind it. -/
def Admitted (name : String) : Prop := Plain name ∨ ∃ plain, Plain plain ∧ name = plain ++ "\n"

theorem isStart_iff {c : Char} : isStart c ↔ c.isAlpha ∨ c = '_' := by
  have upper : c.isUpper ↔ 'A' ≤ c ∧ c ≤ 'Z' := decide_eq_true_iff
  have lower : c.isLower ↔ 'a' ≤ c ∧ c ≤ 'z' :=
    Bool.and_eq_true_iff.trans (and_congr decide_eq_true_iff decide_eq_true_iff)
  have letter : c.isAlpha ↔ c.isLower ∨ c.isUpper := Bool.or_eq_true_iff.trans or_comm
  simp only [isStart, letter, lower, upper, Bool.or_eq_true, Bool.and_eq_true, decide_eq_true_eq, beq_iff_eq]

theorem isContinuation_iff {c : Char} : isContinuation c ↔ c.isAlphanum ∨ c = '_' := by
  have digit : (decide ('0' ≤ c) && decide (c ≤ '9')) = c.isDigit := by
    simp [Char.isDigit, Char.le_def]
  rw [isContinuation, digit, Char.isAlphanum, Bool.or_eq_true, Bool.or_eq_true, isStart_iff]
  exact or_right_comm

theorem isPlain_iff {name : String} : isPlain name.toList ↔ Plain name := by
  unfold Plain
  cases name.toList with
  | nil => simp [isPlain]
  | cons c rest =>
    simp only [isPlain, Bool.and_eq_true, List.all_eq_true, isStart_iff, isContinuation_iff]
    constructor
    · intro h
      exact ⟨c, rest, rfl, h⟩
    · rintro ⟨_, _, ⟨⟩, h⟩
      exact h

instance (name : String) : Decidable (Plain name) := decidable_of_iff _ isPlain_iff

theorem isSafe_iff {name : String} : isSafe name ↔ Admitted name := by
  have broken : (name.toList.getLast? = some '\n' ∧ isPlain name.toList.dropLast) ↔
      ∃ plain, Plain plain ∧ name = plain ++ "\n" := by
    constructor
    · rintro ⟨last, plain⟩
      obtain ⟨start, split⟩ := List.getLast?_eq_some_iff.mp last
      rw [split, List.dropLast_concat] at plain
      refine ⟨String.ofList start, isPlain_iff.mp (by simpa using plain), String.toList_inj.mp ?_⟩
      simpa using split
    · rintro ⟨plain, h, rfl⟩
      simpa using isPlain_iff.mpr h
  simp only [isSafe, Bool.or_eq_true, Bool.and_eq_true, beq_iff_eq, isPlain_iff, broken, Admitted]

/-- Whatever a name is for, it is put between backquotes if it is admitted and refused if it is not, and
all forms of the check agree on that. -/
theorem check_admits (role name : String) :
    (isSafe name ↔ Admitted name) ∧
    (∀ kept, (ofName role name).map Subtype.val = .ok kept ↔ Admitted name ∧ kept = name) ∧
    (∀ text, (ofName role name).map backquoted = .ok text ↔
      Admitted name ∧ text = "\x60" ++ name ++ "\x60") ∧
    ∀ refusal, ofName role name = .error refusal ↔ ¬Admitted name ∧ refusal = ⟨name, role⟩ := by
  refine ⟨isSafe_iff, ?_⟩
  by_cases safe : isSafe name
  · have admitted := isSafe_iff.mp safe
    simp [ofName, safe, admitted, Except.map, backquoted, eq_comm]
  · have refused : ¬Admitted name := mt isSafe_iff.mpr safe
    simp [ofName, safe, refused, Except.map, eq_comm]

/-- A line break gets between the backquotes. -/
theorem check_admits_line_break :
    ¬Plain "Person\n" ∧ isSafe "Person\n" ∧
      (ofName "label" "Person\n").map backquoted = .ok "\x60Person\n\x60" := by
  refine ⟨by decide, by decide, rfl⟩

end CypherGate.Identifier
