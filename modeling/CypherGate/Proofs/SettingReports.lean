import CypherGate.CommandLine
import CypherGate.Proofs.Precedence
/-!
# Reports on settings

Settings that cannot be loaded are reported with one problem for each thing that is wrong, under the name of
the setting, and the command line prints the problems line by line. One fault is not reported so: a variable
for a list that is no JSON breaks off loading before any setting is looked at.
-/
namespace CypherGate

namespace Text

variable {s rest : List Char}

theorem afterControl?_of_ne {c : Char} (h : c ≠ '\x1b') : afterControl? (c :: s) = none := by
  unfold afterControl?
  split
  · next r eq => exact absurd (List.cons.inj eq).1 h
  · rfl

theorem afterControl?_line (s rest : List Char) :
    afterControl? (s ++ '\n' :: rest) = (afterControl? s).map (· ++ '\n' :: rest) := by
  match s with
  | [] => exact afterControl?_of_ne (by decide)
  | [c] =>
    by_cases escape : c = '\x1b'
    · subst escape
      rfl
    · rw [List.singleton_append, afterControl?_of_ne escape, afterControl?_of_ne escape]
      rfl
  | c :: d :: r =>
    by_cases start : c = '\x1b' ∧ d = '['
    · obtain ⟨rfl, rfl⟩ := start
      have parameters : (r ++ '\n' :: rest).dropWhile isParameter =
          r.dropWhile isParameter ++ '\n' :: rest := by
        rw [List.dropWhile_append, List.dropWhile_cons_of_neg (by decide)]
        split
        · next none => rw [List.isEmpty_iff.mp none, List.nil_append]
        · rfl
      simp only [List.cons_append, afterControl?, parameters]
      cases r.dropWhile isParameter with
      | nil => rfl
      | cons c after =>
        by_cases letter : isFinalLetter c
        · simp [letter]
        · simp [letter]
    · have none : ∀ t, afterControl? (c :: d :: t) = none := by
        intro t
        unfold afterControl?
        split
        · next t' eq =>
          cases eq
          exact absurd ⟨rfl, rfl⟩ start
        · rfl
      rw [List.cons_append, List.cons_append, none, none]
      rfl

theorem withoutControls_cons {c : Char} (h : afterControl? (c :: s) = none) :
    withoutControls (c :: s) = c :: withoutControls s := by
  rw [withoutControls]
  split
  · next after eq => rw [h] at eq; cases eq
  · rfl

theorem withoutControls_after {c : Char} {after : List Char} (h : afterControl? (c :: s) = some after) :
    withoutControls (c :: s) = withoutControls after := by
  rw [withoutControls]
  split
  · next after' eq => rw [Option.some.inj (h.symm.trans eq)]
  · next eq => rw [h] at eq; cases eq

theorem withoutControls_line (s rest : List Char) :
    withoutControls (s ++ '\n' :: rest) = withoutControls s ++ '\n' :: withoutControls rest := by
  fun_induction withoutControls s with
  | case1 =>
    rw [List.nil_append, withoutControls_cons (afterControl?_of_ne (by decide)), List.nil_append]
  | case2 c s after control ih =>
    have line := afterControl?_line (c :: s) rest
    rw [control] at line
    rw [List.cons_append] at line ⊢
    rw [withoutControls_after line, ih]
  | case3 c s control ih =>
    have line := afterControl?_line (c :: s) rest
    rw [control] at line
    rw [List.cons_append] at line ⊢
    rw [withoutControls_cons line, ih, List.cons_append]

theorem withoutControls_append (plain : '\x1b' ∉ s) (rest : List Char) :
    withoutControls (s ++ rest) = s ++ withoutControls rest := by
  induction s with
  | nil => rfl
  | cons c s ih =>
    have here : c ≠ '\x1b' := fun same => plain (same ▸ List.mem_cons_self)
    have later : '\x1b' ∉ s := fun member => plain (List.mem_cons_of_mem c member)
    rw [List.cons_append, withoutControls_cons (afterControl?_of_ne here), ih later]
    rfl

end Text

theorem Setting.noPoint_name (setting : Setting) :
    '.' ∉ setting.name.toList ∧ '\x1b' ∉ setting.name.toList := by
  cases setting <;> decide

namespace Problem

variable {p : Problem} {a b : Setting}

theorem toList_item (name : String) (i : Nat) :
    (s!"{name}.{i}").toList = name.toList ++ '.' :: Nat.toDigits 10 i := by
  show (name ++ "." ++ toString i).toList = _
  simp

theorem Names.takeWhile (h : p.Names a) : p.location.toList.takeWhile (· != '.') = a.name.toList := by
  have kept : ∀ c ∈ a.name.toList, (c != '.') = true := by
    intro c member
    simpa using fun same : c = '.' => a.noPoint_name.1 (same ▸ member)
  rcases h with whole | ⟨i, item⟩
  · rw [whole, Text.takeWhile_eq_self kept]
  · rw [item, toList_item, List.takeWhile_append_of_pos kept, List.takeWhile_cons_of_neg (by decide),
      List.append_nil]

theorem Names.unique (h : p.Names a) (k : p.Names b) : a = b := by
  apply Setting.name_injective
  apply String.toList_inj.mp
  rw [← h.takeWhile, k.takeWhile]

theorem Names.plain (h : p.Names a) : '\x1b' ∉ p.location.toList := by
  have name := a.noPoint_name.2
  rcases h with whole | ⟨i, item⟩
  · rwa [whole]
  · rw [item, toList_item]
    intro member
    rcases List.mem_append.mp member with inName | behind
    · exact name inName
    · rcases List.mem_cons.mp behind with point | digit
      · exact absurd point (by decide)
      · exact absurd (Nat.isDigit_of_mem_toDigits (by omega) (by omega) digit) (by decide)

end Problem

/-! ## The report of the command line -/

namespace CommandLine

/-- How the report shows a problem. -/
def problemLine (p : Problem) : String :=
  "  " ++ p.location ++ ": " ++ String.ofList (Text.withoutControls p.cause.text.toList) ++ "\n"

/-- What is noted of statements of the file that could not be read. -/
def notes (file : Option String) : String :=
  String.join (((file.map VariableFile.unreadableLines).getD []).map unreadableNote)

variable {problems : List Problem} {args : List String} {overrides : List (String × Value)}
  {environment : List (String × String)} {file : Option String} {cause : SettingsFailure}

theorem withoutControls_problem {p : Problem} (plain : '\x1b' ∉ p.location.toList) (rest : List Char) :
    Text.withoutControls (("  " ++ p.text ++ "\n").toList ++ rest) =
      (problemLine p).toList ++ Text.withoutControls rest := by
  have front : '\x1b' ∉ ("  " ++ p.location ++ ": ").toList := by
    simpa using plain
  have shape : ("  " ++ p.text ++ "\n").toList ++ rest =
      ("  " ++ p.location ++ ": ").toList ++ (p.cause.text.toList ++ '\n' :: rest) := by
    simp [Problem.text]
  rw [shape, Text.withoutControls_append front, Text.withoutControls_line]
  simp [problemLine]

theorem toList_join_cons (line : String) (lines : List String) (rest : List Char) :
    (String.join (line :: lines)).toList ++ rest = line.toList ++ ((String.join lines).toList ++ rest) := by
  rw [String.join_cons, String.toList_append, List.append_assoc]

theorem withoutControls_problems (plain : ∀ p ∈ problems, '\x1b' ∉ p.location.toList)
    (rest : List Char) :
    Text.withoutControls ((String.join (problems.map fun p => "  " ++ p.text ++ "\n")).toList ++ rest) =
      (String.join (problems.map problemLine)).toList ++ Text.withoutControls rest := by
  induction problems with
  | nil => rfl
  | cons p problems ih =>
    have later := ih fun q member => plain q (List.mem_cons_of_mem p member)
    rw [List.map_cons, List.map_cons, toList_join_cons, toList_join_cons,
      withoutControls_problem (plain p List.mem_cons_self), later]

theorem withoutControls_framed {title hint : String} (plain_title : '\x1b' ∉ title.toList)
    (plain_hint : '\x1b' ∉ hint.toList) (plain : ∀ p ∈ problems, '\x1b' ∉ p.location.toList) :
    Text.withoutControls
        (title ++ String.join (problems.map fun p => "  " ++ p.text ++ "\n") ++ hint).toList =
      (title ++ String.join (problems.map problemLine) ++ hint).toList := by
  have kept : Text.withoutControls hint.toList = hint.toList := by
    simpa [Text.withoutControls] using Text.withoutControls_append plain_hint []
  rw [String.toList_append, String.toList_append, List.append_assoc,
    Text.withoutControls_append plain_title, withoutControls_problems plain, kept,
    String.toList_append, String.toList_append, List.append_assoc]

theorem report_eq (file : Option String) (plain : ∀ p ∈ problems, '\x1b' ∉ p.location.toList) :
    report file problems = notes file ++ ("Configuration error:\n" ++
      String.join (problems.map problemLine) ++ "\nUse --help for usage information\n") := by
  unfold report notes problemLines
  rw [withoutControls_framed (by decide +kernel) (by decide +kernel) plain, String.ofList_toList]

/-- The arguments ask for the server, with these overrides. -/
def Asks (args : List String) (overrides : List (String × Value)) : Prop :=
  ∃ scan, scan? args = some scan ∧ scan.help = false ∧ scan.operands = [] ∧
    overrides? scan = some overrides

theorem conclude_of_asks (asks : Asks args overrides) : conclude args environment file =
    match Settings.load ⟨overrides, environment, file⟩ with
    | .error cause => .failed cause
    | .ok settings => start settings := by
  obtain ⟨scan, scanned, help, operands, counted⟩ := asks
  simp only [conclude, scanned, help, operands, counted]
  rfl

theorem conclude_eq_failed_iff (asks : Asks args overrides) :
    conclude args environment file = .failed cause ↔
      Settings.load ⟨overrides, environment, file⟩ = .error cause := by
  rw [conclude_of_asks asks]
  cases Settings.load ⟨overrides, environment, file⟩ with
  | error other => simp
  | ok settings =>
    have serves : start settings ≠ .failed cause := by
      unfold start
      split <;> nofun
    simp [serves]

end CommandLine

namespace Settings

variable {s : Sources} {problems : List Problem}

theorem load_eq_unreadable_iff : (∃ cause, load s = .error (.unreadable cause)) ↔
    ∃ layer setting text, s.Sets layer setting text ∧ setting.Garbled text := by
  constructor
  · rintro ⟨cause, breaks⟩
    by_contra clear
    have readable : s.Readable := fun layer setting text sets garbled =>
      clear ⟨layer, setting, text, sets, garbled⟩
    rw [load_of_readable readable] at breaks
    obtain ⟨problems, -, same⟩ := error_of_mapError breaks
    cases same
  · rintro ⟨layer, setting, text, sets, garbled⟩
    cases unread : s.unreadable? with
    | some cause => exact ⟨cause, by rw [load, unread]⟩
    | none => exact absurd garbled (Sources.unreadable?_eq_none_iff.mp unread layer setting text sets)

theorem check_of_invalid (invalid : load s = .error (.invalid problems)) :
    s.Readable ∧ check s.value? = .error problems := by
  have readable : s.Readable := readable_of_load invalid nofun
  refine ⟨readable, ?_⟩
  rw [load_of_readable readable] at invalid
  obtain ⟨found, checked, same⟩ := error_of_mapError invalid
  cases same
  exact checked

/-- What a setting finds at its first origin can be converted to its type. -/
def Convertible (s : Sources) (setting : Setting) : Prop :=
  ∃ origin value x, s.First setting origin ∧ origin.Holds setting value ∧ content setting value = .ok x

theorem convertible_iff (readable : s.Readable) {setting : Setting} :
    Convertible s setting ↔ (content setting (s.value? setting)).problems = [] := by
  rw [(blames_content setting _).problems_eq_nil_iff]
  constructor
  · rintro ⟨origin, value, x, first, holds, converted⟩
    rw [(first.holds readable).unique holds]
    exact ⟨x, converted⟩
  · rintro ⟨x, converted⟩
    obtain ⟨origin, first⟩ := s.exists_first setting
    exact ⟨origin, s.value? setting, x, first, first.holds readable, converted⟩

theorem exists_named_iff {value? : Setting → Option Value} {setting : Setting} :
    (∃ p ∈ (check value?).problems, p.Names setting) ↔
      (content setting (value? setting)).problems ≠ [] := by
  rw [problems_check]
  constructor
  · rintro ⟨p, member, names⟩ none
    obtain ⟨other, -, member⟩ := List.mem_flatMap.mp member
    obtain rfl := ((blames_content other _).forall_problems p member).unique names
    rw [none] at member
    cases member
  · intro some
    obtain ⟨p, member⟩ := List.exists_mem_of_ne_nil _ some
    refine ⟨p, ?_, (blames_content setting _).forall_problems p member⟩
    exact List.mem_flatMap.mpr ⟨setting, Sources.mem_all setting, member⟩

/-- How sources that cannot be loaded are told of. -/
structure Reported (s : Sources) : Prop where
  /-- Loading breaks off just if a variable that counts for a list is no JSON, whether or not an override
  stands before it. -/
  broken : (∃ cause, load s = .error (.unreadable cause)) ↔
    ∃ layer setting text, s.Sets layer setting text ∧ setting.Garbled text
  /-- If it does not break off, settings are loaded or problems reported. -/
  ended : s.Readable → (∃ settings, load s = .ok settings) ∨
    ∃ problems, load s = .error (.invalid problems)
  /-- There is a problem then, and all problems name a setting. -/
  problems : ∀ problems, load s = .error (.invalid problems) →
    problems ≠ [] ∧ ∀ p ∈ problems, ∃ setting, p.Names setting
  /-- The settings that are named are those that cannot be converted. -/
  named : ∀ problems, load s = .error (.invalid problems) → ∀ setting,
    (∃ p ∈ problems, p.Names setting) ↔ ¬Convertible s setting
  /-- The command line that asks for the server ends accordingly, with status one. -/
  concluded : ∀ args, CommandLine.Asks args s.overrides → ∀ cause,
    (CommandLine.conclude args s.environment s.file = .failed cause ↔ load s = .error cause) ∧
      CommandLine.exitCode (.failed cause) = 1
  /-- The report has a title, a line for each problem and a hint. -/
  printed : ∀ problems, load s = .error (.invalid problems) →
    CommandLine.report s.file problems = CommandLine.notes s.file ++ ("Configuration error:\n" ++
      String.join (problems.map CommandLine.problemLine) ++ "\nUse --help for usage information\n")

theorem load_reported (s : Sources) : Reported s where
  broken := load_eq_unreadable_iff
  ended := by
    intro readable
    rw [load_of_readable readable]
    cases check s.value? with
    | ok settings => exact .inl ⟨settings, rfl⟩
    | error problems => exact .inr ⟨problems, rfl⟩
  problems := by
    intro problems invalid
    exact blames_check problems (check_of_invalid invalid).2
  named := by
    intro problems invalid setting
    obtain ⟨readable, checked⟩ := check_of_invalid invalid
    have named := @exists_named_iff s.value? setting
    rw [checked] at named
    exact named.trans (not_congr (convertible_iff readable)).symm
  concluded := fun _ asks _ => ⟨CommandLine.conclude_eq_failed_iff asks, rfl⟩
  printed := by
    intro problems invalid
    apply CommandLine.report_eq
    intro p member
    obtain ⟨setting, names⟩ := (blames_check problems (check_of_invalid invalid).2).2 p member
    exact names.plain

/-- A list that is given as a word and not in JSON ends the program without any report. -/
theorem load_garbled_list :
    let s : Sources :=
      ⟨[], [("NEO4J_PASSWORD", "secret"), ("EXTRA_FORBIDDEN_KEYWORDS", "truncate")], none⟩
    (∀ settings, load s ≠ .ok settings) ∧ (∀ problems, load s ≠ .error (.invalid problems)) ∧
      CommandLine.conclude [] s.environment s.file =
        .failed (.unreadable (.malformed .extraForbidden .environment)) := by
  intro s
  have breaks : load s = .error (.unreadable (.malformed .extraForbidden .environment)) := by
    decide +kernel
  have asks : CommandLine.Asks [] s.overrides := ⟨.empty, rfl, rfl, rfl, rfl⟩
  refine ⟨?_, ?_, (CommandLine.conclude_eq_failed_iff asks).mpr breaks⟩
  · intro settings loads
    cases breaks.symm.trans loads
  · intro problems invalid
    cases breaks.symm.trans invalid

end Settings

end CypherGate
