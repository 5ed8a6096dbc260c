import CypherGate.Proofs.JsonGrammar
/-!
# Which plain forms are written as JSON documents

A document has no capital N or I outside its strings, and the words for floats that are no numbers have
one. So the text of a tree, where it has one, is a document just if all its floats are finite.
-/
namespace CypherGate

namespace Json

variable {s t v w : List Char} {P Q : Prop}

/-- Where a character stands, seen from the strings of a text. -/
inductive Place where
  | outside
  | inside
  /-- Behind a backslash in a string. -/
  | escaped

/-- The characters outside strings. Quotes belong to the strings. -/
def bare : Place → List Char → List Char
  | _, [] => []
  | .outside, c :: s => if c = '\x22' then bare .inside s else c :: bare .outside s
  | .inside, c :: s =>
    if c = '\x22' then bare .outside s
    else if c = '\\' then bare .escaped s else bare .inside s
  | .escaped, _ :: s => bare .inside s

/-- Every string of the text ends in it, and these are the characters outside strings. -/
def Shows (s w : List Char) : Prop := ∀ rest, bare .outside (s ++ rest) = w ++ bare .outside rest

theorem Shows.append (h : Shows s v) (k : Shows t w) : Shows (s ++ t) (v ++ w) := by
  intro rest
  rw [List.append_assoc, h, k, List.append_assoc]

theorem Shows.unique (h : Shows s v) (k : Shows s w) : v = w := by
  simpa [bare] using (h []).symm.trans (k [])

theorem shows_of_notMem (h : '\x22' ∉ s) : Shows s s := by
  intro rest
  induction s with
  | nil => rfl
  | cons c s ih =>
    obtain ⟨quote, others⟩ := not_or.mp (List.mem_cons.not.mp h)
    rw [List.cons_append, bare, if_neg (Ne.symm quote), ih others, List.cons_append]

theorem bare_hexDigit {c : Char} (h : IsHexDigit c) (rest : List Char) :
    bare .inside (c :: rest) = bare .inside rest := by
  have quote : c ≠ '\x22' := by
    rintro rfl
    exact absurd h (by decide)
  have backslash : c ≠ '\\' := by
    rintro rfl
    exact absurd h (by decide)
  rw [bare, if_neg quote, if_neg backslash]

theorem bare_content (h : IsContent s) (rest : List Char) :
    bare .inside (s ++ rest) = bare .inside rest := by
  induction h with
  | nil => rfl
  | plain _ quote backslash _ ih => rw [List.cons_append, bare, if_neg quote, if_neg backslash, ih]
  | short _ _ ih => simpa [bare] using ih
  | unit hex _ ih =>
    simp only [List.forall_mem_cons] at hex
    obtain ⟨ha, hb, hc, hd, -⟩ := hex
    simp only [List.cons_append]
    rw [bare, if_neg (by decide), if_pos rfl, bare, bare_hexDigit ha, bare_hexDigit hb,
      bare_hexDigit hc, bare_hexDigit hd, ih]

theorem shows_isString (h : IsString s) : Shows s [] := by
  obtain ⟨content, h, rfl⟩ := h
  intro rest
  simp [bare, bare_content h]

/-- Neither of the capitals in `NaN` and `Infinity`. -/
def IsUsual (c : Char) : Prop := c ≠ 'N' ∧ c ≠ 'I'

instance (c : Char) : Decidable (IsUsual c) := inferInstanceAs (Decidable (_ ∧ _))

/-- Only usual characters stand outside the strings of the text. -/
def Clean (s : List Char) : Prop := ∃ w, Shows s w ∧ ∀ c ∈ w, IsUsual c

theorem Clean.append (h : Clean s) (k : Clean t) : Clean (s ++ t) := by
  obtain ⟨v, hv, usual⟩ := h
  obtain ⟨w, hw, usual'⟩ := k
  exact ⟨v ++ w, hv.append hw, List.forall_mem_append.mpr ⟨usual, usual'⟩⟩

theorem clean_of_usual (h : ∀ c ∈ s, c ≠ '\x22' ∧ IsUsual c) : Clean s :=
  ⟨s, shows_of_notMem fun mem => (h _ mem).1 rfl, fun c hc => (h c hc).2⟩

theorem clean_of_all (h : s.all fun c => c ≠ '\x22' ∧ IsUsual c) : Clean s :=
  clean_of_usual (by simpa using h)

theorem Clean.cons {c : Char} (usual : c ≠ '\x22' ∧ IsUsual c) (h : Clean s) : Clean (c :: s) :=
  (clean_of_usual (s := [c]) (by simpa using usual)).append h

theorem clean_isString (h : IsString s) : Clean s := ⟨[], shows_isString h, by simp⟩

theorem clean_isDigits (h : IsDigits s) : Clean s := by
  refine clean_of_usual fun c hc => ?_
  have digit := h.2 c hc
  refine ⟨?_, ?_, ?_⟩ <;>
    · rintro rfl
      exact absurd digit (by decide)

theorem clean_isNumber (h : IsNumber s) : Clean s := by
  obtain ⟨signed, digits, -, broken, scaled⟩ := h
  refine Clean.append ?_ ((clean_isDigits digits).append (Clean.append ?_ ?_))
  · rcases signed with rfl | rfl <;> exact clean_of_all (by decide)
  · cases broken with
    | absent => exact clean_of_all (by decide)
    | digits h => exact (clean_isDigits h).cons (by decide)
  · cases scaled with
    | absent => exact clean_of_all (by decide)
    | digits power signed h =>
      refine Clean.cons ?_ (Clean.append ?_ (clean_isDigits h))
      · rcases power with rfl | rfl <;> decide
      · rcases signed with rfl | rfl | rfl <;> exact clean_of_all (by decide)

theorem clean_isBlank (h : IsBlank s) : Clean s := by
  refine clean_of_usual fun c hc => ?_
  rcases h c hc with rfl | rfl | rfl | rfl <;> decide

theorem clean_of_derives {part : Part} (h : Derives part s) : Clean s := by
  have bracket : Clean [']'] := clean_of_all (by decide)
  have brace : Clean ['\x7d'] := clean_of_all (by decide)
  induction h with
  | word h =>
    simp only [List.mem_cons, List.not_mem_nil, or_false] at h
    rcases h with rfl | rfl | rfl <;> exact clean_of_all (by decide)
  | number h => exact clean_isNumber h
  | string h => exact clean_isString h
  | emptyList h => exact ((clean_isBlank h).append bracket).cons (by decide)
  | list _ ih => exact (ih.append bracket).cons (by decide)
  | emptyMap h => exact ((clean_isBlank h).append brace).cons (by decide)
  | map _ ih => exact (ih.append brace).cons (by decide)
  | element leads _ trails ih => exact (clean_isBlank leads).append (ih.append (clean_isBlank trails))
  | lastElement _ ih | lastMember _ ih => exact ih
  | nextElement _ _ ih ih' | nextMember _ _ ih ih' => exact ih.append (ih'.cons (by decide))
  | member leads named trails _ ih =>
    exact (clean_isBlank leads).append ((clean_isString named).append
      ((clean_isBlank trails).append (ih.cons (by decide))))

/-- If only usual characters stand outside the strings of the text, something is known. -/
def Tells (s : List Char) (P : Prop) : Prop := ∃ w, Shows s w ∧ ((∀ c ∈ w, IsUsual c) → P)

theorem Tells.of_clean (h : Tells s P) (k : Clean s) : P := by
  obtain ⟨v, hv, known⟩ := h
  obtain ⟨w, hw, usual⟩ := k
  exact known (hv.unique hw ▸ usual)

theorem Clean.tells (h : Clean s) (p : P) : Tells s P := by
  obtain ⟨w, hw, -⟩ := h
  exact ⟨w, hw, fun _ => p⟩

theorem Tells.append (h : Tells s P) (k : Tells t Q) : Tells (s ++ t) (P ∧ Q) := by
  obtain ⟨v, hv, first⟩ := h
  obtain ⟨w, hw, second⟩ := k
  refine ⟨v ++ w, hv.append hw, fun usual => ?_⟩
  obtain ⟨usual, usual'⟩ := List.forall_mem_append.mp usual
  exact ⟨first usual, second usual'⟩

theorem Tells.mono (h : Tells s P) (k : P → Q) : Tells s Q := by
  obtain ⟨w, hw, known⟩ := h
  exact ⟨w, hw, k ∘ known⟩

theorem Clean.before (h : Clean s) (k : Tells t P) : Tells (s ++ t) P :=
  ((h.tells trivial).append k).mono And.right

theorem Tells.close (h : Tells s P) (k : Clean t) : Tells (s ++ t) P :=
  (h.append (k.tells trivial)).mono And.left

theorem tells_unusual {word : List Char} (bare : '\x22' ∉ word) {c : Char} (mem : c ∈ word)
    (unusual : ¬IsUsual c) : Tells word P :=
  ⟨word, shows_of_notMem bare, fun usual => absurd (usual c mem) unusual⟩

theorem tells_float (x : Binary64) : Tells (FloatStyle.json.text x) x.isFinite := by
  cases x with
  | nan => exact tells_unusual (by decide) (c := 'N') (by decide) (by decide)
  | infinite negative =>
    cases negative <;> exact tells_unusual (by decide) (c := 'I') (by decide) (by decide)
  | finite negative n => exact (clean_isNumber (isNumber_text negative n)).tells rfl

theorem clean_line (level : Nat) : Clean (line level) := clean_isBlank (isBlank_line level)

theorem clean_string (s : String) : Clean (string s) := clean_isString (isString_string s)

theorem tells_named (h : Tells s P) : Tells (':' :: ' ' :: s) P :=
  (clean_of_all (s := [':', ' ']) (by decide)).before h

mutual
/-- A text without the capitals in question is that of a tree of finite floats. -/
theorem tells_write (level : Nat) (t : Tree) : Tells (write level t) t.FiniteFloats := by
  cases t with
  | null => exact (clean_of_all (s := "null".toList) (by decide)).tells .null
  | bool b =>
    cases b with
    | true => exact (clean_of_all (s := "true".toList) (by decide)).tells (.bool true)
    | false => exact (clean_of_all (s := "false".toList) (by decide)).tells (.bool false)
  | int n =>
    rw [write]
    exact (clean_isNumber (isNumber_signedDecimal n)).tells (.int n)
  | float x =>
    rw [write]
    exact (tells_float x).mono .float
  | str s =>
    rw [write]
    exact (clean_string s).tells (.str s)
  | other s =>
    rw [write]
    exact (clean_string s.text).tells (.other s)
  | list items =>
    cases items with
    | nil =>
      rw [write]
      exact (clean_of_all (by decide)).tells (.list (by simp))
    | cons t rest =>
      have start : Clean ('[' :: line (level + 1)) := (clean_line _).cons (by decide)
      have inner := (start.before (tells_write (level + 1) t)).append
        (tells_writeItems (level + 1) rest)
      rw [write]
      refine ((inner.close (clean_line level)).close (clean_of_all (by decide))).mono fun each => ?_
      exact .list (List.forall_mem_cons.mpr each)
  | map entries =>
    cases entries with
    | nil =>
      rw [write]
      exact (clean_of_all (by decide)).tells (.map (by simp))
    | cons entry rest =>
      obtain ⟨key, t⟩ := entry
      have start : Clean ('\x7b' :: line (level + 1) ++ string key) :=
        ((clean_line _).cons (by decide)).append (clean_string key)
      have inner := (start.before (tells_named (tells_write (level + 1) t))).append
        (tells_writeEntries (level + 1) rest)
      rw [write]
      refine ((inner.close (clean_line level)).close (clean_of_all (by decide))).mono fun each => ?_
      exact .map (List.forall_mem_cons.mpr each)

theorem tells_writeItems (level : Nat) (items : List Tree) :
    Tells (writeItems level items) (∀ t ∈ items, t.FiniteFloats) := by
  cases items with
  | nil => exact (clean_of_usual (by simp [writeItems])).tells (by simp)
  | cons t rest =>
    have start : Clean (',' :: line level) := (clean_line _).cons (by decide)
    rw [writeItems]
    exact ((start.before (tells_write level t)).append (tells_writeItems level rest)).mono
      List.forall_mem_cons.mpr

theorem tells_writeEntries (level : Nat) (entries : List (String × Tree)) :
    Tells (writeEntries level entries) (∀ e ∈ entries, e.2.FiniteFloats) := by
  cases entries with
  | nil => exact (clean_of_usual (by simp [writeEntries])).tells (by simp)
  | cons entry rest =>
    obtain ⟨key, t⟩ := entry
    have start : Clean (',' :: line level ++ string key) :=
      ((clean_line _).cons (by decide)).append (clean_string key)
    rw [writeEntries]
    refine ((start.before (tells_named (tells_write level t))).append
      (tells_writeEntries level rest)).mono fun each => ?_
    exact List.forall_mem_cons.mpr each
end

end Json

namespace Tree

variable {t : Tree} {text : String}

theorem isDocument_of_json? (written : t.json? = some text) (finite : t.FiniteFloats) :
    Json.IsDocument text.toList := by
  have value := Json.Derives.element Json.isBlank_nil (Json.derives_write finite 0) Json.isBlank_nil
  rw [List.append_nil, List.nil_append] at value
  rw [toList_of_json? written]
  exact value

theorem finiteFloats_of_isDocument (written : t.json? = some text) (h : Json.IsDocument text.toList) :
    t.FiniteFloats := by
  rw [toList_of_json? written] at h
  exact (Json.tells_write 0 t).of_clean (Json.clean_of_derives h)

/-- The plain form of a value that can be written and whose floats are finite is written as a JSON document.
Otherwise it has no text at all, or its text is no document: a float that is no number, at whatever depth,
spoils the whole. -/
theorem json_standard {v : Value} (h : normalize v = .ok t) :
    (v.Writable → v.FiniteFloats → ∃ text, t.json? = some text ∧ Json.IsDocument text.toList) ∧
      ((∃ text, t.json? = some text) ↔ v.Writable) ∧
      ∀ text, t.json? = some text → (Json.IsDocument text.toList ↔ t.FiniteFloats) := by
  have written := exists_json?_iff.trans (PlainForm.writable_iff h)
  refine ⟨fun writable finite => ?_, written, fun text own => ?_⟩
  · obtain ⟨text, own⟩ := written.mpr writable
    exact ⟨text, own, isDocument_of_json? own (normalize_finite finite t h)⟩
  · exact ⟨finiteFloats_of_isDocument own, isDocument_of_json? own⟩

/-- A quote and a point whose first coordinate is as small as can be. -/
theorem json_standard_point :
    let tiny : Binary64 := .finite true ⟨1, by decide⟩
    let v : Value := .tuple [.str "\x22", .point 7203 [tiny, .zero false]]
    let t : Tree := .list [.str "\x22",
      .map [("srid", .int 7203), ("x", .float tiny), ("y", .float (.zero false))]]
    normalize v = .ok t ∧ v.Writable ∧ v.FiniteFloats ∧ t.FiniteFloats ∧
      ∃ text, t.json? = some text ∧ Json.IsDocument text.toList := by
  intro tiny v t
  have plain : normalize v = .ok t := rfl
  have finite : v.FiniteFloats := by
    refine .tuple ?_
    simp only [List.forall_mem_cons]
    exact ⟨.str _, .point 7203 (by simp [tiny, Binary64.isFinite, Binary64.zero]), by simp⟩
  have writable : v.Writable := (PlainForm.writable_iff plain).mp ((isWritable_iff t).mp (by decide))
  obtain ⟨text, written, document⟩ := (json_standard plain).1 writable finite
  exact ⟨plain, writable, finite, ((json_standard plain).2.2 text written).mp document, text, written,
    document⟩

/-- What is no number has a plain form and can be written, but its text is none of JSON. -/
theorem json_nonstandard_nan :
    normalize (.float .nan) = .ok (.float .nan) ∧ (Tree.float .nan).json? = some "NaN" ∧
      ¬Json.IsDocument "NaN".toList := by
  have written : (Tree.float .nan).json? = some "NaN" := rfl
  refine ⟨rfl, written, fun h => ?_⟩
  cases finiteFloats_of_isDocument written h with
  | float finite => cases finite

end Tree

end CypherGate
