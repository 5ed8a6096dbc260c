import CypherGate.Proofs.JsonStarts
import CypherGate.Proofs.JsonStrings
import CypherGate.Proofs.WritableTrees
/-!
# Trees as JSON text, and back

The text of a tree without repeated keys is read as the tree itself, but for the leaves that JSON lacks,
which come back as their texts. The reader needs no more fuel, digits and nesting than the text is long.
-/
namespace CypherGate

mutual
/-- The tree that JSON can show: what JSON lacks is a text. -/
def Tree.shown : Tree → Tree
  | .other s => .str s.text
  | .list items => .list (shownItems items)
  | .map entries => .map (shownEntries entries)
  | t => t

def shownItems : List Tree → List Tree
  | [] => []
  | t :: rest => t.shown :: shownItems rest

def shownEntries : List (String × Tree) → List (String × Tree)
  | [] => []
  | (key, t) :: rest => (key, t.shown) :: shownEntries rest
end

theorem keys_shownEntries (entries : List (String × Tree)) :
    (shownEntries entries).map Prod.fst = entries.map Prod.fst := by
  induction entries with
  | nil => rfl
  | cons entry rest ih => rw [shownEntries, List.map_cons, List.map_cons, ih]

namespace Json

open FloatStyle

/-! ## Reading back -/

/-- A reader that bears everything a text of this length can hold. -/
structure Room (digits fuel nesting : Nat) (s : List Char) : Prop where
  fuel : 2 * s.length ≤ fuel
  digits : s.length ≤ digits
  nesting : s.length ≤ nesting

namespace Room

variable {digits fuel nesting : Nat} {s t : List Char}

theorem part (room : Room digits fuel nesting s) (le : t.length ≤ s.length) :
    Room digits fuel nesting t := by
  obtain ⟨fuel_le, digits_le, nesting_le⟩ := room
  exact ⟨by omega, by omega, by omega⟩

theorem next (room : Room digits (fuel + 1) nesting s) (lt : t.length < s.length) :
    Room digits fuel nesting t := by
  obtain ⟨fuel_le, digits_le, nesting_le⟩ := room
  exact ⟨by omega, by omega, by omega⟩

theorem enter (room : Room digits fuel nesting s) (lt : t.length + 2 ≤ s.length) :
    ∃ fuel' nesting', fuel = fuel' + 2 ∧ nesting = nesting' + 1 ∧ Room digits fuel' nesting' t := by
  obtain ⟨fuel_le, digits_le, nesting_le⟩ := room
  exact ⟨fuel - 2, nesting - 1, by omega, by omega, by omega, by omega, by omega⟩

theorem exists_fuel {level : Nat} {t : Tree} (room : Room digits fuel nesting (write level t)) :
    ∃ k, fuel = k + 1 := by
  have := (starts_write level t).length_pos
  have := room.fuel
  exact ⟨fuel - 1, by omega⟩

end Room

/-- The text of a tree is read as what JSON can show of the tree, whatever comes after it. -/
def RoundTrips (t : Tree) : Prop :=
  ∀ level digits fuel nesting rest, Room digits fuel nesting (write level t) → Ends rest →
    readValue digits fuel nesting (write level t ++ rest) = .ok (t.shown, rest)

theorem roundTrips_literal {t : Tree} (c : Char) (word : List Char)
    (written : ∀ level, write level t = c :: word)
    (read : ∀ rest, readLiteral (c :: (word ++ rest)) = some (t.shown, rest))
    (start : c ≠ '\x22' ∧ c ≠ '[' ∧ c ≠ '\x7b') : RoundTrips t := by
  intro level digits fuel nesting rest room ends
  obtain ⟨k, rfl⟩ := room.exists_fuel
  rw [written, List.cons_append, readValue_scalar]
  · rw [readScalar, read]
    rfl
  · rintro d ⟨⟩
    exact start

theorem roundTrips_int (n : Int) : RoundTrips (.int n) := by
  intro level digits fuel nesting rest room ends
  obtain ⟨k, rfl⟩ := room.exists_fuel
  obtain ⟨w, read, value, integral, leading, length⟩ := signedDecimal_reads n ends
  have borne := room.digits
  rw [write] at borne ⊢
  rw [readValue_number k nesting read leading fun _ => length.trans borne, numberTree, if_pos integral,
    value]
  rfl

theorem roundTrips_float (x : Binary64) : RoundTrips (.float x) := by
  cases x with
  | nan => exact roundTrips_literal 'N' "aN".toList (fun _ => rfl) (fun _ => rfl) (by decide)
  | infinite negative =>
    cases negative with
    | true =>
      exact roundTrips_literal '-' "Infinity".toList (fun _ => rfl) (fun _ => rfl) (by decide)
    | false =>
      exact roundTrips_literal 'I' "nfinity".toList (fun _ => rfl) (fun _ => rfl) (by decide)
  | finite negative n =>
    intro level digits fuel nesting rest room ends
    obtain ⟨k, rfl⟩ := room.exists_fuel
    obtain ⟨w, read, value, broken, leading⟩ := text_reads json negative n ends
    rw [write, readValue_number k nesting read leading (by simp [broken]), numberTree, value]
    simp [broken, Tree.shown]

theorem string_append (s : String) (rest : List Char) :
    string s ++ rest = '\x22' :: (s.toList.flatMap escapeChar ++ '\x22' :: rest) := by
  simp [string]

theorem roundTrips_string {t : Tree} (s : String) (written : ∀ level, write level t = string s)
    (shown : t.shown = .str s) : RoundTrips t := by
  intro level digits fuel nesting rest room ends
  obtain ⟨k, rfl⟩ := room.exists_fuel
  rw [written, string_append, readValue, readString_string, shown]
  rfl

theorem writeItems_cons (level : Nat) (t : Tree) (ts : List Tree) (rest : List Char) :
    writeItems level (t :: ts) ++ rest =
      ',' :: (line level ++ (write level t ++ (writeItems level ts ++ rest))) := by
  simp [writeItems]

theorem readItems_last {digits fuel nesting : Nat} {s r rest : List Char} {t : Tree}
    (read : readValue digits fuel nesting s = .ok (t, r)) (close : skipSpace r = ']' :: rest) :
    readItems digits (fuel + 1) nesting s = .ok ([t], rest) := by
  rw [readItems, read]
  simp only [bind, Except.bind, close]
  rfl

theorem readItems_next {digits fuel nesting : Nat} {s r r' rest : List Char} {t : Tree}
    {ts : List Tree} (read : readValue digits fuel nesting s = .ok (t, r))
    (comma : skipSpace r = ',' :: r')
    (more : readItems digits fuel nesting (skipSpace r') = .ok (ts, rest)) :
    readItems digits (fuel + 1) nesting s = .ok (t :: ts, rest) := by
  rw [readItems, read]
  simp only [bind, Except.bind, comma, more]
  rfl

theorem readItems_write {t : Tree} {ts : List Tree} (each : ∀ u ∈ t :: ts, RoundTrips u)
    {level outer digits fuel nesting : Nat} {rest : List Char}
    (room : Room digits fuel nesting (write level t ++ writeItems level ts)) :
    readItems digits (fuel + 1) nesting
      (write level t ++ (writeItems level ts ++ (line outer ++ ']' :: rest))) =
      .ok (t.shown :: shownItems ts, rest) := by
  have first : Room digits fuel nesting (write level t) := room.part (by simp)
  have here := each t List.mem_cons_self
  -- Every further item takes one of the fuel, and two characters at least.
  induction ts generalizing t fuel with
  | nil =>
    exact readItems_last (here level digits fuel nesting _ first (ends_line outer _))
      (skipSpace_close rfl outer rest)
  | cons u us ih =>
    obtain ⟨k, rfl⟩ := first.exists_fuel
    have others : Room digits k nesting (write level u ++ writeItems level us) := by
      refine room.next ?_
      simp [writeItems]
      omega
    have each' : ∀ v ∈ u :: us, RoundTrips v := fun v hv => each v (List.mem_cons_of_mem t hv)
    have after := ih each' others (others.part (by simp)) (each' u List.mem_cons_self)
    rw [writeItems_cons]
    refine readItems_next (here level digits (k + 1) nesting _ first (ends_cons (by decide) _))
      (skipSpace_of_head (by simp [isSpace])) ?_
    rw [skipSpace_line, (starts_write level u).skipSpace]
    exact after

theorem readValue_list {digits fuel nesting : Nat} {r rest : List Char} {items : List Tree}
    (start : ∀ s, skipSpace r ≠ ']' :: s)
    (read : readItems digits fuel nesting (skipSpace r) = .ok (items, rest)) :
    readValue digits (fuel + 1) (nesting + 1) ('[' :: r) = .ok (.list items, rest) := by
  rw [readValue]
  split
  next s empty => exact absurd empty (start s)
  next =>
    rw [read]
    rfl

theorem roundTrips_list {items : List Tree} (each : ∀ t ∈ items, RoundTrips t) :
    RoundTrips (.list items) := by
  intro level digits fuel nesting rest room ends
  cases items with
  | nil =>
    rw [write] at room ⊢
    obtain ⟨k, m, rfl, rfl, -⟩ := room.enter (t := []) (Nat.le_refl 2)
    rw [List.cons_append, readValue]
    rfl
  | cons t ts =>
    have written : ∀ rest, write level (.list (t :: ts)) ++ rest =
        '[' :: (line (level + 1) ++ (write (level + 1) t ++
          (writeItems (level + 1) ts ++ (line level ++ ']' :: rest)))) := by
      intro rest
      simp [write]
    obtain ⟨k, m, rfl, rfl, inner⟩ := room.enter (t := write (level + 1) t ++ writeItems (level + 1) ts)
      (by simp [write]; omega)
    have start := starts_write (level + 1) t
    rw [written]
    refine readValue_list ?_ ?_
    · intro s
      rw [skipSpace_line, start.skipSpace]
      obtain ⟨c, s', head, -, other⟩ := start
      rw [head]
      exact fun same => other (List.cons.inj same).1
    · rw [skipSpace_line, start.skipSpace]
      exact readItems_write each inner

theorem readEntries_last {digits fuel nesting : Nat} {s r rest : List Char} {t : Tree} (key : String)
    (start : skipSpace s = s) (read : readValue digits fuel nesting s = .ok (t, r))
    (close : skipSpace r = '\x7d' :: rest) :
    readEntries digits (fuel + 1) nesting (string key ++ ':' :: ' ' :: s) = .ok ([(key, t)], rest) := by
  have blank : skipSpace (' ' :: s) = s := start
  have colon : skipSpace (':' :: ' ' :: s) = ':' :: ' ' :: s := rfl
  rw [string_append, readEntries]
  simp only [bind, Except.bind, readString_string, colon, blank, read, close]
  rfl

theorem readEntries_next {digits fuel nesting : Nat} {s r r' rest : List Char} {t : Tree}
    {pairs : List (String × Tree)} (key : String) (start : skipSpace s = s)
    (read : readValue digits fuel nesting s = .ok (t, r)) (comma : skipSpace r = ',' :: r')
    (more : readEntries digits fuel nesting (skipSpace r') = .ok (pairs, rest)) :
    readEntries digits (fuel + 1) nesting (string key ++ ':' :: ' ' :: s) =
      .ok ((key, t) :: pairs, rest) := by
  have blank : skipSpace (' ' :: s) = s := start
  have colon : skipSpace (':' :: ' ' :: s) = ':' :: ' ' :: s := rfl
  rw [string_append, readEntries]
  simp only [bind, Except.bind, readString_string, colon, blank, read, comma, more]
  rfl

theorem writeEntries_cons (level : Nat) (key : String) (t : Tree) (entries : List (String × Tree))
    (rest : List Char) :
    writeEntries level ((key, t) :: entries) ++ rest =
      ',' :: (line level ++ (string key ++
        ':' :: ' ' :: (write level t ++ (writeEntries level entries ++ rest)))) := by
  simp [writeEntries]

theorem readEntries_write {key : String} {t : Tree} {entries : List (String × Tree)}
    (each : ∀ e ∈ (key, t) :: entries, RoundTrips e.2)
    {level outer digits fuel nesting : Nat} {rest : List Char}
    (room : Room digits fuel nesting (write level t ++ writeEntries level entries)) :
    readEntries digits (fuel + 1) nesting
      (string key ++ ':' :: ' ' :: (write level t ++
        (writeEntries level entries ++ (line outer ++ '\x7d' :: rest)))) =
      .ok ((key, t.shown) :: shownEntries entries, rest) := by
  have first : Room digits fuel nesting (write level t) := room.part (by simp)
  have here : RoundTrips t := each (key, t) List.mem_cons_self
  have start := (starts_write level t).skipSpace
  induction entries generalizing key t fuel with
  | nil =>
    exact readEntries_last key (start _) (here level digits fuel nesting _ first (ends_line outer _))
      (skipSpace_close rfl outer rest)
  | cons entry entries ih =>
    obtain ⟨key', u⟩ := entry
    obtain ⟨k, rfl⟩ := first.exists_fuel
    have others : Room digits k nesting (write level u ++ writeEntries level entries) := by
      refine room.next ?_
      simp [writeEntries]
      omega
    have each' : ∀ e ∈ (key', u) :: entries, RoundTrips e.2 := fun e he =>
      each e (List.mem_cons_of_mem _ he)
    have after := ih each' others (others.part (by simp)) (each' (key', u) List.mem_cons_self)
      (starts_write level u).skipSpace
    rw [writeEntries_cons]
    refine readEntries_next key (start _)
      (here level digits (k + 1) nesting _ first (ends_cons (by decide) _))
      (skipSpace_of_head (by simp [isSpace])) ?_
    rw [skipSpace_line, (starts_string key').skipSpace]
    exact after

theorem readValue_map {digits fuel nesting : Nat} {r rest : List Char}
    {pairs : List (String × Tree)} (start : ∀ s, skipSpace r ≠ '\x7d' :: s)
    (read : readEntries digits fuel nesting (skipSpace r) = .ok (pairs, rest)) :
    readValue digits (fuel + 1) (nesting + 1) ('\x7b' :: r) = .ok (.map (collapse pairs), rest) := by
  rw [readValue]
  split
  next s empty => exact absurd empty (start s)
  next =>
    rw [read]
    rfl

theorem roundTrips_map {entries : List (String × Tree)} (distinct : (entries.map Prod.fst).Nodup)
    (each : ∀ e ∈ entries, RoundTrips e.2) : RoundTrips (.map entries) := by
  intro level digits fuel nesting rest room ends
  cases entries with
  | nil =>
    rw [write] at room ⊢
    obtain ⟨k, m, rfl, rfl, -⟩ := room.enter (t := []) (Nat.le_refl 2)
    rw [List.cons_append, readValue]
    rfl
  | cons entry entries =>
    obtain ⟨key, t⟩ := entry
    have written : ∀ rest, write level (.map ((key, t) :: entries)) ++ rest =
        '\x7b' :: (line (level + 1) ++ (string key ++ ':' :: ' ' :: (write (level + 1) t ++
          (writeEntries (level + 1) entries ++ (line level ++ '\x7d' :: rest))))) := by
      intro rest
      simp [write]
    obtain ⟨k, m, rfl, rfl, inner⟩ := room.enter
      (t := write (level + 1) t ++ writeEntries (level + 1) entries) (by simp [write]; omega)
    have kept : (Tree.map ((key, t) :: entries)).shown =
        .map (collapse ((key, t.shown) :: shownEntries entries)) := by
      have same : (((key, t.shown) :: shownEntries entries).map Prod.fst).Nodup := by
        rw [List.map_cons, keys_shownEntries]
        exact distinct
      rw [collapse_of_nodup same]
      rfl
    have start := starts_string key
    rw [written, kept]
    refine readValue_map ?_ ?_
    · intro s
      rw [skipSpace_line, start.skipSpace]
      rintro ⟨⟩
    · rw [skipSpace_line, start.skipSpace]
      exact readEntries_write each inner

/-- In the text of a keyed tree nothing is lost but the kind of a leaf that JSON lacks. -/
theorem roundTrips_of_keyed {t : Tree} (keyed : t.Keyed) : RoundTrips t := by
  induction keyed with
  | null => exact roundTrips_literal 'n' "ull".toList (fun _ => rfl) (fun _ => rfl) (by decide)
  | bool b =>
    cases b with
    | true =>
      exact roundTrips_literal 't' "rue".toList (fun _ => rfl) (fun _ => rfl) (by decide)
    | false =>
      exact roundTrips_literal 'f' "alse".toList (fun _ => rfl) (fun _ => rfl) (by decide)
  | int n => exact roundTrips_int n
  | float x => exact roundTrips_float x
  | str s => exact roundTrips_string s (fun _ => rfl) rfl
  | other s => exact roundTrips_string s.text (fun _ => rfl) rfl
  | list each ih => exact roundTrips_list ih
  | map distinct each ih => exact roundTrips_map distinct ih

theorem read_write {t : Tree} (keyed : t.Keyed) : read (write 0 t) = some t.shown := by
  have room : Room (write 0 t).length (2 * (write 0 t).length + 2) (write 0 t).length (write 0 t) :=
    ⟨by omega, Nat.le_refl _, Nat.le_refl _⟩
  have whole := roundTrips_of_keyed keyed 0 _ _ _ [] room ends_nil
  have start := (starts_write 0 t).skipSpace []
  rw [List.append_nil] at whole start
  rw [read, readWithin, start, whole]
  rfl

end Json

theorem Tree.ofJson?_of_json? {t : Tree} (keyed : t.Keyed) {text : String} (h : t.json? = some text) :
    ofJson? text = some t.shown := by
  rw [ofJson?, toList_of_json? h, Json.read_write keyed]

end CypherGate
