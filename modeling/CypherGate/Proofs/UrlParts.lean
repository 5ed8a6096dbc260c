import CypherGate.Proofs.ElementIds
import CypherGate.Url.Authority
/-!
# Parts of a URL

A text has a scheme and an authority just if it is spelled as one: a scheme, a colon, two slashes, and an
authority that goes up to the next delimiter. The host stands in the authority, between the user information
and the port. An authority can do without, since it can have user information and a port alone.
-/
namespace CypherGate

namespace Text

theorem cut?_append_cons {d : Char} {before : List Char} (h : d ∉ before) (after : List Char) :
    cut? d (before ++ d :: after) = some (before, after) := by
  have kept : ∀ c ∈ before, (!(c == d)) = true := by
    intro c member
    simpa using fun same : c = d => h (same ▸ member)
  have split : splitBefore (· == d) (before ++ d :: after) = (before, d :: after) := by
    unfold splitBefore
    rw [List.takeWhile_append_of_pos kept, List.dropWhile_append_of_pos kept,
      List.takeWhile_cons_of_neg (by simp), List.dropWhile_cons_of_neg (by simp), List.append_nil]
  rw [cut?, split]

end Text

namespace Url

open Text

def endsAuthority (c : Char) : Bool := c == '/' || c == '?' || c == '#'

/-- The text is spelled with this scheme and this authority. -/
def Spells (s : List Char) (u : Url) : Prop :=
  ∃ first letters rest, s = (first :: letters) ++ ':' :: '/' :: '/' :: (u.authority ++ rest) ∧
    isAsciiLetter first ∧ (∀ c ∈ letters, isSchemeChar c) ∧
    u.scheme = (first :: letters).map Char.toLower ∧
    (∀ c ∈ u.authority, ¬endsAuthority c) ∧ ∀ c ∈ rest.head?, endsAuthority c

def found (s : List Char) : Url := ⟨(splitScheme s).1, takeAuthority (splitScheme s).2⟩

variable {s rest : List Char} {u : Url}

theorem isSchemeChar_of_letter {c : Char} (h : isAsciiLetter c) : isSchemeChar c := by
  simp [isSchemeChar, h]

theorem splitScheme_of_spelled {first : Char} {letters : List Char} (letter : isAsciiLetter first)
    (others : ∀ c ∈ letters, isSchemeChar c) :
    splitScheme ((first :: letters) ++ ':' :: rest) = ((first :: letters).map Char.toLower, rest) := by
  have chars : ∀ c ∈ first :: letters, isSchemeChar c := by
    intro c member
    rcases List.mem_cons.mp member with rfl | later
    · exact isSchemeChar_of_letter letter
    · exact others c later
  have noColon : ':' ∉ first :: letters := fun member => absurd (chars ':' member) (by decide)
  have all : ((first :: letters).head?.any isAsciiLetter && (first :: letters).all isSchemeChar) = true := by
    rw [Bool.and_eq_true, List.all_eq_true]
    exact ⟨letter, chars⟩
  rw [splitScheme, cut?_append_cons noColon]
  exact if_pos all

theorem spelled_of_splitScheme (some : (splitScheme s).1 ≠ []) :
    ∃ first letters, s = (first :: letters) ++ ':' :: (splitScheme s).2 ∧ isAsciiLetter first ∧
      (∀ c ∈ letters, isSchemeChar c) ∧ (splitScheme s).1 = (first :: letters).map Char.toLower := by
  unfold splitScheme at some ⊢
  cases parted : cut? ':' s with
  | none => simp [parted] at some
  | some parts =>
    obtain ⟨scheme, rest⟩ := parts
    simp only [parted] at some ⊢
    split at some
    next proper =>
      rw [if_pos proper]
      rw [Bool.and_eq_true, List.all_eq_true] at proper
      cases scheme with
      | nil => simp at some
      | cons first letters =>
        refine ⟨first, letters, cut?_eq_some parted, proper.1, ?_, rfl⟩
        intro c member
        exact proper.2 c (List.mem_cons_of_mem first member)
    next => exact absurd rfl some

theorem takeAuthority_slashes (behind : List Char) :
    takeAuthority ('/' :: '/' :: behind) = behind.takeWhile fun c => !endsAuthority c := by
  have same : (fun c : Char => c != '/' && c != '?' && c != '#') = fun c => !endsAuthority c := by
    funext c
    simp [endsAuthority, bne]
  rw [takeAuthority, same]

theorem takeAuthority_of_spelled {authority : List Char} (inside : ∀ c ∈ authority, ¬endsAuthority c)
    (stop : ∀ c ∈ rest.head?, endsAuthority c) :
    takeAuthority ('/' :: '/' :: (authority ++ rest)) = authority := by
  rw [takeAuthority_slashes, List.takeWhile_append_of_pos (by simpa using inside)]
  cases rest with
  | nil => simp
  | cons c rest =>
    have ends : endsAuthority c := stop c rfl
    rw [List.takeWhile_cons_of_neg (by simpa using ends), List.append_nil]

theorem spelled_of_takeAuthority (some : takeAuthority s ≠ []) :
    ∃ rest, s = '/' :: '/' :: (takeAuthority s ++ rest) ∧ (∀ c ∈ takeAuthority s, ¬endsAuthority c) ∧
      ∀ c ∈ rest.head?, endsAuthority c := by
  have slashes : ∃ behind, s = '/' :: '/' :: behind := by
    unfold takeAuthority at some
    split at some
    next behind => exact ⟨behind, rfl⟩
    next none => exact absurd rfl some
  obtain ⟨behind, rfl⟩ := slashes
  rw [takeAuthority_slashes]
  refine ⟨behind.dropWhile fun c => !endsAuthority c, ?_, ?_, ?_⟩
  · rw [List.takeWhile_append_dropWhile]
  · intro c member
    simpa using List.mem_takeWhile_imp member
  · intro c first
    have stop := List.head?_dropWhile_not (fun c => !endsAuthority c) behind
    rw [Option.mem_def.mp first] at stop
    simpa using stop

theorem found_eq_iff (authority : u.authority ≠ []) (scheme : u.scheme ≠ []) :
    found s = u ↔ Spells s u := by
  constructor
  · rintro rfl
    obtain ⟨first, letters, split, letter, others, named⟩ := spelled_of_splitScheme scheme
    obtain ⟨rest, behind, inside, stop⟩ := spelled_of_takeAuthority authority
    refine ⟨first, letters, rest, ?_, letter, others, named, inside, stop⟩
    exact split.trans (congrArg (fun tail => (first :: letters) ++ ':' :: tail) behind)
  · rintro ⟨first, letters, rest, rfl, letter, others, named, inside, stop⟩
    unfold found
    rw [splitScheme_of_spelled letter others]
    show (⟨_, takeAuthority _⟩ : Url) = u
    rw [takeAuthority_of_spelled inside stop, ← named]

/-! ## The host -/

/-- Nothing, or a colon and what follows it. -/
def IsPort (s : List Char) : Prop := s = [] ∨ ∃ digits, s = ':' :: digits

/-- The host of an authority: what stands between the user information, which ends at the last at sign, and
the port, without the brackets that may enclose it. -/
inductive HostIn (authority : List Char) : List Char → Prop where
  | bare {host port : List Char} (last : LastPart '@' authority (host ++ port)) (colon : ':' ∉ host)
    (open_bracket : host.head? ≠ some '[') (isPort : IsPort port) : HostIn authority host
  | bracketed {host behind : List Char} (last : LastPart '@' authority ('[' :: (host ++ behind)))
    (bracket : ']' ∉ host) (isPort : behind = [] ∨ ∃ port, behind = ']' :: port ∧ IsPort port) :
    HostIn authority host

/-- There is user information and a port at most. -/
def Hostless (authority : List Char) : Prop := ∃ port, LastPart '@' authority port ∧ IsPort port

theorem lastPart_place (authority : List Char) : LastPart '@' authority (place authority) :=
  lastPart_afterLast '@' authority

theorem place_eq {authority part : List Char} (last : LastPart '@' authority part) :
    place authority = part :=
  last.afterLast_eq

theorem mem_of_mem_place {authority : List Char} {c : Char} (member : c ∈ place authority) :
    c ∈ authority := by
  obtain ⟨-, whole | ⟨front, split⟩⟩ := lastPart_place authority
  · rwa [whole]
  · rw [split]
    exact List.mem_append_right front (List.mem_cons_of_mem '@' member)

theorem placeDefect?_of_bracket {authority bracketed : List Char}
    (none : bracketDefect? authority = none) (placed : place authority = '[' :: bracketed) :
    placeDefect? ('[' :: bracketed) = Option.none := by
  have opened : authority.contains '[' = true := by
    rw [List.contains_iff_mem]
    exact mem_of_mem_place (placed ▸ List.mem_cons_self)
  unfold bracketDefect? at none
  rw [opened, placed] at none
  split at none
  next => contradiction
  next => exact none
  next => cases none

theorem bracketed_of_noDefect {bracketed : List Char} (none : placeDefect? ('[' :: bracketed) = none) :
    bracketed.takeWhile (· != ']') ≠ [] ∧ (bracketed.dropWhile (· != ']') = [] ∨
      ∃ port, bracketed.dropWhile (· != ']') = ']' :: port ∧ IsPort port) := by
  have cut : cut? '[' ('[' :: bracketed) = some ([], bracketed) :=
    cut?_append_cons List.not_mem_nil bracketed
  have stop := List.head?_dropWhile_not (· != ']') bracketed
  have enclosed : ∀ host, hostDefect? host = Option.none → host ≠ [] := by
    rintro host fine rfl
    cases fine
  have split : splitBefore (· == ']') bracketed =
      (bracketed.takeWhile (· != ']'), bracketed.dropWhile (· != ']')) := rfl
  rw [placeDefect?, cut] at none
  simp only [split] at none
  cases behind : bracketed.dropWhile (· != ']') with
  | nil =>
    rw [behind] at none
    exact ⟨enclosed _ none, .inl rfl⟩
  | cons d after =>
    rw [behind] at none stop
    obtain rfl : d = ']' := by simpa using stop
    cases after with
    | nil => exact ⟨enclosed _ none, .inr ⟨[], rfl, .inl rfl⟩⟩
    | cons c after =>
      by_cases colon : c = ':'
      · subst colon
        exact ⟨enclosed _ none, .inr ⟨_, rfl, .inr ⟨after, rfl⟩⟩⟩
      · simp [colon] at none

theorem isPort_dropWhile (s : List Char) : IsPort (s.dropWhile (· != ':')) := by
  have stop := List.head?_dropWhile_not (· != ':') s
  cases behind : s.dropWhile (· != ':') with
  | nil => exact .inl rfl
  | cons c digits =>
    rw [behind] at stop
    obtain rfl : c = ':' := by simpa using stop
    exact .inr ⟨digits, rfl⟩

theorem notMem_takeWhile (d : Char) (s : List Char) : d ∉ s.takeWhile (· != d) := by
  intro member
  simpa using List.mem_takeWhile_imp member

theorem hostIn_host (none : bracketDefect? u.authority = none) : HostIn u.authority u.host := by
  have last := lastPart_place u.authority
  unfold host
  split
  next bracketed placed =>
    obtain ⟨-, closed⟩ := bracketed_of_noDefect (placeDefect?_of_bracket none placed)
    rw [placed, ← @List.takeWhile_append_dropWhile _ (· != ']') bracketed] at last
    exact .bracketed last (notMem_takeWhile ']' bracketed) closed
  next other =>
    rw [← @List.takeWhile_append_dropWhile _ (· != ':') (place u.authority)] at last
    refine .bare last (notMem_takeWhile ':' _) ?_ (isPort_dropWhile _)
    intro first
    cases placed : place u.authority with
    | nil => simp [placed] at first
    | cons c rest =>
      by_cases colon : c = ':'
      · simp [placed, colon] at first
      · rw [placed, List.takeWhile_cons_of_pos (by simpa using colon), List.head?_cons,
          Option.some.injEq] at first
        exact other rest (first ▸ placed)

theorem host_eq_nil_iff (none : bracketDefect? u.authority = none) :
    u.host = [] ↔ Hostless u.authority := by
  constructor
  · unfold host
    split
    next bracketed placed =>
      intro empty
      exact absurd empty (bracketed_of_noDefect (placeDefect?_of_bracket none placed)).1
    next other =>
      intro empty
      refine ⟨place u.authority, lastPart_place u.authority, ?_⟩
      have whole := @List.takeWhile_append_dropWhile _ (· != ':') (place u.authority)
      rw [empty, List.nil_append] at whole
      exact whole ▸ isPort_dropWhile (place u.authority)
  · rintro ⟨port, last, isPort⟩
    unfold host
    rw [place_eq last]
    rcases isPort with rfl | ⟨digits, rfl⟩
    · rfl
    · rfl

end Url

end CypherGate
