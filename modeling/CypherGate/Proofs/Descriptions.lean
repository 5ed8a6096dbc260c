import CypherGate.Graph.Description
import CypherGate.Proofs.WritableTrees
/-!
# Values that can be described

A value of short integers and of scalars that can be described can itself be described. So nothing stands in
the way of writing it as it is, with the entities of a graph shown by their descriptions.
-/
namespace CypherGate

open Text

section

variable {α β : Type} (f : α → β)

theorem setEntry_map (key : String) (value : α) (entries : List (String × α)) :
    setEntry key (f value) (entries.map fun e => (e.1, f e.2)) =
      (setEntry key value entries).map fun e => (e.1, f e.2) := by
  induction entries with
  | nil => rfl
  | cons first rest ih =>
    obtain ⟨k, v⟩ := first
    by_cases same : k = key
    · simp [setEntry, same]
    · simp [setEntry, same, ih]

theorem collapse_map (pairs : List (String × α)) :
    collapse (pairs.map fun e => (e.1, f e.2)) = (collapse pairs).map fun e => (e.1, f e.2) := by
  induction pairs using List.reverseRecOn with
  | nil => rfl
  | append_singleton pairs pair ih =>
    unfold collapse at ih ⊢
    rw [List.map_append, List.foldl_append, List.foldl_append, ih]
    exact setEntry_map f pair.1 pair.2 _

theorem isSome_mapM {g : α → Option β} {xs : List α} (each : ∀ x ∈ xs, (g x).isSome) :
    (xs.mapM g).isSome := by
  induction xs with
  | nil => rfl
  | cons x rest ih =>
    obtain ⟨first, others⟩ := List.forall_mem_cons.mp each
    obtain ⟨y, here⟩ := Option.isSome_iff_exists.mp first
    obtain ⟨ys, later⟩ := Option.isSome_iff_exists.mp (ih others)
    rw [List.mapM_cons, here, later]
    rfl

theorem isSome_bind_pure {x : Option α} (h : x.isSome) : (x >>= fun a => pure (f a)).isSome := by
  obtain ⟨a, rfl⟩ := Option.isSome_iff_exists.mp h
  rfl

end

namespace Value

theorem descriptions_eq (items : List Value) : descriptions items = items.map description := by
  induction items with
  | nil => rfl
  | cons v rest ih => rw [descriptions, ih, List.map_cons]

theorem entryDescriptions_eq (entries : List (String × Value)) :
    entryDescriptions entries = entries.map fun e => (e.1, description e.2) := by
  induction entries with
  | nil => rfl
  | cons e rest ih => rw [entryDescriptions, ih, List.map_cons]

theorem stepDescriptions_eq (steps : List (Relationship Value × Node Value)) :
    stepDescriptions steps = steps.map fun step => description (.node step.2) := by
  induction steps with
  | nil => rfl
  | cons step rest ih => rw [stepDescriptions, ih, List.map_cons, description]

theorem plainItems_eq (items : List Value) : plainItems items = items.map plain := by
  induction items with
  | nil => rfl
  | cons v rest ih => rw [plainItems, ih, List.map_cons]

theorem plainEntries_eq (entries : List (String × Value)) :
    plainEntries entries = entries.map fun e => (e.1, plain e.2) := by
  induction entries with
  | nil => rfl
  | cons e rest ih => rw [plainEntries, ih, List.map_cons]

def Described (v : Value) : Prop := v.description.isSome

theorem isSome_items {items : List Value} (each : ∀ v ∈ items, v.Described) :
    ((descriptions items).mapM id).isSome := by
  rw [descriptions_eq]
  exact isSome_mapM (List.forall_mem_map.mpr each)

theorem isSome_entries {entries : List (String × Value)}
    (each : ∀ v ∈ (collapse entries).map Prod.snd, v.Described) :
    (Description.map (collapse (entryDescriptions entries))).isSome := by
  rw [entryDescriptions_eq, collapse_map]
  refine isSome_bind_pure _ (isSome_mapM (List.forall_mem_map.mpr fun e member => ?_))
  exact isSome_bind_pure _ (each e.2 (List.mem_map_of_mem member))

theorem isSome_decimalText? {n : Int} (short : Short n) : (decimalText? n).isSome := by
  rw [decimalText?, if_pos (isWritable_iff.mpr short)]
  rfl

theorem isSome_duration {months days seconds nanoseconds : Int}
    (short : ∀ n ∈ [months, days, seconds, nanoseconds], Short n) :
    (Description.duration months days seconds nanoseconds).isSome := by
  refine isSome_bind_pure _ (isSome_mapM fun field member => ?_)
  refine isSome_bind_pure _ (isSome_decimalText? (short field.2 ?_))
  simpa using List.mem_map_of_mem (f := Prod.snd) member

theorem Writable.described {v : Value} (h : v.Writable) : v.Described := by
  induction v using parts_induction with
  | step v ih =>
    have parts : ∀ w ∈ v.parts, w.Described := fun w part => ih w part (h.part part)
    cases v with
    | null | float x | str s | point srid coordinates => rfl
    | bool b => cases b <;> rfl
    | int n => exact isSome_decimalText? (h.integers _ .refl n List.mem_cons_self)
    | other s =>
      cases s with
      | bytes content | date text | time text | dateTime text => rfl
      | described kind text => exact h.scalars _ .refl
    | list items | tuple items =>
      rw [Described, description]
      exact isSome_bind_pure _ (isSome_items parts)
    | map entries =>
      rw [Described, description]
      exact isSome_entries parts
    | duration months days seconds nanoseconds => exact isSome_duration (h.integers _ .refl)
    | node n =>
      obtain ⟨elementId, labels, properties⟩ := n
      rw [Described, description, nodeDescription]
      exact isSome_bind_pure _ (isSome_entries parts)
    | relationship r =>
      obtain ⟨elementId, kind, start, finish, properties⟩ := r
      rw [Described, description]
      exact isSome_bind_pure _ (isSome_entries parts)
    | path p =>
      obtain ⟨start, steps⟩ := p
      obtain ⟨first, here⟩ := Option.isSome_iff_exists.mp (parts _ List.mem_cons_self)
      rw [description] at here
      have last : ((stepDescriptions steps).getLast?.getD (some first)).isSome := by
        rw [stepDescriptions_eq]
        cases final : (steps.map fun step => description (.node step.2)).getLast? with
        | none => rfl
        | some shown =>
          obtain ⟨step, member, rfl⟩ := List.mem_map.mp (List.mem_of_getLast? final)
          exact parts _ (List.mem_cons_of_mem _ (List.mem_flatMap.mpr ⟨step, member, by simp⟩))
      rw [Described, description, here]
      exact isSome_bind_pure _ last

theorem Writable.plain {v : Value} (h : v.Writable) : v.plain.Writable := by
  induction v using parts_induction with
  | step v ih =>
    have parts : ∀ w ∈ v.parts, w.plain.Writable := fun w part => ih w part (h.part part)
    cases v with
    | null | bool b | float x | str s => exact Tree.closed_within _ nofun nofun nofun
    | int n => exact Tree.within_int.mpr (h.integers _ .refl n List.mem_cons_self)
    | other s => exact Tree.within_other.mpr (h.scalars s .refl)
    | list items | tuple items =>
      rw [Value.plain, plainItems_eq]
      exact Tree.within_list.mpr (List.forall_mem_map.mpr parts)
    | map entries =>
      rw [Value.plain, plainEntries_eq, collapse_map]
      exact Tree.within_map.mpr
        (List.forall_mem_map.mpr fun e member => parts e.2 (List.mem_map_of_mem member))
    | duration months days seconds nanoseconds =>
      have short := h.integers _ .refl
      simp only [integers, List.forall_mem_cons] at short
      exact Tree.within_list.mpr (by simpa [Tree.within_int] using short)
    | point srid coordinates =>
      exact Tree.within_list.mpr (List.forall_mem_map.mpr fun x _ => Tree.closed_within.float x)
    | node n | relationship r | path p => exact Tree.within_other.mpr h.described

end Value

end CypherGate
