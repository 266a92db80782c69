import FormulaGrid.Proofs.Json.Document

/-! Data with the keys of its mappings in order: it holds the same under every key, and it is as
deep and as fit for JSON as before. -/
namespace FormulaGrid.Json

section Entries

variable {key : String} {value : Data} {entries others : Data.Entries}

theorem lookup_eq_some_iff (distinct : (entries.map Prod.fst).Nodup) :
    Data.lookup key entries = some value ↔ (key, value) ∈ entries := by
  induction entries with
  | nil => simp [Data.lookup]
  | cons entry entries ih =>
    obtain ⟨name, content⟩ := entry
    obtain ⟨fresh, distinct⟩ := List.nodup_cons.1 distinct
    have later := ih distinct
    by_cases same : name = key
    · subst same
      have absent : (name, value) ∉ entries := fun member =>
        fresh (List.mem_map.2 ⟨_, member, rfl⟩)
      simp [Data.lookup, absent, eq_comm]
    · have other : key ≠ name := Ne.symm same
      have skipped : Data.lookup key ((name, content) :: entries) = Data.lookup key entries := by
        rw [Data.lookup, List.find?_cons_of_neg (by simpa using same)]
        rfl
      rw [skipped, later]
      simp [other]

theorem lookup_perm (distinct : (entries.map Prod.fst).Nodup) (permuted : entries.Perm others) :
    Data.lookup key entries = Data.lookup key others := by
  have distinct₂ := (permuted.map Prod.fst).nodup_iff.1 distinct
  refine Option.ext fun value => ?_
  rw [lookup_eq_some_iff distinct, lookup_eq_some_iff distinct₂, permuted.mem_iff]

end Entries

section Sorting

variable {data : Data} {items : List Data} {entries : Data.Entries}

theorem sortItems_eq (items : List Data) : sortItems items = items.map sortKeys := by
  induction items with
  | nil => rfl
  | cons item items ih => rw [sortItems, ih, List.map_cons]

theorem sortValues_eq (entries : Data.Entries) :
    sortValues entries = entries.map fun entry => (entry.1, sortKeys entry.2) := by
  induction entries with
  | nil => rfl
  | cons entry entries ih => rw [sortValues, ih, List.map_cons]

theorem sortEntries_perm (entries : Data.Entries) : (sortEntries entries).Perm entries :=
  List.mergeSort_perm entries _

theorem map_fst_sortValues (entries : Data.Entries) :
    (sortValues entries).map Prod.fst = entries.map Prod.fst := by
  rw [sortValues_eq, List.map_map]
  rfl

theorem distinct_sorted (distinct : (entries.map Prod.fst).Nodup) :
    ((sortEntries (sortValues entries)).map Prod.fst).Nodup := by
  rw [((sortEntries_perm _).map Prod.fst).nodup_iff, map_fst_sortValues]
  exact distinct

theorem lookup_sorted (distinct : (entries.map Prod.fst).Nodup) (key : String) :
    Data.lookup key (sortEntries (sortValues entries)) = (Data.lookup key entries).map sortKeys := by
  rw [lookup_perm (distinct_sorted distinct) (sortEntries_perm _), sortValues_eq, Data.lookup,
    Data.lookup, List.find?_map, Option.map_map, Option.map_map]
  rfl

theorem isWritten_sortKeys (json : IsWritten data) : IsWritten (sortKeys data) := by
  induction json with
  | null => exact .null
  | boolean value => exact .boolean value
  | integer short => exact .integer short
  | float known => exact .float known
  | text value => exact .text value
  | list _ ih =>
    rw [sortKeys, sortItems_eq]
    exact .list (List.forall_mem_map.2 ih)
  | mapping distinct _ ih =>
    rw [sortKeys]
    refine .mapping (distinct_sorted distinct) fun entry member => ?_
    rw [(sortEntries_perm _).mem_iff, sortValues_eq] at member
    obtain ⟨before, inside, rfl⟩ := List.mem_map.1 member
    exact ih before inside

theorem heightOfItems_le {n : Nat} (all : ∀ item ∈ items, item.height ≤ n) :
    Data.heightOfItems items ≤ n := by
  induction items with
  | nil => exact Nat.zero_le n
  | cons item items ih =>
    obtain ⟨first, others⟩ := List.forall_mem_cons.1 all
    exact Nat.max_le.2 ⟨first, ih others⟩

theorem heightOfEntries_le {n : Nat} (all : ∀ entry ∈ entries, entry.2.height ≤ n) :
    Data.heightOfEntries entries ≤ n := by
  induction entries with
  | nil => exact Nat.zero_le n
  | cons entry entries ih =>
    obtain ⟨first, others⟩ := List.forall_mem_cons.1 all
    exact Nat.max_le.2 ⟨first, ih others⟩

theorem height_sortKeys_le (json : IsWritten data) : (sortKeys data).height ≤ data.height := by
  induction json with
  | null | boolean | integer | float | text => exact Nat.le_refl _
  | list _ ih =>
    rw [sortKeys, sortItems_eq]
    refine Nat.succ_le_succ (heightOfItems_le ?_)
    exact List.forall_mem_map.2 fun item member => (ih item member).trans (height_le_of_mem member)
  | mapping _ _ ih =>
    rw [sortKeys]
    refine Nat.succ_le_succ (heightOfEntries_le fun entry member => ?_)
    rw [(sortEntries_perm _).mem_iff, sortValues_eq] at member
    obtain ⟨before, inside, rfl⟩ := List.mem_map.1 member
    exact (ih before inside).trans (height_le_of_mem_entries inside)

end Sorting

end FormulaGrid.Json
