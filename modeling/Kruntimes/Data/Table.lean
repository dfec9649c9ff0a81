import Mathlib.Algebra.Order.Ring.Int
import Mathlib.Algebra.Order.BigOperators.Group.Finset
import Mathlib.Data.List.AList
import Mathlib.Data.List.Sort

/-!
# Finite tables

Finite maps are association lists without duplicate keys.  Mathlib's `AList`
supplies lookup, insertion and erasure; this module adds the operations that
iterate over a whole map: dropping the entries that fail a test, adding up a
weight over all entries, rewriting every value in place, and visiting the keys
in sorted order.
-/

namespace Kruntimes.Data

universe u v w

/-- A finite map with a constant value type. -/
abbrev Table (κ : Type u) (ν : Type v) := AList fun _ : κ => ν

/-- Equality of tables by comparing entries, in a form that evaluates. -/
instance (priority := high) Table.instDecidableEq {κ : Type u} {ν : Type v}
    [DecidableEq κ] [DecidableEq ν] : DecidableEq (Table κ ν) :=
  fun _ _ => decidable_of_iff _ AList.ext_iff.symm

namespace Table

variable {κ : Type u} {ν : Type v} {table : Table κ ν} {key : κ} {value : ν} {test : κ → ν → Bool}
  {weight : κ → ν → Int} {ω : Type w}

/-- Keep exactly the entries that pass `test`. -/
def keep (test : κ → ν → Bool) (table : Table κ ν) : Table κ ν where
  entries := table.entries.filter fun entry => test entry.1 entry.2
  nodupKeys := table.nodupKeys.sublist List.filter_sublist

/-- The sum of a weight over all entries. -/
def total (weight : κ → ν → Int) (table : Table κ ν) : Int :=
  (table.entries.map fun entry => weight entry.1 entry.2).sum

@[simp]
theorem keep_keep (test : κ → ν → Bool) (table : Table κ ν) :
    (table.keep test).keep test = table.keep test := by
  simp [keep]

theorem total_eq_zero_of_entries_eq_nil (empty : table.entries = []) :
    table.total weight = 0 := by
  simp [total, empty]

theorem total_add (first second : κ → ν → Int) (table : Table κ ν) :
    table.total (fun key value => first key value + second key value) =
      table.total first + table.total second :=
  List.sum_map_add

variable [DecidableEq κ]

theorem mem_entries_iff :
    (⟨key, value⟩ : Σ _ : κ, ν) ∈ table.entries ↔ table.lookup key = some value := by
  rw [← Option.mem_def, AList.mem_lookup_iff]

theorem lookup_insert_cases {other : κ} {item : ν}
    (found : (table.insert key value).lookup other = some item) :
    other = key ∧ value = item ∨ other ≠ key ∧ table.lookup other = some item := by
  by_cases same : other = key
  · subst same
    rw [AList.lookup_insert] at found
    exact .inl ⟨rfl, Option.some.inj found⟩
  · rw [AList.lookup_insert_ne same] at found
    exact .inr ⟨same, found⟩

/-- The entries of one table stored over another. -/
theorem lookup_foldl_insert (updates table : Table κ ν) (key : κ) :
    (updates.entries.foldl (fun table entry => table.insert entry.1 entry.2) table).lookup key =
      (updates.lookup key).or (table.lookup key) := by
  obtain ⟨entries, distinct⟩ := updates
  change _ = (entries.dlookup key).or _
  induction entries generalizing table with
  | nil => rfl
  | cons entry rest ih =>
    rw [List.nodupKeys_cons] at distinct
    rw [List.foldl_cons, ih _ distinct.2]
    by_cases same : key = entry.1
    · rw [same, List.dlookup_eq_none.mpr distinct.1, AList.lookup_insert, List.dlookup_cons_eq]
      rfl
    · rw [AList.lookup_insert_ne same, List.dlookup_cons_ne _ _ same]

theorem lookup_keep_eq_some_iff (test : κ → ν → Bool) (table : Table κ ν) (key : κ) (value : ν) :
    (table.keep test).lookup key = some value ↔
      table.lookup key = some value ∧ test key value = true := by
  rw [← mem_entries_iff, ← mem_entries_iff]
  simp [keep]

/-- An entry that passes the test survives unchanged. -/
theorem lookup_keep_of_test (present : table.lookup key = some value)
    (passes : test key value = true) :
    (table.keep test).lookup key = some value :=
  (lookup_keep_eq_some_iff test table key value).mpr ⟨present, passes⟩

/-- If every entry fails the test, nothing is kept. -/
theorem keep_entries_eq_nil
    (fails : ∀ key value, table.lookup key = some value → test key value = false) :
    (table.keep test).entries = [] := by
  rw [keep, List.filter_eq_nil_iff]
  rintro ⟨key, value⟩ mem
  simp [fails key value (mem_entries_iff.mp mem)]

/-- A total is the sum over the keys of the weight of the stored value. -/
theorem total_eq_sum_keys (weight : κ → ν → Int) (table : Table κ ν) :
    table.total weight = ∑ key ∈ table.keys.toFinset, (table.lookup key).elim 0 (weight key) := by
  rw [List.sum_toFinset _ table.keys_nodup, AList.keys, List.keys, List.map_map, total]
  refine congrArg List.sum (List.map_congr_left ?_)
  rintro ⟨_, _⟩ mem
  simp [mem_entries_iff.mp mem]

/-- A total without entries of nonzero weight vanishes. -/
theorem total_eq_zero
    (weightless : ∀ key value, table.lookup key = some value → weight key value = 0) :
    table.total weight = 0 := by
  refine List.sum_eq_zero fun number mem => ?_
  rcases List.mem_map.mp mem with ⟨⟨key, value⟩, entry, rfl⟩
  exact weightless key value (mem_entries_iff.mp entry)

/-- Weights that agree on the entries have the same total. -/
theorem total_congr {first second : κ → ν → Int}
    (same : ∀ key value, table.lookup key = some value → first key value = second key value) :
    table.total first = table.total second := by
  refine congrArg List.sum (List.map_congr_left ?_)
  rintro ⟨key, value⟩ mem
  exact same key value (mem_entries_iff.mp mem)

/-- Storing a value replaces the weight of the previous one. -/
theorem total_insert (weight : κ → ν → Int) (table : Table κ ν) (key : κ) (value : ν) :
    Table.total weight (AList.insert key value table) =
      table.total weight - (table.lookup key).elim 0 (weight key) + weight key value := by
  have others : ∀ other ∈ table.keys.toFinset.erase key,
      ((AList.insert key value table).lookup other).elim 0 (weight other) =
        (table.lookup other).elim 0 (weight other) := by
    intro other mem
    rw [AList.lookup_insert_ne (Finset.ne_of_mem_erase mem)]
  have newKeys : (AList.insert key value table).keys.toFinset =
      insert key (table.keys.toFinset.erase key) := by
    ext other
    simp only [AList.keys_insert, List.toFinset_cons, Finset.mem_insert, List.mem_toFinset,
      Finset.mem_erase]
    by_cases same : other = key
    · simp [same]
    · simp [same, List.mem_erase_of_ne same]
  have oldSum : table.total weight = (table.lookup key).elim 0 (weight key) +
      ∑ other ∈ table.keys.toFinset.erase key, (table.lookup other).elim 0 (weight other) := by
    rw [total_eq_sum_keys]
    by_cases present : key ∈ table.keys.toFinset
    · rw [← Finset.add_sum_erase _ _ present]
    have absent : table.lookup key = none := by
      rwa [AList.lookup_eq_none, AList.mem_keys, ← List.mem_toFinset]
    rw [absent, Finset.erase_eq_of_notMem present]
    exact (zero_add _).symm
  rw [oldSum, total_eq_sum_keys, newKeys, Finset.sum_insert (Finset.notMem_erase _ _),
    Finset.sum_congr rfl others, AList.lookup_insert]
  simp only [Option.elim_some]
  omega

/-- Two tables cover a demand: whatever an entry of the first table demands is
supplied by the entry itself or by the entry of the second table under the same
key. -/
theorem total_le_add_total {other : Table κ ω} {demand supply : κ → ν → Int}
    {weight : κ → ω → Int}
    (nonneg : ∀ key value, other.lookup key = some value → 0 ≤ weight key value)
    (covered : ∀ key value, table.lookup key = some value →
      demand key value ≤ supply key value + (other.lookup key).elim 0 (weight key)) :
    table.total demand ≤ table.total supply + other.total weight := by
  have nonnegAt : ∀ key, 0 ≤ (other.lookup key).elim 0 (weight key) := by
    intro key
    cases found : other.lookup key with
    | none => exact le_rfl
    | some value => exact nonneg key value found
  have absent : ∀ key ∈ table.keys.toFinset, key ∉ other.keys.toFinset →
      (other.lookup key).elim 0 (weight key) = 0 := by
    intro key _ missing
    rw [List.mem_toFinset, ← AList.mem_keys, ← AList.lookup_eq_none] at missing
    simp [missing]
  simp only [total_eq_sum_keys]
  calc
    ∑ key ∈ table.keys.toFinset, (table.lookup key).elim 0 (demand key)
        ≤ ∑ key ∈ table.keys.toFinset, ((table.lookup key).elim 0 (supply key) +
            (other.lookup key).elim 0 (weight key)) := by
          refine Finset.sum_le_sum fun key _ => ?_
          cases found : table.lookup key with
          | none => simpa using nonnegAt key
          | some value => simpa using covered key value found
    _ = ∑ key ∈ table.keys.toFinset, (table.lookup key).elim 0 (supply key) +
          ∑ key ∈ table.keys.toFinset, (other.lookup key).elim 0 (weight key) :=
        Finset.sum_add_distrib
    _ ≤ _ := by
        refine add_le_add le_rfl ?_
        calc
          ∑ key ∈ table.keys.toFinset, (other.lookup key).elim 0 (weight key)
              = ∑ key ∈ table.keys.toFinset ∩ other.keys.toFinset,
                  (other.lookup key).elim 0 (weight key) := by
                symm
                refine Finset.sum_subset Finset.inter_subset_left ?_
                intro key mem outside
                exact absent key mem fun inside =>
                  outside (Finset.mem_inter.mpr ⟨mem, inside⟩)
          _ ≤ ∑ key ∈ other.keys.toFinset, (other.lookup key).elim 0 (weight key) :=
                Finset.sum_le_sum_of_subset_of_nonneg Finset.inter_subset_right
                  fun key _ _ => nonnegAt key

/-! ## Rewriting values in place -/

/-- Replace every value by one computed from its key and itself. -/
def mapValues {ω : Type w} (f : κ → ν → ω) (table : Table κ ν) : Table κ ω where
  entries := table.entries.map fun entry => ⟨entry.1, f entry.1 entry.2⟩
  nodupKeys := by
    rw [List.NodupKeys, List.keys, List.map_map]
    exact table.nodupKeys

/-- Replace the value under one key, if there is one. -/
def modify (key : κ) (f : ν → ν) (table : Table κ ν) : Table κ ν :=
  table.mapValues fun other value => if other = key then f value else value

omit [DecidableEq κ] in
@[simp]
theorem keys_mapValues (f : κ → ν → ω) (table : Table κ ν) :
    (table.mapValues f).keys = table.keys := by
  simp [mapValues, AList.keys, List.keys]

@[simp]
theorem lookup_mapValues (f : κ → ν → ω) (table : Table κ ν) (key : κ) :
    (table.mapValues f).lookup key = (table.lookup key).map (f key) := by
  apply Option.ext
  intro value
  rw [← mem_entries_iff, Option.map_eq_some_iff]
  constructor
  · intro mem
    obtain ⟨⟨_, source⟩, entry, same⟩ := List.mem_map.mp mem
    cases same
    exact ⟨source, mem_entries_iff.mp entry, rfl⟩
  · rintro ⟨source, found, rfl⟩
    exact List.mem_map.mpr ⟨⟨key, source⟩, mem_entries_iff.mpr found, rfl⟩

@[simp]
theorem keys_modify (key : κ) (f : ν → ν) (table : Table κ ν) :
    (table.modify key f).keys = table.keys :=
  keys_mapValues _ _

@[simp]
theorem lookup_modify_self (key : κ) (f : ν → ν) (table : Table κ ν) :
    (table.modify key f).lookup key = (table.lookup key).map f := by
  simp [modify]

theorem lookup_modify_ne {other : κ} (distinct : other ≠ key) (f : ν → ν) (table : Table κ ν) :
    (table.modify key f).lookup other = table.lookup other := by
  simp [modify, distinct]

/-- Changes that agree on the stored value have the same effect. -/
theorem modify_congr {f g : ν → ν}
    (same : ∀ value, table.lookup key = some value → f value = g value) :
    table.modify key f = table.modify key g := by
  apply AList.ext
  apply List.map_congr_left
  rintro ⟨other, value⟩ mem
  by_cases here : other = key
  · subst here
    simp [same value (mem_entries_iff.mp mem)]
  · simp [here]

/-- A change that keeps the stored value has no effect. -/
theorem modify_eq_self {f : ν → ν}
    (same : ∀ value, table.lookup key = some value → f value = value) :
    table.modify key f = table := by
  rw [modify_congr (g := id) same]
  apply AList.ext
  unfold modify mapValues
  simp

/-! ## Visiting keys in order -/

/-- The keys of a table in increasing order. -/
def sortedKeys [LE κ] [DecidableLE κ] (table : Table κ ν) : List κ :=
  table.keys.insertionSort (· ≤ ·)

omit [DecidableEq κ] in
@[simp]
theorem mem_sortedKeys [LE κ] [DecidableLE κ] :
    key ∈ table.sortedKeys ↔ key ∈ table := by
  rw [sortedKeys, List.mem_insertionSort, AList.mem_keys]

omit [DecidableEq κ] in
theorem nodup_sortedKeys [LE κ] [DecidableLE κ] (table : Table κ ν) : table.sortedKeys.Nodup :=
  (List.perm_insertionSort _ _).nodup_iff.mpr table.keys_nodup

omit [DecidableEq κ] in
/-- Sorting forgets the order in which the items stood. -/
theorem insertionSort_of_perm [LE κ] [DecidableLE κ] [@Std.Total κ (· ≤ ·)]
    [IsTrans κ (· ≤ ·)] [@Std.Antisymm κ (· ≤ ·)] {items other : List κ}
    (same : items.Perm other) :
    items.insertionSort (· ≤ ·) = other.insertionSort (· ≤ ·) := by
  have sorted : (items.insertionSort (· ≤ ·)).Perm (other.insertionSort (· ≤ ·)) :=
    ((List.perm_insertionSort _ _).trans same).trans (List.perm_insertionSort _ _).symm
  exact sorted.eq_of_pairwise' (List.pairwise_insertionSort _ _) (List.pairwise_insertionSort _ _)

/-- Rewrite every value by a computation that may fail.  The keys are visited in
order, and the first failure is reported. -/
def traverse [LE κ] [DecidableLE κ] {ω ε : Type w} [Inhabited ω] (f : κ → ν → Except ε ω)
    (table : Table κ ν) : Except ε (Table κ ω) :=
  match table.sortedKeys.findSome? fun key => (table.lookup key).bind fun value =>
      match f key value with
      | .error failure => some failure
      | .ok _ => none with
  | some failure => .error failure
  | none => .ok (table.mapValues fun key value =>
    match f key value with
    | .error _ => default
    | .ok result => result)

end Table

end Kruntimes.Data
