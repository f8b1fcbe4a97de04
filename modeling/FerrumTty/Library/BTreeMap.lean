import Mathlib.Data.List.AList

/-!
# Keyed maps with a size

`BTreeMap` is Mathlib's association list with distinct keys. Added here are the
two operations it lacks, the number of entries and filtering in place.
-/

set_option autoImplicit false

abbrev FerrumTty.BTreeMap (Key Value : Type) := AList fun _ : Key => Value

open FerrumTty

namespace AList

variable {Key Value : Type} [DecidableEq Key]

def len (map : BTreeMap Key Value) : Nat := map.entries.length

def retain (keep : Key → Bool) (map : BTreeMap Key Value) : BTreeMap Key Value where
  entries := map.entries.filter fun entry => keep entry.1
  nodupKeys := map.nodupKeys.sublist List.filter_sublist

omit [DecidableEq Key] in
theorem len_eq_keys_length (map : BTreeMap Key Value) : map.len = map.keys.length := by
  simp [len, AList.keys, List.keys]

omit [DecidableEq Key] in
@[simp] theorem len_empty : (∅ : BTreeMap Key Value).len = 0 := rfl

theorem mem_of_lookup {map : BTreeMap Key Value} {key : Key} {value : Value}
    (found : map.lookup key = some value) : key ∈ map :=
  AList.lookup_isSome.mp (by rw [found]; rfl)

theorem lookup_of_mem {map : BTreeMap Key Value} {key : Key} (member : key ∈ map) :
    ∃ value, map.lookup key = some value :=
  Option.isSome_iff_exists.mp (AList.lookup_isSome.mpr member)

theorem lookup_insert_cases {map : BTreeMap Key Value} {key other : Key} {value : Value} :
    (map.insert key value).lookup other = if other = key then some value else map.lookup other := by
  by_cases same : other = key
  · subst other
    rw [AList.lookup_insert, if_pos rfl]
  · rw [AList.lookup_insert_ne same, if_neg same]

theorem len_insert_of_not_mem {map : BTreeMap Key Value} {key : Key} (absent : key ∉ map)
    (value : Value) : (map.insert key value).len = map.len + 1 := by
  rw [len, AList.entries_insert_of_notMem absent]
  rfl

theorem len_insert_of_mem {map : BTreeMap Key Value} {key : Key} (present : key ∈ map)
    (value : Value) : (map.insert key value).len = map.len := by
  have positive : 0 < map.keys.length := List.length_pos_of_mem present
  rw [len_eq_keys_length, len_eq_keys_length, AList.keys_insert, List.length_cons,
    List.length_erase_of_mem present]
  omega

theorem lookup_erase_cases {map : BTreeMap Key Value} {key other : Key} :
    (map.erase key).lookup other = if other = key then none else map.lookup other := by
  by_cases same : other = key
  · subst other
    rw [AList.lookup_erase, if_pos rfl]
  · rw [AList.lookup_erase_ne same, if_neg same]

theorem erase_insert_same (map : BTreeMap Key Value) (key : Key) (value : Value) :
    (map.insert key value).erase key = map.erase key := by
  apply AList.ext
  change List.kerase key (⟨key, value⟩ :: List.kerase key map.entries) = List.kerase key map.entries
  exact List.kerase_cons_eq rfl

theorem lookup_retain (keep : Key → Bool) (map : BTreeMap Key Value) (key : Key) :
    (map.retain keep).lookup key = if keep key then map.lookup key else none := by
  apply Option.ext
  intro value
  have inside : value ∈ (map.retain keep).lookup key ↔
      ⟨key, value⟩ ∈ (map.retain keep).entries := AList.mem_lookup_iff
  have outside : value ∈ map.lookup key ↔ ⟨key, value⟩ ∈ map.entries := AList.mem_lookup_iff
  change value ∈ (map.retain keep).lookup key ↔ value ∈ if keep key then map.lookup key else none
  rw [inside, retain, List.mem_filter]
  by_cases kept : keep key = true
  · rw [if_pos kept, outside]
    simp [kept]
  · rw [if_neg kept]
    simp [kept]

theorem lookup_retain_some {keep : Key → Bool} {map : BTreeMap Key Value} {key : Key}
    {value : Value} (found : (map.retain keep).lookup key = some value) :
    keep key = true ∧ map.lookup key = some value := by
  rw [lookup_retain] at found
  split_ifs at found with kept
  exact ⟨kept, found⟩

theorem mem_retain {keep : Key → Bool} {map : BTreeMap Key Value} {key : Key} :
    key ∈ map.retain keep ↔ keep key = true ∧ key ∈ map := by
  rw [← AList.lookup_isSome, ← AList.lookup_isSome, lookup_retain]
  split_ifs with kept <;> simp [kept]

omit [DecidableEq Key] in
theorem len_retain_le (keep : Key → Bool) (map : BTreeMap Key Value) :
    (map.retain keep).len ≤ map.len :=
  List.length_filter_le _ _

end AList
