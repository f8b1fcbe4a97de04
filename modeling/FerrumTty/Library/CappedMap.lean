import FerrumTty.Library.BTreeMap
import Mathlib.Algebra.Order.BigOperators.Group.List
import Mathlib.Algebra.Order.Ring.Nat
import Mathlib.Data.List.Perm.Subperm

/-!
# Maps with a limit

A map that never has more than a number of entries, each of them sound for its key. What all
its values weigh is then bounded by what one of them can weigh.
-/

set_option autoImplicit false

open FerrumTty

namespace AList

variable {Key Value : Type}

def weight (weigh : Value → Nat) (map : BTreeMap Key Value) : Nat :=
  (map.entries.map fun entry => weigh entry.2).sum

/-- Keys that are numbered below a bound are no more than the bound. -/
theorem len_le_of_keys {map : BTreeMap Key Value} {number : Key → Nat} {bound : Nat}
    (distinct : Function.Injective number) (below : ∀ key ∈ map, number key < bound) :
    map.len ≤ bound := by
  have numbers : (map.keys.map number).Nodup := (AList.keys_nodup map).map distinct
  have subset : map.keys.map number ⊆ List.range bound := by
    intro other member
    obtain ⟨key, present, rfl⟩ := List.mem_map.mp member
    exact List.mem_range.mpr (below key (AList.mem_keys.mp present))
  have short := (List.subperm_of_subset numbers subset).length_le
  rw [List.length_map, List.length_range] at short
  rw [len_eq_keys_length]
  exact short

variable [DecidableEq Key]

structure Capped (map : BTreeMap Key Value) (limit : Nat) (sound : Key → Value → Prop) : Prop where
  few : map.len ≤ limit
  values : ∀ key value, map.lookup key = some value → sound key value

namespace Capped

variable {map : BTreeMap Key Value} {limit : Nat} {sound : Key → Value → Prop} {key : Key}
  {value : Value}

theorem empty (limit : Nat) (sound : Key → Value → Prop) :
    Capped (∅ : BTreeMap Key Value) limit sound where
  few := Nat.zero_le limit
  values := by
    intro key value found
    cases found

theorem insert (capped : map.Capped limit sound) (room : key ∈ map ∨ map.len < limit)
    (good : sound key value) : (map.insert key value).Capped limit sound := by
  constructor
  · by_cases present : key ∈ map
    · rw [len_insert_of_mem present]
      exact capped.few
    · rw [len_insert_of_not_mem present]
      exact room.resolve_left present
  · intro other stored found
    rw [lookup_insert_cases] at found
    split_ifs at found with same
    · cases found
      rw [same]
      exact good
    · exact capped.values other stored found

theorem erase (capped : map.Capped limit sound) (key : Key) : (map.erase key).Capped limit sound := by
  constructor
  · apply Nat.le_trans _ capped.few
    rw [len_eq_keys_length, len_eq_keys_length, AList.keys_erase]
    exact List.length_erase_le
  · intro other stored found
    rw [lookup_erase_cases] at found
    split_ifs at found
    exact capped.values other stored found

theorem retain (capped : map.Capped limit sound) (keep : Key → Bool) :
    (map.retain keep).Capped limit sound where
  few := Nat.le_trans (len_retain_le keep map) capped.few
  values := by
    intro other stored found
    exact capped.values other stored (lookup_retain_some found).2

theorem entry (capped : map.Capped limit sound) {fresh : Value} (good : sound key fresh) :
    sound key ((map.lookup key).getD fresh) := by
  cases found : map.lookup key with
  | none => exact good
  | some stored => exact capped.values key stored found

theorem weight_le (capped : map.Capped limit sound) {weigh : Value → Nat} {bound : Nat}
    (light : ∀ key value, sound key value → weigh value ≤ bound) : map.weight weigh ≤ limit * bound := by
  have each : ∀ weighed ∈ map.entries.map fun entry => weigh entry.2, weighed ≤ bound := by
    intro weighed member
    obtain ⟨entry, present, rfl⟩ := List.mem_map.mp member
    exact light entry.1 entry.2 (capped.values entry.1 entry.2 (AList.mem_lookup_iff.mpr present))
  calc
    map.weight weigh ≤ (map.entries.map fun entry => weigh entry.2).length • bound :=
      List.sum_le_card_nsmul _ _ each
    _ = map.len * bound := by rw [List.length_map, nsmul_eq_mul, len, Nat.cast_id]
    _ ≤ limit * bound := Nat.mul_le_mul_right bound capped.few

end Capped

end AList
