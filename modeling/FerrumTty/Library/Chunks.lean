import Mathlib.Data.List.Basic
import Mathlib.Algebra.Order.Group.Nat
import Mathlib.Tactic.Ring

/-!
# Fixed-size chunks

`chunks size items` cuts a list into windows of `size` items, the last one possibly
shorter. The window at an index is given outright, so that a proof about a piece
never has to walk over the pieces before it.
-/

namespace FerrumTty.Chunks

set_option autoImplicit false

variable {Item : Type*}

def count (size length : Nat) : Nat := (length + size - 1) / size

def window (size : Nat) (items : List Item) (index : Nat) : List Item :=
  (items.drop (index * size)).take size

def chunks (size : Nat) (items : List Item) : List (List Item) :=
  (List.range (count size items.length)).map (window size items)

@[simp] theorem chunks_length (size : Nat) (items : List Item) :
    (chunks size items).length = count size items.length := by
  simp [chunks]

theorem count_le_iff {size : Nat} (positive : 0 < size) (length bound : Nat) :
    count size length ≤ bound ↔ length ≤ bound * size := by
  rw [count, Nat.div_le_iff_le_mul_add_pred positive, Nat.mul_comm]
  omega

theorem lt_count_iff {size : Nat} (positive : 0 < size) (length index : Nat) :
    index < count size length ↔ index * size < length := by
  have := count_le_iff positive length index
  omega

theorem window_length (size : Nat) (items : List Item) (index : Nat) :
    (window size items index).length = min size (items.length - index * size) := by
  simp [window]

theorem take_windows (size : Nat) (items : List Item) (number : Nat) :
    ((List.range number).map (window size items)).flatten = items.take (number * size) := by
  induction number with
  | zero => simp
  | succ number induction =>
      rw [List.range_succ, List.map_append, List.flatten_append, induction, Nat.add_mul, Nat.one_mul,
        List.take_add]
      simp [window]

end FerrumTty.Chunks
