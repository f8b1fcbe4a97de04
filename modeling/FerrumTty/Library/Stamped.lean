import Mathlib.Data.List.Basic

/-!
# Lists in the order of their stamps

Items are appended with stamps that never go back, and leave from the front once a cumulative
acknowledgement has reached their stamps.
-/

namespace FerrumTty

set_option autoImplicit false

variable {Item Stamp : Type} [LE Stamp]

/-- In the order of the stamps, and none beyond the newest stamp. -/
structure Stamped (stamp : Item → Stamp) (newest : Option Stamp) (items : List Item) : Prop where
  ordered : items.Pairwise fun first second => stamp first ≤ stamp second
  known : ∀ item ∈ items, ∃ last, newest = some last ∧ stamp item ≤ last

namespace Stamped

variable {stamp : Item → Stamp} {newest : Option Stamp} {items fewer : List Item} {last : Stamp}

theorem empty (stamp : Item → Stamp) (newest : Option Stamp) : Stamped stamp newest [] where
  ordered := .nil
  known := by
    intro item member
    cases member

theorem sublist (stamped : Stamped stamp newest items) (part : fewer.Sublist items) :
    Stamped stamp newest fewer where
  ordered := stamped.ordered.sublist part
  known := fun item member => stamped.known item (part.subset member)

theorem map (stamped : Stamped stamp newest items) {change : Item → Item}
    (same : ∀ item, stamp (change item) = stamp item) : Stamped stamp newest (items.map change) where
  ordered := by
    apply List.pairwise_map.mpr
    apply stamped.ordered.imp
    intro first second before
    rw [same, same]
    exact before
  known := by
    intro item member
    obtain ⟨earlier, present, rfl⟩ := List.mem_map.mp member
    rw [same]
    exact stamped.known earlier present

section Order

variable [Std.IsLinearPreorder Stamp]

theorem reaches (stamped : Stamped stamp newest items)
    (later : ∀ earlier, newest = some earlier → earlier ≤ last) : Stamped stamp (some last) items where
  ordered := stamped.ordered
  known := by
    intro item member
    obtain ⟨earlier, held, before⟩ := stamped.known item member
    exact ⟨last, rfl, Std.le_trans before (later earlier held)⟩

theorem append (stamped : Stamped stamp (some last) items) {item : Item} (fresh : stamp item = last) :
    Stamped stamp (some last) (items ++ [item]) where
  ordered := by
    apply List.pairwise_append.mpr
    refine ⟨stamped.ordered, List.pairwise_singleton _ _, ?_⟩
    intro first member second single
    obtain ⟨held, same, before⟩ := stamped.known first member
    rw [List.mem_singleton.mp single, fresh, Option.some.inj same]
    exact before
  known := by
    intro other member
    rcases List.mem_append.mp member with earlier | single
    · exact stamped.known other earlier
    · rw [List.mem_singleton.mp single, fresh]
      exact ⟨last, rfl, Std.le_refl last⟩

/-- What an acknowledgement takes from the front is all that it reaches. -/
theorem drop_acknowledged [DecidableLE Stamp] (stamped : Stamped stamp newest items)
    (acknowledged : Stamp) :
    items.dropWhile (fun item => decide (stamp item ≤ acknowledged)) =
      items.filter fun item => !decide (stamp item ≤ acknowledged) := by
  have ordered := stamped.ordered
  clear stamped
  induction items with
  | nil => rfl
  | cons item rest induction =>
      obtain ⟨first, later⟩ := List.pairwise_cons.mp ordered
      by_cases reached : stamp item ≤ acknowledged
      · rw [List.dropWhile_cons_of_pos (by simpa using reached),
          List.filter_cons_of_neg (by simpa using reached)]
        exact induction later
      · have beyond : ∀ other ∈ item :: rest, ¬ stamp other ≤ acknowledged := by
          intro other member covered
          rcases List.mem_cons.mp member with same | behind
          · exact reached (same ▸ covered)
          · exact reached (Std.le_trans (first other behind) covered)
        rw [List.dropWhile_cons_of_neg (by simpa using reached)]
        symm
        apply List.filter_eq_self.mpr
        intro other member
        simpa using beyond other member

end Order

end Stamped

end FerrumTty
