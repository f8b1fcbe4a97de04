import Mathlib.Data.List.Basic

/-!
# Lists with ascending numbers

Items numbered in ascending order within a range. Such lists join end to end, and nothing that
tells the number of an item occurs twice among them.
-/

namespace FerrumTty

set_option autoImplicit false

variable {Item : Type}

structure Ascending (number : Item → Nat) (first last : Nat) (items : List Item) : Prop where
  ordered : items.Pairwise fun earlier later => number earlier < number later
  within : ∀ item ∈ items, first ≤ number item ∧ number item < last

namespace Ascending

variable {number : Item → Nat} {first middle last : Nat} {items others : List Item}

theorem empty (number : Item → Nat) (first last : Nat) : Ascending number first last [] where
  ordered := .nil
  within := by
    intro item member
    cases member

theorem cons {item : Item} (ascending : Ascending number (first + 1) last items)
    (starts : number item = first) (room : first < last) : Ascending number first last (item :: items) where
  ordered := by
    apply List.pairwise_cons.mpr
    refine ⟨?_, ascending.ordered⟩
    intro other member
    rw [starts]
    exact (ascending.within other member).1
  within := by
    intro other member
    rcases List.mem_cons.mp member with here | later
    · rw [here, starts]
      exact ⟨Nat.le_refl first, room⟩
    · obtain ⟨above, below⟩ := ascending.within other later
      exact ⟨Nat.le_of_succ_le above, below⟩

theorem widen (ascending : Ascending number middle last items) {lower upper : Nat}
    (below : lower ≤ middle) (above : last ≤ upper) : Ascending number lower upper items where
  ordered := ascending.ordered
  within := by
    intro item member
    obtain ⟨low, high⟩ := ascending.within item member
    exact ⟨Nat.le_trans below low, Nat.lt_of_lt_of_le high above⟩

theorem append (earlier : Ascending number first middle items)
    (later : Ascending number middle last others) (forward : first ≤ middle) (onward : middle ≤ last) :
    Ascending number first last (items ++ others) where
  ordered := by
    apply List.pairwise_append.mpr
    refine ⟨earlier.ordered, later.ordered, ?_⟩
    intro item member other behind
    exact Nat.lt_of_lt_of_le (earlier.within item member).2 (later.within other behind).1
  within := by
    intro item member
    rcases List.mem_append.mp member with early | late
    · exact ((earlier.widen (Nat.le_refl first) onward).within item early)
    · exact ((later.widen forward (Nat.le_refl last)).within item late)

theorem sublist (ascending : Ascending number first last items) (part : others.Sublist items) :
    Ascending number first last others where
  ordered := ascending.ordered.sublist part
  within := fun item member => ascending.within item (part.subset member)

theorem nodup {Mark : Type} (ascending : Ascending number first last items) {mark : Item → Mark}
    (tells : ∀ item other, mark item = mark other → number item = number other) :
    (items.map mark).Nodup := by
  apply List.pairwise_map.mpr
  apply ascending.ordered.imp
  intro earlier later before same
  exact Nat.ne_of_lt before (tells earlier later same)

end Ascending

end FerrumTty
