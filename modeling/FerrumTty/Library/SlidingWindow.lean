import Mathlib.Data.Set.Insert

/-!
# Sliding windows over numbers

A bit mask that records which of the newest numbers were seen: the bit at an age stands for
the number that many below the highest one. The rules say what shifting, restarting and
marking do to the set of seen numbers.
-/

namespace FerrumTty.SlidingWindow

set_option autoImplicit false

variable {width : Nat} {mask : BitVec width} {highest : Nat} {seen : Set Nat}

/-- The mask is exact about the numbers less than a width below the highest one. -/
def Represents (mask : BitVec width) (highest : Nat) (seen : Set Nat) : Prop :=
  ∀ age < width, mask.getLsbD age = true ↔ age ≤ highest ∧ highest - age ∈ seen

theorem one_bit (age : Nat) (inside : age < width) :
    (1 : BitVec width).getLsbD age = true ↔ age = 0 := by
  have positive : 0 < width := Nat.lt_of_le_of_lt (Nat.zero_le _) inside
  change (BitVec.ofNat width 1).getLsbD age = true ↔ _
  rw [BitVec.getLsbD_one]
  simp [positive]

theorem single_bit (place age : Nat) (inside : age < width) :
    ((1 : BitVec width) <<< place).getLsbD age = true ↔ age = place := by
  rw [BitVec.getLsbD_shiftLeft]
  by_cases low : age < place
  · simp [low]
    omega
  · have short : age - place < width := by omega
    simp only [inside, low, decide_true, decide_false, Bool.not_false, Bool.true_and,
      one_bit _ short]
    omega

theorem bit_set_iff {age : Nat} (inside : age < width) :
    mask &&& ((1 : BitVec width) <<< age) ≠ 0 ↔ mask.getLsbD age = true := by
  constructor
  · intro nonzero
    by_contra clear
    apply nonzero
    apply BitVec.eq_of_getLsbD_eq
    intro place bound
    by_cases here : place = age
    · rw [here, BitVec.getLsbD_and, Bool.eq_false_iff.mpr clear]
      simp
    · have off : ((1 : BitVec width) <<< age).getLsbD place = false := by
        apply Bool.eq_false_iff.mpr
        intro on
        exact here ((single_bit age place bound).mp on)
      rw [BitVec.getLsbD_and, off]
      simp
  · intro set zero
    have bit := congrArg (fun value : BitVec width => value.getLsbD age) zero
    simp only [BitVec.getLsbD_and, set, (single_bit age age inside).mpr rfl] at bit
    simp at bit

theorem represents_first (number : Nat) : Represents (1 : BitVec width) number {number} := by
  intro age inside
  rw [one_bit age inside, Set.mem_singleton_iff]
  omega

theorem Represents.restart (below : ∀ other ∈ seen, other ≤ highest) {number : Nat}
    (far : highest + width ≤ number) : Represents (1 : BitVec width) number (insert number seen) := by
  intro age inside
  rw [one_bit age inside]
  constructor
  · intro newest
    exact ⟨by omega, by rw [newest]; exact Set.mem_insert _ _⟩
  · intro found
    rcases found.2 with same | older
    · omega
    · have bound := below _ older
      omega

theorem Represents.advance (represents : Represents mask highest seen)
    (below : ∀ other ∈ seen, other ≤ highest) {number : Nat} (above : highest < number) :
    Represents ((mask <<< (number - highest)) ||| 1) number (insert number seen) := by
  intro age inside
  rw [BitVec.getLsbD_or, Bool.or_eq_true, one_bit age inside, BitVec.getLsbD_shiftLeft]
  by_cases low : age < number - highest
  · simp only [inside, low, decide_true, Bool.not_true, Bool.and_false, Bool.false_and,
      Bool.false_eq_true, false_or]
    constructor
    · intro newest
      exact ⟨by omega, by rw [newest]; exact Set.mem_insert _ _⟩
    · intro found
      rcases found.2 with same | older
      · omega
      · have bound := below _ older
        omega
  · have short : age - (number - highest) < width := by omega
    simp only [inside, low, decide_true, decide_false, Bool.not_false, Bool.true_and,
      represents _ short]
    have same : highest - (age - (number - highest)) = number - age := by omega
    rw [same]
    constructor
    · intro cases_of
      rcases cases_of with found | newest
      · exact ⟨by omega, Set.mem_insert_of_mem _ found.2⟩
      · omega
    · intro found
      rcases found.2 with same | older
      · omega
      · exact Or.inl ⟨by omega, older⟩

theorem Represents.mark (represents : Represents mask highest seen) {number : Nat}
    (inside : number ≤ highest) :
    Represents (mask ||| ((1 : BitVec width) <<< (highest - number))) highest (insert number seen) := by
  intro age bound
  rw [BitVec.getLsbD_or, Bool.or_eq_true, single_bit _ age bound, represents age bound]
  constructor
  · intro cases_of
    rcases cases_of with found | here
    · exact ⟨found.1, Set.mem_insert_of_mem _ found.2⟩
    · have same : highest - age = number := by omega
      exact ⟨by omega, same ▸ Set.mem_insert _ _⟩
  · intro found
    rcases found.2 with same | older
    · exact Or.inr (by omega)
    · exact Or.inl ⟨found.1, older⟩

theorem Represents.seen_iff (represents : Represents mask highest seen) {number : Nat}
    (inside : number ≤ highest) (near : highest - number < width) :
    mask &&& ((1 : BitVec width) <<< (highest - number)) ≠ 0 ↔ number ∈ seen := by
  have same : highest - (highest - number) = number := by omega
  rw [bit_set_iff near, represents _ near, same]
  constructor
  · intro found
    exact found.2
  · intro found
    exact ⟨by omega, found⟩

end FerrumTty.SlidingWindow
