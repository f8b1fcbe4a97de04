import Mathlib.Data.List.Infix

/-!
# Synchronising numbered states

A sender numbers the states of a growing log and sends differences between them. A
receiver applies a difference when it holds the base and not yet the target. If the
numbers can be labelled with contents that every difference respects, the receiver
holds labelled contents only, whatever it is fed and in whatever order.
-/

namespace FerrumTty.StateSync

set_option autoImplicit false

variable {Number Entry : Type*}

structure Difference (Number Entry : Type*) where
  base : Number
  target : Number
  delta : List Entry

/-- The difference leads from the content of its base to the content of its target. -/
def Difference.Respects (difference : Difference Number Entry) (content : Number → List Entry) : Prop :=
  content difference.base ++ difference.delta = content difference.target

abbrev Holdings (Number Entry : Type*) := Number → Option (List Entry)

section Receiver

variable [DecidableEq Number]

def initial (origin : Number) : Holdings Number Entry := Function.update (fun _ => none) origin (some [])

def receive (holdings : Holdings Number Entry) (difference : Difference Number Entry) :
    Holdings Number Entry :=
  match holdings difference.base, holdings difference.target with
  | some base, none =>
      Function.update holdings difference.target (some (base ++ difference.delta))
  | _, _ => holdings

end Receiver

/-- Everything that is held is the content of its number. -/
def Labelled (content : Number → List Entry) (holdings : Holdings Number Entry) : Prop :=
  ∀ number held, holdings number = some held → held = content number

/-- A receiver forgets at most what lies below the floor that the sender named. -/
def Forgets [LT Number] (floor : Number) (before after : Holdings Number Entry) : Prop :=
  ∀ number, after number = before number ∨ number < floor ∧ after number = none

theorem Forgets.found [LT Number] {floor number : Number} {before after : Holdings Number Entry}
    {held : List Entry} (forgets : Forgets floor before after) (found : after number = some held) :
    before number = some held := by
  rcases forgets number with same | ⟨_, gone⟩
  · exact same ▸ found
  · rw [gone] at found
    cases found

theorem Forgets.kept [LT Number] {floor number : Number} {before after : Holdings Number Entry}
    (forgets : Forgets floor before after) (above : ¬ number < floor) :
    after number = before number := by
  rcases forgets number with same | ⟨below, _⟩
  · exact same
  · exact absurd below above

variable [DecidableEq Number] {content : Number → List Entry}

theorem receive_keeps {holdings : Holdings Number Entry} (difference : Difference Number Entry)
    {number : Number} {held : List Entry} (found : holdings number = some held) :
    receive holdings difference number = some held := by
  unfold receive
  cases base : holdings difference.base with
  | none => exact found
  | some start =>
      cases target : holdings difference.target with
      | some known => exact found
      | none =>
          have other : number ≠ difference.target := by
            intro same
            rw [← same, found] at target
            cases target
          exact (Function.update_of_ne other _ _).trans found

theorem receive_found {holdings : Holdings Number Entry} {difference : Difference Number Entry}
    {number : Number} {held : List Entry} (found : receive holdings difference number = some held) :
    holdings number = some held ∨ number = difference.target := by
  unfold receive at found
  cases base : holdings difference.base with
  | none =>
      rw [base] at found
      exact Or.inl found
  | some start =>
      rw [base] at found
      cases target : holdings difference.target with
      | some known =>
          rw [target] at found
          exact Or.inl found
      | none =>
          rw [target] at found
          by_cases here : number = difference.target
          · exact Or.inr here
          · exact Or.inl ((Function.update_of_ne here _ _).symm.trans found)

theorem initial_labelled {origin : Number} (empty : content origin = []) :
    Labelled content (initial origin) := by
  intro number held found
  by_cases here : number = origin
  · rw [here, initial, Function.update_self] at found
    rw [here, empty, Option.some.inj found]
  · rw [initial, Function.update_of_ne here] at found
    cases found

theorem receive_labelled {holdings : Holdings Number Entry} {difference : Difference Number Entry}
    (labelled : Labelled content holdings) (respects : difference.Respects content) :
    Labelled content (receive holdings difference) := by
  unfold receive
  cases base : holdings difference.base with
  | none => exact labelled
  | some held =>
      cases holdings difference.target with
      | some known => exact labelled
      | none =>
          intro number found present
          dsimp only at present
          by_cases here : number = difference.target
          · rw [here, Function.update_self] at present
            rw [here, ← respects, ← labelled _ _ base]
            exact (Option.some.inj present).symm
          · rw [Function.update_of_ne here] at present
            exact labelled number found present

theorem receive_all_labelled {holdings : Holdings Number Entry}
    {differences : List (Difference Number Entry)} (labelled : Labelled content holdings)
    (respect : ∀ difference ∈ differences, difference.Respects content) :
    Labelled content (differences.foldl receive holdings) := by
  induction differences generalizing holdings with
  | nil => exact labelled
  | cons difference rest induction =>
      apply induction
      · exact receive_labelled labelled (respect difference List.mem_cons_self)
      · intro other member
        exact respect other (List.mem_cons_of_mem _ member)

/-- A receiver that starts empty holds prefixes of the log only. -/
theorem holds_prefixes {origin : Number} {log : List Entry}
    {differences : List (Difference Number Entry)} (empty : content origin = [])
    (within : ∀ number, content number <+: log)
    (respect : ∀ difference ∈ differences, difference.Respects content) {number : Number}
    {held : List Entry}
    (found : differences.foldl receive (initial origin) number = some held) :
    held = content number ∧ held <+: log := by
  have labelled := receive_all_labelled (initial_labelled empty) respect number held found
  exact ⟨labelled, labelled ▸ within number⟩

end FerrumTty.StateSync
