import FerrumTty.Library.Runs

/-!
# Inserted inputs

Inputs that leave the state they are taken in alone can be inserted anywhere into a run:
the other steps stay the steps of the run without them.
-/

namespace FerrumTty.Insertions

set_option autoImplicit false

open Runs

variable {State Input Extra Output : Type*}

/-- The machine with the inserted inputs as inputs of their own. -/
def withInserted (machine : State → Input → Output × State) (toInput : Extra → Input) (state : State) :
    Input ⊕ Extra → Output × State
  | .inl kept => machine state kept
  | .inr extra => machine state (toInput extra)

def keptInputs (inputs : List (Input ⊕ Extra)) : List Input := inputs.filterMap Sum.getLeft?

def keptStep (event : Step State (Input ⊕ Extra) Output) : Option (Step State Input Output) :=
  event.input.getLeft?.map fun input =>
    { before := event.before, input := input, output := event.output, after := event.after }

def keptSteps (events : List (Step State (Input ⊕ Extra) Output)) : List (Step State Input Output) :=
  events.filterMap keptStep

/-- Every inserted input leaves the state alone. -/
def Idle (events : List (Step State (Input ⊕ Extra) Output)) : Prop :=
  ∀ event ∈ events, event.input.isRight = true → event.after = event.before

variable {machine : State → Input → Output × State} {toInput : Extra → Input}

theorem run_kept {state : State} {inputs : List (Input ⊕ Extra)}
    (idle : Idle (trace (withInserted machine toInput) state inputs)) :
    keptSteps (trace (withInserted machine toInput) state inputs) =
        trace machine state (keptInputs inputs) ∧
      final (withInserted machine toInput) state inputs =
        final machine state (keptInputs inputs) := by
  induction inputs generalizing state with
  | nil => exact ⟨rfl, rfl⟩
  | cons input rest induction =>
      have first := idle _ (List.mem_cons_self)
      have later : Idle (trace (withInserted machine toInput)
          (withInserted machine toInput state input).2 rest) :=
        fun event member => idle event (List.mem_cons_of_mem _ member)
      cases input with
      | inl kept =>
          obtain ⟨steps, states⟩ := induction later
          constructor
          · change _ :: keptSteps _ = _ :: trace machine _ (keptInputs rest)
            rw [steps]
            rfl
          · exact states
      | inr extra =>
          have same : (withInserted machine toInput state (.inr extra)).2 = state := first rfl
          rw [same] at later
          obtain ⟨steps, states⟩ := induction later
          constructor
          · change keptSteps (trace _ (withInserted machine toInput state (.inr extra)).2 rest) =
              trace machine state (keptInputs rest)
            rw [same]
            exact steps
          · rw [final_cons, same]
            exact states

end FerrumTty.Insertions
