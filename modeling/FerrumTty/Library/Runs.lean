import Mathlib.Data.List.Induction

/-!
# Runs of a deterministic machine

A machine takes an input in a state, gives an output and moves on. `final` is
the state after a list of inputs and `trace` the steps taken on the way. The
rules below carry a property of one step to whole runs.
-/

namespace FerrumTty.Runs

set_option autoImplicit false

variable {State Input Output : Type*}

structure Step (State Input Output : Type*) where
  before : State
  input : Input
  output : Output
  after : State

def stepAt (machine : State → Input → Output × State) (state : State) (input : Input) :
    Step State Input Output where
  before := state
  input := input
  output := (machine state input).1
  after := (machine state input).2

def final (machine : State → Input → Output × State) : State → List Input → State
  | state, [] => state
  | state, input :: rest => final machine (machine state input).2 rest

def trace (machine : State → Input → Output × State) :
    State → List Input → List (Step State Input Output)
  | _, [] => []
  | state, input :: rest => stepAt machine state input :: trace machine (machine state input).2 rest

variable (machine : State → Input → Output × State)

@[simp] theorem final_nil (state : State) : final machine state [] = state := rfl

@[simp] theorem trace_nil (state : State) : trace machine state [] = [] := rfl

@[simp] theorem final_cons (state : State) (input : Input) (rest : List Input) :
    final machine state (input :: rest) = final machine (machine state input).2 rest := rfl

theorem final_append (state : State) (first second : List Input) :
    final machine state (first ++ second) = final machine (final machine state first) second := by
  induction first generalizing state with
  | nil => rfl
  | cons input rest induction => simp only [List.cons_append, final_cons, induction]

theorem trace_append (state : State) (first second : List Input) :
    trace machine state (first ++ second) =
      trace machine state first ++ trace machine (final machine state first) second := by
  induction first generalizing state with
  | nil => rfl
  | cons input rest induction => simp only [List.cons_append, trace, final_cons, induction]

theorem final_concat (state : State) (inputs : List Input) (input : Input) :
    final machine state (inputs ++ [input]) = (machine (final machine state inputs) input).2 := by
  rw [final_append]
  rfl

theorem trace_concat (state : State) (inputs : List Input) (input : Input) :
    trace machine state (inputs ++ [input]) =
      trace machine state inputs ++ [stepAt machine (final machine state inputs) input] := by
  rw [trace_append]
  rfl

theorem mem_trace_concat (state : State) (inputs : List Input) (input : Input)
    (event : Step State Input Output) :
    event ∈ trace machine state (inputs ++ [input]) ↔
      event ∈ trace machine state inputs ∨
        event = stepAt machine (final machine state inputs) input := by
  rw [trace_concat, List.mem_append, List.mem_singleton]

theorem mem_trace_iff (state : State) (inputs : List Input) (event : Step State Input Output) :
    event ∈ trace machine state inputs ↔
      ∃ earlier input later, inputs = earlier ++ input :: later ∧
        event = stepAt machine (final machine state earlier) input := by
  induction inputs generalizing state with
  | nil => simp
  | cons head rest induction =>
      rw [trace, List.mem_cons, induction]
      constructor
      · intro cases_of
        rcases cases_of with here | ⟨earlier, input, later, split, same⟩
        · exact ⟨[], head, rest, rfl, here⟩
        · exact ⟨head :: earlier, input, later, by rw [split]; rfl, same⟩
      · intro found
        obtain ⟨earlier, input, later, split, same⟩ := found
        cases earlier with
        | nil =>
            simp only [List.nil_append, List.cons.injEq] at split
            exact Or.inl (by rw [same, split.1]; rfl)
        | cons first others =>
            simp only [List.cons_append, List.cons.injEq] at split
            refine Or.inr ⟨others, input, later, split.2, ?_⟩
            rw [same, split.1]
            rfl

/-- What one step preserves, a whole run preserves. -/
theorem invariant_final (invariant : State → Prop)
    (preserved : ∀ state input, invariant state → invariant (machine state input).2)
    {state : State} (holds : invariant state) (inputs : List Input) :
    invariant (final machine state inputs) := by
  induction inputs generalizing state with
  | nil => exact holds
  | cons input rest induction => exact induction (preserved state input holds)

theorem input_of_mem {state : State} {inputs : List Input} {event : Step State Input Output}
    (member : event ∈ trace machine state inputs) : event.input ∈ inputs := by
  obtain ⟨earlier, input, later, split, same⟩ := (mem_trace_iff machine state inputs event).mp member
  rw [split, same]
  exact List.mem_append_right _ List.mem_cons_self

/-- What a step that meets a condition preserves, a run whose steps all meet it preserves. -/
theorem invariant_final_when (invariant : State → Prop) (condition : Step State Input Output → Prop)
    (preserved : ∀ state input, invariant state → condition (stepAt machine state input) →
      invariant (machine state input).2)
    {state : State} (holds : invariant state) {inputs : List Input}
    (met : ∀ event ∈ trace machine state inputs, condition event) :
    invariant (final machine state inputs) := by
  induction inputs generalizing state with
  | nil => exact holds
  | cons input rest induction =>
      have here : condition (stepAt machine state input) := met _ List.mem_cons_self
      exact induction (preserved state input holds here) fun event member =>
        met event (List.mem_cons_of_mem _ member)

theorem invariant_before_when (invariant : State → Prop) (condition : Step State Input Output → Prop)
    (preserved : ∀ state input, invariant state → condition (stepAt machine state input) →
      invariant (machine state input).2)
    {state : State} (holds : invariant state) {inputs : List Input}
    (met : ∀ event ∈ trace machine state inputs, condition event) {event : Step State Input Output}
    (member : event ∈ trace machine state inputs) : invariant event.before := by
  obtain ⟨earlier, input, later, split, same⟩ := (mem_trace_iff machine state inputs event).mp member
  rw [same]
  apply invariant_final_when machine invariant condition preserved holds
  intro other inside
  apply met
  rw [split, trace_append]
  exact List.mem_append_left _ inside

theorem invariant_before (invariant : State → Prop)
    (preserved : ∀ state input, invariant state → invariant (machine state input).2)
    {state : State} (holds : invariant state) {inputs : List Input}
    {event : Step State Input Output} (member : event ∈ trace machine state inputs) :
    invariant event.before := by
  obtain ⟨earlier, input, later, _, same⟩ := (mem_trace_iff machine state inputs event).mp member
  rw [same]
  exact invariant_final machine invariant preserved holds earlier

theorem allowed_step (invariant : State → Prop) (allowed : Input → Prop)
    (preserved : ∀ state input, invariant state → allowed input → invariant (machine state input).2)
    {state : State} (holds : invariant state) {inputs : List Input}
    (allAllowed : ∀ input ∈ inputs, allowed input) {event : Step State Input Output}
    (member : event ∈ trace machine state inputs) :
    invariant event.before ∧ allowed event.input ∧ event = stepAt machine event.before event.input := by
  induction inputs generalizing state with
  | nil => cases member
  | cons input rest induction =>
      have first := allAllowed input List.mem_cons_self
      rw [trace, List.mem_cons] at member
      rcases member with here | later
      · rw [here]
        exact ⟨holds, first, rfl⟩
      · exact induction (preserved state input holds first)
          (fun other inside => allAllowed other (List.mem_cons_of_mem _ inside)) later

theorem output_of_invariant (invariant : State → Prop) (allowed : Input → Prop)
    (good : Output → Prop)
    (preserved : ∀ state input, invariant state → allowed input →
      good (machine state input).1 ∧ invariant (machine state input).2)
    {state : State} (holds : invariant state) {inputs : List Input}
    (allAllowed : ∀ input ∈ inputs, allowed input) {event : Step State Input Output}
    (member : event ∈ trace machine state inputs) : good event.output := by
  obtain ⟨before, permitted, same⟩ := allowed_step machine invariant allowed
    (fun state input holds permitted => (preserved state input holds permitted).2) holds allAllowed
    member
  rw [same]
  exact (preserved event.before event.input before permitted).1

/-- Steps that spend from a budget which no step refills are no more than the budget. -/
theorem spending_le (budget : State → Nat) (spends : Step State Input Output → Prop) {state : State}
    {inputs : List Input}
    (kept : ∀ event ∈ trace machine state inputs, budget event.after ≤ budget event.before)
    (spent : ∀ event ∈ trace machine state inputs, spends event →
      budget event.after < budget event.before)
    {spenders : List (Step State Input Output)}
    (among : List.Sublist spenders (trace machine state inputs))
    (all : ∀ event ∈ spenders, spends event) : spenders.length ≤ budget state := by
  induction inputs generalizing state spenders with
  | nil =>
      rw [trace, List.sublist_nil] at among
      rw [among]
      exact Nat.zero_le _
  | cons input rest induction =>
      rw [trace] at kept spent among
      have later (others : List (Step State Input Output))
          (among : List.Sublist others (trace machine (machine state input).2 rest))
          (all : ∀ event ∈ others, spends event) : others.length ≤ budget (machine state input).2 :=
        induction (fun event member => kept event (List.mem_cons_of_mem _ member))
          (fun event member => spent event (List.mem_cons_of_mem _ member)) among all
      cases among with
      | cons _ others => exact Nat.le_trans (later _ others all) (kept _ List.mem_cons_self)
      | cons_cons _ others =>
          have fewer := later _ others (fun event member => all event (List.mem_cons_of_mem _ member))
          have spentHere := spent _ List.mem_cons_self (all _ List.mem_cons_self)
          rw [List.length_cons]
          exact Nat.lt_of_le_of_lt fewer spentHere

theorem step_of_mem {state : State} {inputs : List Input} {event : Step State Input Output}
    (member : event ∈ trace machine state inputs) :
    machine event.before event.input = (event.output, event.after) := by
  obtain ⟨earlier, input, later, _, same⟩ := (mem_trace_iff machine state inputs event).mp member
  rw [same]
  rfl

def outputs (state : State) (inputs : List Input) : List Output :=
  (trace machine state inputs).map Step.output

@[simp] theorem outputs_cons (state : State) (input : Input) (rest : List Input) :
    outputs machine state (input :: rest) =
      (machine state input).1 :: outputs machine (machine state input).2 rest := rfl

theorem outputs_append (state : State) (first second : List Input) :
    outputs machine state (first ++ second) =
      outputs machine state first ++ outputs machine (final machine state first) second := by
  rw [outputs, trace_append, List.map_append]
  rfl

/-- Related states that answer alike and stay related on the allowed inputs give the same
outputs. -/
theorem outputs_of_simulation (related : State → State → Prop) (allowed : Input → Prop)
    (simulates : ∀ first second input, allowed input → related first second →
      (machine first input).1 = (machine second input).1 ∧
        related (machine first input).2 (machine second input).2)
    {first second : State} (start : related first second) {inputs : List Input}
    (all : ∀ input ∈ inputs, allowed input) :
    outputs machine first inputs = outputs machine second inputs := by
  induction inputs generalizing first second with
  | nil => rfl
  | cons input rest induction =>
      have step := simulates first second input (all input (List.mem_cons_self ..)) start
      rw [outputs_cons, outputs_cons, step.1]
      rw [induction step.2 fun other member => all other (List.mem_cons_of_mem _ member)]

end FerrumTty.Runs
