import FerrumTty.State.Clones

/-!
# Applying a batch is all or nothing

The source works on the state in place, so an error inside its loop would leave half a batch
behind. `applyInPlace` keeps the state that a failure leaves; validated viewports keep the loop from
failing, and the growth that is computed ahead is the growth of the loop.
-/

namespace FerrumTty.State

set_option autoImplicit false

open Crypto Wire Runs

variable {terminal : Terminal}

def StateOperation.hostByteCount : StateOperation → Nat
  | .hostBytes bytes => bytes.length
  | _ => 0

/-- The counters of a history say what it holds. -/
structure Counted (history : StateHistory) : Prop where
  operationCount : history.operationCount = history.operations.length
  retainedBytes : history.retainedBytes =
    (history.operations.map StateOperation.hostByteCount).sum
  filled : .hostBytes [] ∉ history.operations

/-- A counted history within the limits. -/
structure Bounded (history : StateHistory) : Prop extends Counted history where
  operations : history.operationCount ≤ MAX_RETAINED_OPERATIONS
  bytes : history.retainedBytes ≤ MAX_RETAINED_HOST_BYTES

theorem counted_empty : Counted .empty := ⟨rfl, rfl, List.not_mem_nil⟩

theorem counted_push {history : StateHistory} (counted : Counted history) {operation : StateOperation}
    (filled : operation ≠ .hostBytes []) :
    Counted
      (StateHistory.push
        { history with retainedBytes := history.retainedBytes + operation.hostByteCount }
        operation) := by
  have pushed : (StateHistory.push
      { history with retainedBytes := history.retainedBytes + operation.hostByteCount }
      operation).operations = history.operations ++ [operation] := by
    simp [StateHistory.push, StateHistory.operations]
  constructor
  · rw [pushed, List.length_append, ← counted.operationCount]
    rfl
  · rw [pushed, List.map_append, List.sum_append, ← counted.retainedBytes, List.map_singleton,
      List.sum_singleton]
    rfl
  · rw [pushed, List.mem_append, List.mem_singleton]
    rintro (earlier | last)
    · exact counted.filled earlier
    · exact filled last.symm

/-- A snapshot is one byte run, or none when it is empty. -/
theorem counted_snapshot (snapshot : Bytes) :
    Counted ⟨byteRun snapshot, if snapshot.isEmpty then 0 else 1, snapshot.length⟩ := by
  cases snapshot with
  | nil => exact counted_empty
  | cons value snapshot =>
      have filled : StateOperation.hostBytes [] ∉ [StateOperation.hostBytes (value :: snapshot)] := by
        simp
      exact ⟨rfl, rfl, filled⟩

namespace RemoteTerminalState

/-- The body of the loop. A failure leaves the state as it is by then. -/
def applyInstructionInPlace (state : RemoteTerminalState terminal) (instruction : Instruction) :
    Except StateError Unit × RemoteTerminalState terminal :=
  let state := instruction.bytes.elim state fun run => state.applyHostBytes run.value
  match instruction.viewport.elim (.ok state) state.applyViewport with
  | .error error => (.error error, state)
  | .ok state =>
      (.ok (), (state.recordMarker instruction.marker).recordSessionControl instruction.sessionControl)

def applyInstructionsInPlace (state : RemoteTerminalState terminal) :
    List Instruction → Except StateError Unit × RemoteTerminalState terminal
  | [] => (.ok (), state)
  | instruction :: rest =>
      match state.applyInstructionInPlace instruction with
      | (.error error, state) => (.error error, state)
      | (.ok (), state) => state.applyInstructionsInPlace rest

def applyInPlace (state : RemoteTerminalState terminal) (batch : InstructionBatch) :
    Except StateError Unit × RemoteTerminalState terminal :=
  match validateViewports batch with
  | .error error => (.error error, state)
  | .ok () =>
      match (batch.instructions.filterMap (·.marker)).foldlM validateEchoAck state.echoAck with
      | .error error => (.error error, state)
      | .ok _ =>
          match state.validateHistoryGrowth batch with
          | .ok () => state.applyInstructionsInPlace batch.instructions
          | .error _ =>
              match state.compactedHistory batch with
              | .error error => (.error error, state)
              | .ok (history, initialColumns, initialRows) =>
                  let state := { state with history, initialColumns, initialRows }
                  state.applyInstructionsInPlace batch.instructions

def performInPlace (state : RemoteTerminalState terminal) :
    Operation → Except StateError Unit × RemoteTerminalState terminal
  | .apply batch => state.applyInPlace batch
  | .clone => (.ok (), state.clone)

section InPlace

variable (state : RemoteTerminalState terminal)

theorem validated_viewport_applies {viewport : ViewportSize}
    (valid : validateViewport viewport.columns viewport.rows = .ok ()) :
    ∃ result, state.applyViewport viewport = .ok result := by
  unfold validateViewport at valid
  split_ifs at valid with invalid
  simp only [not_or, Bool.not_eq_true, Option.isNone_eq_false_iff, Option.isSome_iff_exists] at invalid
  rcases invalid with ⟨_, _, ⟨columns, fitsColumns⟩, rows, fitsRows⟩
  exact ⟨_, by rw [applyViewport, fitsColumns, fitsRows]⟩

theorem validated_instruction_applies {instruction : Instruction}
    (valid : ∀ viewport ∈ instruction.viewport,
      validateViewport viewport.columns viewport.rows = .ok ()) :
    ∃ result, state.applyInstruction instruction = .ok result ∧
      state.applyInstructionInPlace instruction = (.ok (), result) := by
  unfold applyInstruction applyInstructionInPlace
  generalize (instruction.bytes.elim state fun run => state.applyHostBytes run.value) = written
  cases resized : instruction.viewport with
  | none => exact ⟨_, rfl, rfl⟩
  | some viewport =>
      rcases validated_viewport_applies written (valid viewport resized) with ⟨result, applied⟩
      simp only [Option.elim_some, applied, bind, Except.bind]
      exact ⟨_, rfl, rfl⟩

theorem validated_instructions_apply {instructions : List Instruction}
    (valid : ∀ instruction ∈ instructions, ∀ viewport ∈ instruction.viewport,
      validateViewport viewport.columns viewport.rows = .ok ()) :
    ∃ result, instructions.foldlM applyInstruction state = .ok result ∧
      state.applyInstructionsInPlace instructions = (.ok (), result) := by
  induction instructions generalizing state with
  | nil => exact ⟨state, rfl, rfl⟩
  | cons instruction rest induction =>
      rcases validated_instruction_applies state (valid instruction List.mem_cons_self) with
        ⟨next, applied, inPlace⟩
      rcases induction next fun other member => valid other (List.mem_cons_of_mem _ member) with
        ⟨result, restApplied, restInPlace⟩
      refine ⟨result, ?_, ?_⟩
      · rw [List.foldlM_cons, applied]
        exact restApplied
      · rw [applyInstructionsInPlace, inPlace]
        exact restInPlace

theorem validated_viewports {instructions : List Instruction}
    (valid : validateViewports ⟨instructions⟩ = .ok ()) :
    ∀ instruction ∈ instructions, ∀ viewport ∈ instruction.viewport,
      validateViewport viewport.columns viewport.rows = .ok () := by
  induction instructions with
  | nil => exact fun _ member => absurd member List.not_mem_nil
  | cons first rest induction =>
      rw [validateViewports, List.forM] at valid
      cases check : first.viewport.elim (.ok ()) fun viewport =>
          validateViewport viewport.columns viewport.rows with
      | error error => simp [check, bind, Except.bind] at valid
      | ok =>
          rw [check] at valid
          intro instruction member viewport present
          rcases List.mem_cons.mp member with here | later
          · rw [← here, Option.mem_def.mp present] at check
            exact check
          · exact induction valid instruction later viewport present

/-- The loop never fails behind the checks, so that nothing is left half done. -/
theorem apply_in_place_eq (batch : InstructionBatch) :
    state.applyInPlace batch = state.perform (.apply batch) := by
  unfold applyInPlace perform
  dsimp only
  unfold apply prepareHistory
  cases valid : validateViewports batch with
  | error error => rfl
  | ok =>
      have passes := validated_viewports valid
      cases (batch.instructions.filterMap (·.marker)).foldlM validateEchoAck state.echoAck with
      | error error => rfl
      | ok last =>
          cases state.validateHistoryGrowth batch with
          | ok room =>
              rcases validated_instructions_apply state passes with ⟨result, applied, inPlace⟩
              simp only [bind, Except.bind, applied, inPlace]
          | error full =>
              cases state.compactedHistory batch with
              | error error => rfl
              | ok compacted =>
                  rcases compacted with ⟨history, initialColumns, initialRows⟩
                  rcases validated_instructions_apply
                    { state with history, initialColumns, initialRows } passes with
                    ⟨result, applied, inPlace⟩
                  simp only [bind, Except.bind, applied, inPlace]

theorem perform_in_place_eq (operation : Operation) :
    state.performInPlace operation = state.perform operation := by
  cases operation with
  | apply batch => exact apply_in_place_eq state batch
  | clone => rfl

end InPlace

/-- What the growth of a batch is counted on. -/
def sizes (state : RemoteTerminalState terminal) : Nat × Nat × ViewportSize :=
  (state.history.retainedBytes, state.history.operationCount, state.viewport)

section Growth

variable {state result : RemoteTerminalState terminal}

theorem apply_instruction_sizes {instruction : Instruction}
    (applied : state.applyInstruction instruction = .ok result) :
    result.sizes = growthStep state.sizes instruction := by
  rcases instruction with ⟨bytes, viewport, marker, control⟩
  simp only [applyInstruction, bind, Except.bind] at applied
  generalize written : (bytes.elim state fun run => state.applyHostBytes run.value) = first at applied
  have firstSizes : first.sizes = growthStep state.sizes ⟨bytes, none, none, none⟩ := by
    rw [← written]
    cases bytes with
    | none => rfl
    | some run =>
        rcases run with ⟨value⟩
        cases value <;> rfl
  split at applied
  · cases applied
  · rename_i second resized
    have secondSizes : second.sizes = growthStep first.sizes ⟨none, viewport, none, none⟩ := by
      cases viewport with
      | none => exact congrArg sizes (Except.ok.inj resized).symm
      | some viewport =>
          rcases apply_viewport_cases resized with ⟨columns, rows, wide, moved⟩
          rcases apply_resize_cases first columns rows with ⟨unchanged, same⟩ | ⟨changed, set⟩
          · rw [moved, same, wide]
            simp [growthStep, sizes, unchanged]
          · rw [moved, set, wide]
            simp [growthStep, sizes, changed, StateHistory.push]
    have lastSizes : ((second.recordMarker marker).recordSessionControl control).sizes =
        growthStep second.sizes ⟨none, none, none, control⟩ := by
      cases marker <;> cases control <;> rfl
    rw [← Except.ok.inj applied, lastSizes, secondSizes, firstSizes]
    cases viewport with
    | none => simp [growthStep]
    | some viewport => by_cases changed : state.viewport = viewport <;> simp [growthStep, sizes, changed]

theorem apply_all_sizes {instructions : List Instruction}
    (applied : instructions.foldlM applyInstruction state = .ok result) :
    result.sizes = instructions.foldl growthStep state.sizes := by
  induction instructions generalizing state with
  | nil => exact congrArg sizes (Except.ok.inj applied).symm
  | cons instruction rest induction =>
      obtain ⟨next, step, later⟩ := apply_all_cons applied
      rw [induction later, apply_instruction_sizes step, List.foldl_cons]

/-- Growth is counted alike from every start. -/
theorem growth_from (instructions : List Instruction) (bytes operations : Nat) (viewport : ViewportSize) :
    instructions.foldl growthStep (bytes, operations, viewport) =
      (bytes + (instructions.foldl growthStep (0, 0, viewport)).1,
        operations + (instructions.foldl growthStep (0, 0, viewport)).2.1,
        (instructions.foldl growthStep (0, 0, viewport)).2.2) := by
  induction instructions generalizing bytes operations viewport with
  | nil => rfl
  | cons instruction rest induction =>
      rw [List.foldl_cons, List.foldl_cons]
      have step : growthStep (bytes, operations, viewport) instruction =
          (bytes + (growthStep (0, 0, viewport) instruction).1,
            operations + (growthStep (0, 0, viewport) instruction).2.1,
            (growthStep (0, 0, viewport) instruction).2.2) := by
        simp only [growthStep, Nat.zero_add, Prod.mk.injEq, true_and, and_true]
        omega
      rw [step]
      generalize growthStep (0, 0, viewport) instruction = grown
      rcases grown with ⟨moreBytes, moreOperations, next⟩
      rw [induction, induction moreBytes moreOperations next, Nat.add_assoc, Nat.add_assoc]

theorem apply_all_grows {batch : InstructionBatch}
    (applied : batch.instructions.foldlM applyInstruction state = .ok result) :
    result.history.retainedBytes =
        state.history.retainedBytes + (historyGrowth batch state.viewport).1 ∧
      result.history.operationCount =
        state.history.operationCount + (historyGrowth batch state.viewport).2 := by
  have grown := apply_all_sizes applied
  rw [sizes, sizes, growth_from, Prod.mk.injEq, Prod.mk.injEq] at grown
  exact ⟨grown.1, grown.2.1⟩

theorem apply_host_bytes_counted (counted : Counted state.history) (bytes : Bytes) :
    Counted (state.applyHostBytes bytes).history := by
  cases bytes with
  | nil => exact counted
  | cons value bytes =>
      have filled : StateOperation.hostBytes (value :: bytes) ≠ .hostBytes [] := by simp
      exact counted_push counted filled

theorem apply_viewport_counted (counted : Counted state.history) {viewport : ViewportSize}
    (applied : state.applyViewport viewport = .ok result) : Counted result.history := by
  rcases apply_viewport_cases applied with ⟨columns, rows, _, moved⟩
  rw [moved]
  rcases apply_resize_cases state columns rows with ⟨_, same⟩ | ⟨_, resized⟩
  · rw [same]
    exact counted
  · rw [resized]
    have filled : StateOperation.resize columns rows ≠ .hostBytes [] := by simp
    exact counted_push counted filled

theorem apply_instruction_counted {instruction : Instruction} (counted : Counted state.history)
    (applied : state.applyInstruction instruction = .ok result) : Counted result.history := by
  rcases instruction with ⟨bytes, viewport, marker, control⟩
  simp only [applyInstruction, bind, Except.bind] at applied
  generalize written : (bytes.elim state fun run => state.applyHostBytes run.value) = first at applied
  have firstCounted : Counted first.history := by
    rw [← written]
    cases bytes with
    | none => exact counted
    | some run => exact apply_host_bytes_counted counted run.value
  split at applied
  · cases applied
  · rename_i second resized
    have secondCounted : Counted (second.recordMarker marker).history := by
      rw [(record_marker_spec second marker).1]
      cases viewport with
      | none => exact Except.ok.inj resized ▸ firstCounted
      | some viewport => exact apply_viewport_counted firstCounted resized
    rw [← Except.ok.inj applied]
    cases control with
    | none => exact secondCounted
    | some control =>
        have filled : StateOperation.sessionControl control ≠ .hostBytes [] := by simp
        exact counted_push secondCounted filled

theorem apply_all_counted {instructions : List Instruction} (counted : Counted state.history)
    (applied : instructions.foldlM applyInstruction state = .ok result) : Counted result.history :=
  apply_all_preserves (fun state => Counted state.history)
    (fun _ _ _ before step => apply_instruction_counted before step) counted applied

theorem compacted_has_room {batch : InstructionBatch} {history : StateHistory} {columns rows : UInt16}
    (compacted : state.compactedHistory batch = .ok (history, columns, rows)) :
    Counted history ∧
      validateHistorySize history.retainedBytes history.operationCount
        (historyGrowth batch state.viewport).1 (historyGrowth batch state.viewport).2 = .ok () := by
  unfold compactedHistory at compacted
  split at compacted
  · cases compacted
  · simp only [bind, Except.bind] at compacted
    split at compacted
    · cases compacted
    · rename_i fits
      split at compacted
      · rw [← (Prod.mk.inj (Except.ok.inj compacted)).1]
        exact ⟨counted_snapshot _, fits⟩
      · cases compacted

/-- Whatever history a batch is applied to, it counts right and has room for the batch. -/
theorem prepared_has_room {batch : InstructionBatch} (counted : Counted state.history)
    (ready : state.prepareHistory batch = .ok result) :
    Counted result.history ∧ result.validateHistoryGrowth batch = .ok () := by
  unfold prepareHistory at ready
  cases room : state.validateHistoryGrowth batch with
  | ok =>
      rw [room] at ready
      rw [← Except.ok.inj ready]
      exact ⟨counted, room⟩
  | error full =>
      rw [room] at ready
      cases compacted : state.compactedHistory batch with
      | error error => simp [compacted, bind, Except.bind] at ready
      | ok triple =>
          rcases triple with ⟨history, columns, rows⟩
          simp only [compacted, bind, Except.bind] at ready
          rcases compacted_has_room compacted with ⟨counts, fits⟩
          rw [← Except.ok.inj ready]
          exact ⟨counts, fits⟩

theorem apply_bounded {batch : InstructionBatch} (counted : Counted state.history)
    (applied : state.apply batch = .ok result) : Bounded result.history := by
  rcases apply_steps applied with ⟨prepared, ready, stepped⟩
  rcases prepared_has_room counted ready with ⟨preparedCounted, room⟩
  have limits : prepared.history.retainedBytes + (historyGrowth batch prepared.viewport).1 ≤
        MAX_RETAINED_HOST_BYTES ∧
      prepared.history.operationCount + (historyGrowth batch prepared.viewport).2 ≤
        MAX_RETAINED_OPERATIONS := (validate_history_size_iff _ _ _ _).mp room
  rcases apply_all_grows stepped with ⟨grownBytes, grownOperations⟩
  rw [← grownBytes, ← grownOperations] at limits
  exact ⟨apply_all_counted preparedCounted stepped, limits.2, limits.1⟩

theorem perform_bounded (bounded : Bounded state.history) (operation : Operation) :
    Bounded (state.perform operation).2.history := by
  cases operation with
  | clone => exact bounded
  | apply batch =>
      unfold perform
      dsimp only
      cases applied : state.apply batch with
      | error error => exact bounded
      | ok result => exact apply_bounded bounded.toCounted applied

end Growth

/-- Applying a batch is all or nothing, and a history counts what it holds. -/
structure AllOrNothing (state : RemoteTerminalState terminal) : Prop where
  refused : ∀ batch error after, state.applyInPlace batch = (.error error, after) → after = state
  grown : ∀ batch after, state.validateHistoryGrowth batch = .ok () →
    state.applyInPlace batch = (.ok (), after) →
      after.history.retainedBytes =
          state.history.retainedBytes + (historyGrowth batch state.viewport).1 ∧
        after.history.operationCount =
          state.history.operationCount + (historyGrowth batch state.viewport).2
  bounded : Bounded state.history

theorem all_or_nothing {state : RemoteTerminalState terminal} (bounded : Bounded state.history) :
    AllOrNothing state := by
  refine ⟨?_, ?_, bounded⟩
  · intro batch error after failed
    rw [apply_in_place_eq, perform] at failed
    cases applied : state.apply batch with
    | ok result => simp [applied] at failed
    | error refusal =>
        rw [applied] at failed
        exact (Prod.mk.inj failed).2.symm
  · intro batch after room succeeded
    rw [apply_in_place_eq, perform] at succeeded
    cases applied : state.apply batch with
    | error refusal => simp [applied] at succeeded
    | ok result =>
        rw [applied] at succeeded
        rw [← (Prod.mk.inj succeeded).2]
        rcases apply_steps applied with ⟨prepared, ready, stepped⟩
        rw [prepareHistory, room] at ready
        rw [← Except.ok.inj ready] at stepped
        exact apply_all_grows stepped

section Run

variable {columns rows : UInt16} {start : RemoteTerminalState terminal}

theorem run_in_place_eq (operations : List Operation) :
    final performInPlace start operations = final perform start operations := by
  induction operations generalizing start with
  | nil => rfl
  | cons operation rest induction =>
      rw [final_cons, final_cons, perform_in_place_eq, induction]

/-- Every state that batches and clones lead to. -/
theorem apply_all_or_nothing (created : new columns rows = .ok start) (operations : List Operation) :
    AllOrNothing (final performInPlace start operations) := by
  apply all_or_nothing
  rw [run_in_place_eq]
  apply invariant_final perform (fun state => Bounded state.history)
  · intro state operation bounded
    exact perform_bounded bounded operation
  · rw [(new_formed created).2.1]
    exact ⟨counted_empty, Nat.zero_le _, Nat.zero_le _⟩

/-- A line that is written to after a refused batch. -/
theorem line_all_or_nothing :
    AllOrNothing (final performInPlace blankLine
      [.apply ⟨[hostBytesInstruction [0x61], viewportInstruction 0 1]⟩,
        .apply ⟨[hostBytesInstruction [0x61]]⟩, .clone]) := by
  have created : new 4 1 = .ok blankLine := rfl
  exact apply_all_or_nothing created _

end Run

end RemoteTerminalState

end FerrumTty.State
