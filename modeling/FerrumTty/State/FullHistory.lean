import FerrumTty.State.Reconstruction
import FerrumTty.Wire.MessageRoundTrip

/-!
# A history at its limit

A batch of session controls grows a history without touching the screen. One resize and
65535 controls fill it, and whatever comes next is applied behind a snapshot that holds
neither.
-/

namespace FerrumTty.State

set_option autoImplicit false

open Crypto Wire

variable {terminal : Terminal}

theorem validate_history_size_iff (retainedBytes operationCount additionalBytes
    additionalOperations : Nat) :
    validateHistorySize retainedBytes operationCount additionalBytes additionalOperations = .ok () ↔
      retainedBytes + additionalBytes ≤ MAX_RETAINED_HOST_BYTES ∧
        operationCount + additionalOperations ≤ MAX_RETAINED_OPERATIONS := by
  rw [validateHistorySize, ← Nat.not_lt, ← Nat.not_lt, ← not_or]
  split_ifs with full
  · simp [full]
  · simp [full]

namespace RemoteTerminalState

/-- The state with a number of equal session controls behind its history. -/
def withControls (state : RemoteTerminalState terminal) (control : SessionControl) (number : Nat) :
    RemoteTerminalState terminal :=
  { state with
    history :=
      { state.history with
        tail := List.replicate number (.sessionControl control) ++ state.history.tail
        operationCount := state.history.operationCount + number } }

theorem apply_controls (state : RemoteTerminalState terminal) (control : SessionControl) (number : Nat) :
    (List.replicate number (sessionControlInstruction control)).foldlM applyInstruction state =
      .ok (state.withControls control number) := by
  induction number generalizing state with
  | zero => rfl
  | succ number induction =>
      have step : state.applyInstruction (sessionControlInstruction control) =
          .ok (state.withControls control 1) := rfl
      rw [List.replicate_succ, List.foldlM_cons, step]
      have rest := induction (state.withControls control 1)
      have grown : (state.withControls control 1).withControls control number =
          state.withControls control (number + 1) := by
        simp only [withControls, List.replicate_succ', List.replicate_zero, List.nil_append,
          List.append_assoc, Nat.add_assoc, Nat.add_comm 1]
      rw [grown] at rest
      exact rest

theorem growth_controls (grown : Nat × Nat × ViewportSize) (control : SessionControl) (number : Nat) :
    (List.replicate number (sessionControlInstruction control)).foldl growthStep grown =
      (grown.1, grown.2.1 + number, grown.2.2) := by
  induction number generalizing grown with
  | zero => rfl
  | succ number induction =>
      have step : growthStep grown (sessionControlInstruction control) =
          (grown.1, grown.2.1 + 1, grown.2.2) := rfl
      rw [List.replicate_succ, List.foldl_cons, step, induction, Nat.add_assoc, Nat.add_comm 1]

theorem with_controls_bytes (state : RemoteTerminalState terminal) (control : SessionControl)
    (number : Nat) :
    streamBytes (state.withControls control number).history.stream =
      streamBytes state.history.stream := by
  have unwritten : streamBytes (streamOf
      (List.replicate number (StateOperation.sessionControl control))) = [] := by
    induction number with
    | zero => rfl
    | succ number induction => exact induction
  rw [StateHistory.stream, StateHistory.operations, withControls, List.reverse_append,
    List.reverse_replicate, stream_of_append, stream_bytes_append, unwritten, List.append_nil]
  rfl

theorem apply_control_batch (state : RemoteTerminalState terminal) (control : SessionControl)
    (number : Nat) (bytes : state.history.retainedBytes ≤ MAX_RETAINED_HOST_BYTES)
    (room : state.history.operationCount + number ≤ MAX_RETAINED_OPERATIONS) :
    state.apply ⟨List.replicate number (sessionControlInstruction control)⟩ =
      .ok (state.withControls control number) := by
  have viewports : validateViewports
      ⟨List.replicate number (sessionControlInstruction control)⟩ = .ok () := by
    apply for_each_ok
    intro instruction member
    rw [(List.mem_replicate.mp member).2]
    rfl
  have echoes : (List.replicate number (sessionControlInstruction control)).filterMap (·.marker) =
      [] := by
    apply List.filterMap_eq_nil_iff.mpr
    intro instruction member
    rw [(List.mem_replicate.mp member).2]
    rfl
  have growth : historyGrowth ⟨List.replicate number (sessionControlInstruction control)⟩
      state.viewport = (0, number) := by
    rw [historyGrowth, growth_controls, Nat.zero_add]
  have fits : state.validateHistoryGrowth
      ⟨List.replicate number (sessionControlInstruction control)⟩ = .ok () := by
    rw [validateHistoryGrowth, growth]
    exact (validate_history_size_iff _ _ _ _).mpr ⟨bytes, room⟩
  rw [apply, viewports, echoes, prepareHistory, fits]
  simp only [bind, Except.bind, List.foldlM_nil, pure, Except.pure]
  exact apply_controls state control number

def snapshotHistory (snapshot : Bytes) : StateHistory where
  tail := byteRun snapshot
  operationCount := if snapshot.isEmpty then 0 else 1
  retainedBytes := snapshot.length

/-- A full history has no room for one more byte. -/
theorem no_room_for_byte {state : RemoteTerminalState terminal}
    (full : state.history.operationCount = MAX_RETAINED_OPERATIONS) (value : UInt8) :
    state.validateHistoryGrowth ⟨[hostBytesInstruction [value]]⟩ ≠ .ok () := by
  intro fits
  have growth : historyGrowth ⟨[hostBytesInstruction [value]]⟩ state.viewport = (1, 1) := rfl
  rw [validateHistoryGrowth, growth] at fits
  have room := ((validate_history_size_iff _ _ _ _).mp fits).2
  omega

theorem apply_byte_compacted {state : RemoteTerminalState terminal} {columns rows : UInt16}
    (viewport : state.viewport = viewportOf columns rows)
    (full : state.history.operationCount = MAX_RETAINED_OPERATIONS)
    (ground : historyEndsAtGround terminal state.history.canonicalOperations = true)
    (small : (terminal.stateFormatted state.parser.screen).length < MAX_RETAINED_HOST_BYTES)
    (value : UInt8) :
    state.apply ⟨[hostBytesInstruction [value]]⟩ =
      .ok (applyHostBytes
        { state with
          history := snapshotHistory (terminal.stateFormatted state.parser.screen)
          initialColumns := columns
          initialRows := rows } [value]) := by
  have growth : historyGrowth ⟨[hostBytesInstruction [value]]⟩ state.viewport = (1, 1) := rfl
  have room : validateHistorySize (terminal.stateFormatted state.parser.screen).length
      (if (terminal.stateFormatted state.parser.screen).isEmpty then 0 else 1) 1 1 = .ok () := by
    apply (validate_history_size_iff _ _ _ _).mpr
    refine ⟨small, ?_⟩
    have two : 2 ≤ MAX_RETAINED_OPERATIONS := by decide
    split_ifs <;> omega
  have fitsColumns : narrow (viewportOf columns rows).columns = some columns := narrow_wide columns
  have fitsRows : narrow (viewportOf columns rows).rows = some rows := narrow_wide rows
  have compacted : state.compactedHistory ⟨[hostBytesInstruction [value]]⟩ =
      .ok (snapshotHistory (terminal.stateFormatted state.parser.screen), columns, rows) := by
    rw [compactedHistory, ground, growth, viewport]
    simp only [Bool.not_true, Bool.false_eq_true, if_false, bind, Except.bind]
    rw [room, fitsColumns, fitsRows]
    rfl
  cases fits : state.validateHistoryGrowth ⟨[hostBytesInstruction [value]]⟩ with
  | ok => exact absurd fits (no_room_for_byte full value)
  | error error =>
      rw [apply, prepareHistory, fits]
      dsimp only
      rw [compacted]
      rfl

end RemoteTerminalState

def emptyControl : SessionControl where
  kind := 0
  payload := []

/-- A resize to two cells, and a number of controls. -/
def resizeAndControls (number : Nat) : InstructionBatch where
  instructions := viewportInstruction 2 1 ::
    List.replicate number (sessionControlInstruction emptyControl)

/-- What that batch makes of a blank state of another size. -/
def resizedWithControls (blank : RemoteTerminalState terminal) (number : Nat) :
    RemoteTerminalState terminal :=
  (blank.applyResize 2 1).withControls emptyControl number

/-- A state without a history and of another size. -/
structure BlankState (blank : RemoteTerminalState terminal) : Prop where
  fresh : blank.history = .empty
  other : blank.viewport ≠ viewportOf 2 1
  parser : blank.parser = .new blank.initialRows blank.initialColumns

namespace BlankState

variable {blank : RemoteTerminalState terminal} (start : BlankState blank) (number : Nat)

include start

theorem apply_controls (room : number + 1 ≤ MAX_RETAINED_OPERATIONS) :
    blank.apply (resizeAndControls number) = .ok (resizedWithControls blank number) := by
  have viewports : RemoteTerminalState.validateViewports (resizeAndControls number) = .ok () := by
    apply for_each_ok
    intro instruction member
    rcases List.mem_cons.mp member with first | control
    · rw [first]
      rfl
    · rw [(List.mem_replicate.mp control).2]
      rfl
  have echoes : (resizeAndControls number).instructions.filterMap (·.marker) = [] := by
    apply List.filterMap_eq_nil_iff.mpr
    intro instruction member
    rcases List.mem_cons.mp member with first | control
    · rw [first]
      rfl
    · rw [(List.mem_replicate.mp control).2]
      rfl
  have growth : historyGrowth (resizeAndControls number) blank.viewport = (0, 1 + number) := by
    have step : growthStep (0, 0, blank.viewport) (viewportInstruction 2 1) =
        (0, 1, viewportOf 2 1) := by
      simp [growthStep, viewportInstruction, start.other]
    rw [historyGrowth, resizeAndControls, List.foldl_cons, step, RemoteTerminalState.growth_controls]
  have fits : blank.validateHistoryGrowth (resizeAndControls number) = .ok () := by
    rw [RemoteTerminalState.validateHistoryGrowth, growth, start.fresh]
    apply (validate_history_size_iff _ _ _ _).mpr
    refine ⟨Nat.zero_le _, ?_⟩
    change 0 + (1 + number) ≤ MAX_RETAINED_OPERATIONS
    omega
  have resized : blank.applyInstruction (viewportInstruction 2 1) = .ok (blank.applyResize 2 1) := rfl
  have controls := RemoteTerminalState.apply_controls (blank.applyResize 2 1) emptyControl number
  rw [RemoteTerminalState.apply, viewports, echoes, RemoteTerminalState.prepareHistory, fits]
  simp only [bind, Except.bind, List.foldlM_nil, pure, Except.pure]
  rw [resizeAndControls, List.foldlM_cons, resized]
  exact controls

theorem resized_eq : blank.applyResize 2 1 =
    { blank with
      parser := blank.parser.setSize 1 2
      viewport := viewportOf 2 1
      history := { tail := [.resize 2 1], operationCount := 1, retainedBytes := 0 } } := by
  have changed : ¬ (blank.viewport.columns = (2 : UInt16).toUInt64 ∧
      blank.viewport.rows = (1 : UInt16).toUInt64) := by
    rintro ⟨columns, rows⟩
    apply start.other
    rw [viewportOf, ← columns, ← rows]
  rw [RemoteTerminalState.applyResize, if_neg changed, start.fresh]
  rfl

theorem operations : (resizedWithControls blank number).history.operations =
    .resize 2 1 :: List.replicate number (.sessionControl emptyControl) := by
  rw [resizedWithControls, start.resized_eq, RemoteTerminalState.withControls, StateHistory.operations]
  simp

theorem stream : (resizedWithControls blank number).history.stream =
    .viewport (viewportOf 2 1) :: streamOf (List.replicate number (.sessionControl emptyControl)) := by
  rw [StateHistory.stream, start.operations]
  rfl

theorem stream_bytes : streamBytes (resizedWithControls blank number).history.stream = [] := by
  rw [resizedWithControls, RemoteTerminalState.with_controls_bytes, start.resized_eq]
  rfl

theorem clone_eq : (resizedWithControls blank number).clone = resizedWithControls blank number := by
  have controls (parser : Parser terminal) :
      (List.replicate number (StateOperation.sessionControl emptyControl)).foldl
        RemoteTerminalState.replay parser = parser := by
    induction number with
    | zero => rfl
    | succ number induction => exact induction
  rw [RemoteTerminalState.clone, start.operations, List.foldl_cons, controls]
  rw [resizedWithControls, start.resized_eq, start.parser]
  rfl

theorem resized_fields : (resizedWithControls blank number).parser = blank.parser.setSize 1 2 ∧
    (resizedWithControls blank number).viewport = viewportOf 2 1 ∧
    (resizedWithControls blank number).history.operationCount = 1 + number := by
  rw [resizedWithControls, start.resized_eq]
  exact ⟨rfl, rfl, rfl⟩

theorem no_room (full : number + 1 = MAX_RETAINED_OPERATIONS) (value : UInt8) :
    (resizedWithControls blank number).validateHistoryGrowth ⟨[hostBytesInstruction [value]]⟩ ≠
      .ok () := by
  apply RemoteTerminalState.no_room_for_byte
  rw [(start.resized_fields number).2.2, Nat.add_comm]
  exact full

theorem apply_byte (lawful : LawfulParser terminal) (full : number + 1 = MAX_RETAINED_OPERATIONS)
    (small : (terminal.stateFormatted (blank.parser.setSize 1 2).screen).length <
      MAX_RETAINED_HOST_BYTES) (value : UInt8) :
    ∃ target, (resizedWithControls blank number).apply ⟨[hostBytesInstruction [value]]⟩ = .ok target ∧
      target.parser.state = (terminal.advance terminal.parserStart value).1 := by
  obtain ⟨parser, viewport, counted⟩ := start.resized_fields number
  have ground : historyEndsAtGround terminal
      (resizedWithControls blank number).history.canonicalOperations = true := by
    rw [history_ends_at_ground_iff lawful, canonical_stream, Terminal.parserAfter, start.stream_bytes]
    rfl
  rw [← parser] at small
  have applied := RemoteTerminalState.apply_byte_compacted viewport
    (counted.trans ((Nat.add_comm 1 number).trans full)) ground small value
  refine ⟨_, applied, ?_⟩
  have processed : (RemoteTerminalState.applyHostBytes
      { resizedWithControls blank number with
        history := RemoteTerminalState.snapshotHistory
          (terminal.stateFormatted (resizedWithControls blank number).parser.screen)
        initialColumns := 2
        initialRows := 1 } [value]).parser =
      (resizedWithControls blank number).parser.process [value] := rfl
  rw [processed, parser, start.parser]
  rfl

end BlankState

end FerrumTty.State
