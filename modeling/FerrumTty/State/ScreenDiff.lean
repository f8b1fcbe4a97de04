import FerrumTty.State.LineTerminal

/-!
# Hosts behind a screen diff

A screen diff carries the visible part of the target over and leaves the host's hidden
part as it was. Screens and replays of reachable states have the size of the viewport.
-/

namespace FerrumTty.State

set_option autoImplicit false

open Crypto Wire

variable {terminal : Terminal}

/-- The states that the constructors and the methods of the type lead to. -/
inductive Reachable : RemoteTerminalState terminal → Prop
  | new {columns rows : UInt16} {state : RemoteTerminalState terminal} :
      RemoteTerminalState.new columns rows = .ok state → Reachable state
  | apply {state result : RemoteTerminalState terminal} {batch : InstructionBatch} :
      Reachable state → state.apply batch = .ok result → Reachable result
  | clone {state : RemoteTerminalState terminal} : Reachable state → Reachable state.clone

/-- A terminal that receives the delivered instructions. -/
def Parser.receive (parser : Parser terminal) (instruction : Instruction) : Parser terminal :=
  let parser := instruction.bytes.elim parser fun run => parser.process run.value
  instruction.viewport.elim parser fun viewport =>
    parser.setSize viewport.rows.toUInt16 viewport.columns.toUInt16

def Parser.receiveAll (parser : Parser terminal) (batch : InstructionBatch) : Parser terminal :=
  batch.instructions.foldl Parser.receive parser

def Terminal.viewport (terminal : Terminal) (visible : terminal.Visible) : ViewportSize :=
  viewportOf (terminal.size visible).2 (terminal.size visible).1

/-- The screen has the size of the viewport, and so has the screen of a replay. -/
structure Sized (state : RemoteTerminalState terminal) : Prop where
  screen : terminal.viewport state.parser.screen.1 = state.viewport
  replayed : lastViewport (viewportOf state.initialColumns state.initialRows) state.history.stream =
    state.viewport

theorem process_viewport (lawful : LawfulTerminal terminal) (parser : Parser terminal)
    (bytes : Bytes) :
    terminal.viewport (parser.process bytes).screen.1 = terminal.viewport parser.screen.1 := by
  have folded (callbacks : List Callback) (screen : terminal.Screen) :
      terminal.size (callbacks.foldl terminal.perform screen).1 = terminal.size screen.1 := by
    induction callbacks generalizing screen with
    | nil => rfl
    | cons callback rest induction =>
        rw [List.foldl_cons, induction, lawful.perform_size]
  rw [Terminal.viewport, Parser.process, folded]
  rfl

theorem set_size_viewport (lawful : LawfulTerminal terminal) (parser : Parser terminal)
    (rows columns : UInt16) :
    terminal.viewport (parser.setSize rows columns).screen.1 = viewportOf columns rows := by
  rw [Terminal.viewport, Parser.setSize, lawful.resized]

namespace RemoteTerminalState

theorem sized_host_bytes (lawful : LawfulTerminal terminal) {state : RemoteTerminalState terminal}
    (sized : Sized state) (bytes : Bytes) : Sized (state.applyHostBytes bytes) := by
  obtain ⟨viewport, _, parser⟩ := apply_host_bytes_frame state bytes
  have initial : viewportOf (state.applyHostBytes bytes).initialColumns
      (state.applyHostBytes bytes).initialRows =
      viewportOf state.initialColumns state.initialRows := by
    cases bytes <;> rfl
  constructor
  · rw [parser, process_viewport lawful, viewport]
    exact sized.screen
  · rw [initial, apply_host_bytes_stream, last_viewport_append, sized.replayed, last_viewport_bytes,
      viewport]

theorem sized_resize (lawful : LawfulTerminal terminal) {state : RemoteTerminalState terminal}
    (sized : Sized state) (columns rows : UInt16) : Sized (state.applyResize columns rows) := by
  rcases apply_resize_cases state columns rows with ⟨_, same⟩ | ⟨_, changed⟩
  · rw [same]
    exact sized
  · rw [changed]
    constructor
    · exact set_size_viewport lawful _ _ _
    · rw [stream_push, last_viewport_append]
      rfl

theorem sized_instruction (lawful : LawfulTerminal terminal)
    {state result : RemoteTerminalState terminal} {instruction : Instruction} (sized : Sized state)
    (applied : state.applyInstruction instruction = .ok result) : Sized result := by
  obtain ⟨bytes, viewport, marker, control⟩ := instruction
  simp only [applyInstruction, bind, Except.bind] at applied
  have written : Sized (bytes.elim state fun run => state.applyHostBytes run.value) := by
    cases bytes with
    | none => exact sized
    | some run => exact sized_host_bytes lawful sized run.value
  split at applied
  · cases applied
  · rename_i second resized
    have sizedSecond : Sized second := by
      cases viewport with
      | none =>
          rw [← Except.ok.inj resized]
          exact written
      | some viewport =>
          obtain ⟨columns, rows, _, same⟩ := apply_viewport_cases resized
          rw [same]
          exact sized_resize lawful written columns rows
    have sizedMarked : Sized (second.recordMarker marker) := by
      cases marker <;> exact ⟨sizedSecond.screen, sizedSecond.replayed⟩
    rw [← Except.ok.inj applied]
    cases control with
    | none => exact sizedMarked
    | some control =>
        refine ⟨sizedMarked.screen, ?_⟩
        have pushed := stream_push (second.recordMarker marker).history (.sessionControl control)
        exact (congrArg _ pushed).trans ((last_viewport_append _ _ _).trans sizedMarked.replayed)

theorem sized_apply (lawful : LawfulTerminal terminal) {state result : RemoteTerminalState terminal}
    {batch : InstructionBatch} (sized : Sized state) (applied : state.apply batch = .ok result) :
    Sized result := by
  obtain ⟨prepared, ready, stepped⟩ := apply_steps applied
  have sizedPrepared : Sized prepared := by
    rcases prepare_history_cases ready with ⟨_, same⟩ | ⟨_, _, compacted⟩
    · rw [same]
      exact sized
    · constructor
      · rw [compacted.parser, compacted.viewport]
        exact sized.screen
      · rw [compacts_to_stream compacted, last_viewport_bytes, compacted.initial, compacted.viewport]
  apply apply_all_preserves Sized _ sizedPrepared stepped
  intro before instruction after sizedBefore step
  exact sized_instruction lawful sizedBefore step

theorem replay_viewport (lawful : LawfulTerminal terminal) (operations : List StateOperation)
    (parser : Parser terminal) :
    terminal.viewport (operations.foldl replay parser).screen.1 =
      lastViewport (terminal.viewport parser.screen.1) (streamOf operations) := by
  induction operations generalizing parser with
  | nil => rfl
  | cons operation rest induction =>
      rw [List.foldl_cons, induction, stream_of_cons, last_viewport_append]
      cases operation with
      | hostBytes bytes =>
          rw [replay, process_viewport lawful, StateOperation.stream, last_viewport_bytes]
      | resize columns rows =>
          rw [replay, set_size_viewport lawful]
          rfl
      | sessionControl control => rfl

theorem sized_clone (lawful : LawfulTerminal terminal) {state : RemoteTerminalState terminal}
    (sized : Sized state) : Sized state.clone := by
  refine ⟨?_, sized.replayed⟩
  have start : terminal.viewport
      (Parser.new state.initialRows state.initialColumns).screen.1 =
      viewportOf state.initialColumns state.initialRows := by
    rw [Terminal.viewport, Parser.new, lawful.blank_size]
  have replayed := replay_viewport lawful state.history.operations
    (.new state.initialRows state.initialColumns)
  rw [start] at replayed
  exact replayed.trans sized.replayed

end RemoteTerminalState

theorem reachable_formed (lawful : LawfulTerminal terminal) {state : RemoteTerminalState terminal}
    (reachable : Reachable state) : WellFormed state ∧ Sized state := by
  induction reachable with
  | new created =>
      rename_i columns rows state
      obtain ⟨formed, history, viewport, _⟩ := RemoteTerminalState.new_formed created
      refine ⟨formed, ?_⟩
      rw [RemoteTerminalState.new_eq created]
      constructor
      · rw [Terminal.viewport, Parser.new, lawful.blank_size]
      · rfl
  | apply _ applied induction =>
      exact ⟨(RemoteTerminalState.apply_spec lawful.toLawfulParser induction.1 applied).1,
        RemoteTerminalState.sized_apply lawful induction.2 applied⟩
  | clone _ induction =>
      exact ⟨RemoteTerminalState.clone_formed induction.1,
        RemoteTerminalState.sized_clone lawful induction.2⟩

theorem receive_screen_diff (target delivered : RemoteTerminalState terminal)
    (parser : Parser terminal) :
    (target.screenDiff delivered).foldl Parser.receive parser =
      parser.process (terminal.stateDiff target.parser.screen delivered.parser.screen) := by
  unfold RemoteTerminalState.screenDiff
  cases value : terminal.stateDiff target.parser.screen delivered.parser.screen with
  | nil => rfl
  | cons byte bytes => rfl

theorem receive_echo (target delivered : RemoteTerminalState terminal) (parser : Parser terminal) :
    (target.echoInstructions delivered).foldl Parser.receive parser = parser := by
  unfold RemoteTerminalState.echoInstructions
  split_ifs
  · cases target.echoAck <;> rfl
  · rfl

/-- A host that received a screen diff stands at ground, with the target's visible part and
its own hidden part. -/
theorem host_after_screen_diff (lawful : LawfulTerminal terminal)
    {target delivered : RemoteTerminalState terminal} (targetReachable : Reachable target)
    (deliveredReachable : Reachable delivered) {diff : InstructionBatch}
    (diverged : ¬ delivered.history.stream <+: target.history.stream)
    (succeeded : target.diffFrom delivered = .ok diff) :
    RemoteTerminalState.ScreenDiffAllowed target delivered ∧
      delivered.parser.receiveAll diff =
        ⟨terminal.parserStart, (target.parser.screen.1, delivered.parser.screen.2)⟩ ∧
      target.parser = ⟨terminal.parserStart, target.parser.screen⟩ := by
  obtain ⟨targetFormed, targetSized⟩ := reachable_formed lawful targetReachable
  obtain ⟨deliveredFormed, deliveredSized⟩ := reachable_formed lawful deliveredReachable
  rcases RemoteTerminalState.diff_from_cases lawful.toLawfulParser targetFormed deliveredFormed with
    ⟨suffix, split, _⟩ | ⟨_, ⟨allowed, built⟩ | ⟨_, failed⟩⟩
  · exact absurd (split ▸ List.prefix_append _ _) diverged
  · have shape : diff = ⟨target.echoInstructions delivered ++ target.screenDiff delivered⟩ :=
      Except.ok.inj (succeeded.symm.trans built)
    have deliveredGround : delivered.parser = ⟨terminal.parserStart, delivered.parser.screen⟩ := by
      rw [← allowed.deliveredGround, ← deliveredFormed.replayed]
    have targetGround : target.parser = ⟨terminal.parserStart, target.parser.screen⟩ := by
      rw [← allowed.targetGround, ← targetFormed.replayed]
    have sameSize : terminal.size target.parser.screen.1 = terminal.size delivered.parser.screen.1 := by
      have viewports := targetSized.screen.trans (allowed.sameViewport.trans deliveredSized.screen.symm)
      obtain ⟨columns, rows⟩ := viewport_of_eq_iff.mp viewports
      exact Prod.ext rows columns
    refine ⟨allowed, ?_, targetGround⟩
    rw [shape, Parser.receiveAll, List.foldl_append, receive_echo, receive_screen_diff, deliveredGround]
    exact lawful.state_diff _ _ _ sameSize rfl
  · rw [failed] at succeeded
    cases succeeded

theorem diverged_apart (lawful : LawfulTerminal terminal)
    {target delivered : RemoteTerminalState terminal} (targetReachable : Reachable target)
    (deliveredReachable : Reachable delivered)
    (diverged : historySuffixStart target.history.canonicalOperations
      delivered.history.canonicalOperations = .error .divergedHistory) :
    ¬ delivered.history.stream <+: target.history.stream := by
  obtain ⟨targetFormed, _⟩ := reachable_formed lawful targetReachable
  obtain ⟨deliveredFormed, _⟩ := reachable_formed lawful deliveredReachable
  have prefixed := suffix_start_ok_iff _ _ (canonical_operations _ targetFormed.filled)
    (canonical_operations _ deliveredFormed.filled)
  rw [diverged, canonical_stream, canonical_stream] at prefixed
  intro holds
  obtain ⟨start, found⟩ := prefixed.mpr holds
  cases found

/-- A four-cell line, and the same line after some host bytes. -/
def blankLine : RemoteTerminalState lineTerminal where
  initialColumns := 4
  initialRows := 1
  parser := .new 1 4
  history := .empty
  viewport := viewportOf 4 1
  echoAck := none

def lineAfter (bytes : Bytes) : RemoteTerminalState lineTerminal := blankLine.applyHostBytes bytes

theorem line_after_reachable {bytes : Bytes}
    (applied : blankLine.apply ⟨[hostBytesInstruction bytes]⟩ = .ok (lineAfter bytes)) :
    Reachable (lineAfter bytes) := by
  have created : RemoteTerminalState.new 4 1 = .ok blankLine := rfl
  exact .apply (.new created) applied

end FerrumTty.State
