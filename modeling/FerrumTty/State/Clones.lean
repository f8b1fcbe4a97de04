import FerrumTty.Library.Runs
import FerrumTty.State.FullHistory
import FerrumTty.State.ScreenDiff

/-!
# Clones of a remote state

A clone replays the retained history on a fresh parser. Between compactions the live parser is
that replay. A compaction replaces the history by a snapshot of the visible part and keeps the live
parser, so the clone behaves like the original when no input tells the hidden part of the
compacted screen from that of a blank one.
-/

namespace FerrumTty.State

set_option autoImplicit false

open Crypto Wire Runs

variable {terminal : Terminal}

/-- What a clone relies on besides the parser: a formatted screen depends on the visible part, and
fed to a fresh parser of the same size it brings that part back and nothing else. -/
structure LawfulSnapshots (terminal : Terminal) : Prop extends LawfulTerminal terminal where
  formatted_visible : ∀ (visible : terminal.Visible) (first second : terminal.Hidden),
    terminal.stateFormatted (visible, first) = terminal.stateFormatted (visible, second)
  formatted_restores : ∀ (screen : terminal.Screen) rows columns,
    terminal.size screen.1 = (rows, columns) →
      (Parser.new rows columns : Parser terminal).process (terminal.stateFormatted screen) =
        ⟨terminal.parserStart, (screen.1, (terminal.blank rows columns).2)⟩

theorem lawful_line_snapshots : LawfulSnapshots lineTerminal where
  toLawfulTerminal := lawful_line_terminal
  formatted_visible visible first second := rfl
  formatted_restores screen rows columns sameSize := by
    obtain ⟨sameRows, sameColumns⟩ := Prod.mk.inj sameSize
    have state := congrArg Prod.fst (advance_formatted screen.1)
    have restored := formatted_restores screen.1 (lineTerminal.blank rows columns) sameRows.symm
      sameColumns.symm
    change Parser.mk _ _ = _
    rw [Parser.mk.injEq]
    exact ⟨state, restored⟩

section Following

/-- A parser that is fed one item of a stream. -/
def Parser.followItem (parser : Parser terminal) : StreamItem → Parser terminal
  | .byte value => parser.process [value]
  | .viewport size => parser.setSize size.rows.toUInt16 size.columns.toUInt16
  | .control _ => parser

def Parser.follow (parser : Parser terminal) (stream : List StreamItem) : Parser terminal :=
  stream.foldl Parser.followItem parser

theorem follow_append (parser : Parser terminal) (first second : List StreamItem) :
    parser.follow (first ++ second) = (parser.follow first).follow second := List.foldl_append

theorem follow_bytes (parser : Parser terminal) (bytes : Bytes) :
    parser.follow (bytes.map .byte) = parser.process bytes := by
  induction bytes generalizing parser with
  | nil => rfl
  | cons value bytes induction =>
      have split := process_append parser [value] bytes
      rw [List.singleton_append] at split
      rw [split, ← induction]
      rfl

theorem follow_viewport (parser : Parser terminal) (columns rows : UInt16) :
    parser.follow [.viewport (viewportOf columns rows)] = parser.setSize rows columns := by
  have narrowed (value : UInt16) : value.toUInt64.toUInt16 = value := by simp
  change parser.setSize rows.toUInt64.toUInt16 columns.toUInt64.toUInt16 = _
  rw [narrowed, narrowed]

theorem replay_follows (operations : List StateOperation) (parser : Parser terminal) :
    operations.foldl RemoteTerminalState.replay parser = parser.follow (streamOf operations) := by
  induction operations generalizing parser with
  | nil => rfl
  | cons operation rest induction =>
      rw [List.foldl_cons, induction, stream_of_cons, follow_append]
      cases operation with
      | hostBytes bytes => rw [StateOperation.stream, follow_bytes, RemoteTerminalState.replay]
      | resize columns rows => rw [StateOperation.stream, follow_viewport, RemoteTerminalState.replay]
      | sessionControl control => rfl

/-- Two parsers that show the same whatever they are fed. -/
def Alike (first second : Parser terminal) : Prop :=
  ∀ later, (first.follow later).screen.1 = (second.follow later).screen.1

theorem Alike.refl (parser : Parser terminal) : Alike parser parser := fun _ => rfl

theorem Alike.follow {first second : Parser terminal} (alike : Alike first second)
    (stream : List StreamItem) : Alike (first.follow stream) (second.follow stream) := by
  intro later
  rw [← follow_append, ← follow_append]
  exact alike (stream ++ later)

theorem Alike.visible {first second : Parser terminal} (alike : Alike first second) :
    first.screen.1 = second.screen.1 := alike []

end Following

namespace RemoteTerminalState

/-- The same state around another parser. -/
def withParser (state : RemoteTerminalState terminal) (parser : Parser terminal) :
    RemoteTerminalState terminal :=
  { state with parser }

theorem clone_follows (state : RemoteTerminalState terminal) :
    state.clone = state.withParser
      ((Parser.new state.initialRows state.initialColumns).follow state.history.stream) := by
  rw [clone, replay_follows]
  rfl

section WithParser

variable (state : RemoteTerminalState terminal) (parser : Parser terminal)

theorem with_parser_host_bytes (bytes : Bytes) :
    (state.withParser parser).applyHostBytes bytes =
      (state.applyHostBytes bytes).withParser (parser.follow (bytes.map .byte)) := by
  rw [follow_bytes]
  unfold applyHostBytes
  dsimp only
  split_ifs <;> rfl

theorem with_parser_viewport (viewport : ViewportSize) :
    (state.withParser parser).applyViewport viewport = (state.applyViewport viewport).map
      fun result => result.withParser (parser.follow (resizeStream state.viewport (some viewport))) := by
  unfold applyViewport
  split
  · rename_i columns rows fitsColumns fitsRows
    have wide := narrow_viewport fitsColumns fitsRows
    rw [Except.map, wide]
    rcases apply_resize_cases state columns rows with ⟨unchanged, same⟩ | ⟨changed, resized⟩
    · rcases apply_resize_cases (state.withParser parser) columns rows with
        ⟨_, kept⟩ | ⟨other, _⟩
      · rw [same, kept, resizeStream, if_pos unchanged]
        rfl
      · exact absurd unchanged other
    · rcases apply_resize_cases (state.withParser parser) columns rows with
        ⟨other, _⟩ | ⟨_, moved⟩
      · exact absurd other changed
      · rw [resized, moved, resizeStream, if_neg changed, follow_viewport]
        rfl
  · rfl

theorem follow_control (control : Option SessionControl) :
    parser.follow (control.elim [] fun control => [.control control]) = parser := by
  cases control <;> rfl

theorem with_parser_instruction (instruction : Instruction) :
    (state.withParser parser).applyInstruction instruction = (state.applyInstruction instruction).map
      fun result => result.withParser (parser.follow (addedStream state.viewport [instruction])) := by
  obtain ⟨bytes, viewport, marker, control⟩ := instruction
  simp only [applyInstruction, addedStream, List.append_nil, follow_append, follow_control]
  have written : (bytes.elim (state.withParser parser) fun run =>
      (state.withParser parser).applyHostBytes run.value) =
        (bytes.elim state fun run => state.applyHostBytes run.value).withParser
          (parser.follow (bytes.elim [] fun run => run.value.map .byte)) := by
    cases bytes with
    | none => rfl
    | some run => exact with_parser_host_bytes state parser run.value
  have size : (bytes.elim state fun run => state.applyHostBytes run.value).viewport =
      state.viewport := by
    cases bytes with
    | none => rfl
    | some run => exact (apply_host_bytes_frame state run.value).1
  rw [written, ← size]
  generalize (bytes.elim state fun run => state.applyHostBytes run.value) = first
  generalize parser.follow (bytes.elim [] fun run => run.value.map .byte) = fed
  cases viewport with
  | none =>
      cases marker <;> cases control <;> rfl
  | some viewport =>
      have resized := with_parser_viewport first fed viewport
      simp only [Option.elim_some]
      rw [resized]
      cases first.applyViewport viewport with
      | error error => rfl
      | ok second => cases marker <;> cases control <;> rfl

theorem with_parser_instructions (instructions : List Instruction) :
    instructions.foldlM applyInstruction (state.withParser parser) =
      (instructions.foldlM applyInstruction state).map fun result =>
        result.withParser (parser.follow (addedStream state.viewport instructions)) := by
  induction instructions generalizing state parser with
  | nil => rfl
  | cons instruction rest induction =>
      rw [List.foldlM_cons, List.foldlM_cons, with_parser_instruction]
      cases step : state.applyInstruction instruction with
      | error error => rfl
      | ok next =>
          have viewport := (apply_instruction_spec step).2.1
          change rest.foldlM applyInstruction (next.withParser _) = _
          rw [induction, viewport]
          have added : addedStream state.viewport (instruction :: rest) =
              addedStream state.viewport [instruction] ++
                addedStream (viewportAfter state.viewport [instruction]) rest := by
            simp [addedStream, viewportAfter]
          rw [added, follow_append]
          rfl

/-- Apart from the length of a snapshot, a batch does not depend on the screen it is applied to. -/
theorem with_parser_apply (batch : InstructionBatch)
    (formatted : terminal.stateFormatted parser.screen = terminal.stateFormatted state.parser.screen) :
    (state.withParser parser).apply batch = (state.apply batch).map fun result =>
      result.withParser (parser.follow (addedStream state.viewport batch.instructions)) := by
  have prepared : (state.withParser parser).prepareHistory batch =
      (state.prepareHistory batch).map fun result => result.withParser parser := by
    have compacted : (state.withParser parser).compactedHistory batch = state.compactedHistory batch := by
      unfold compactedHistory
      simp only [withParser, formatted]
    have growth : (state.withParser parser).validateHistoryGrowth batch =
        state.validateHistoryGrowth batch := rfl
    rw [prepareHistory, prepareHistory, growth, compacted]
    cases state.validateHistoryGrowth batch with
    | ok room => rfl
    | error full => cases state.compactedHistory batch <;> rfl
  unfold apply
  rw [prepared]
  cases validateViewports batch with
  | error error => rfl
  | ok valid =>
      have echo : (state.withParser parser).echoAck = state.echoAck := rfl
      rw [echo]
      cases (batch.instructions.filterMap (·.marker)).foldlM validateEchoAck state.echoAck with
      | error error => rfl
      | ok last =>
          cases ready : state.prepareHistory batch with
          | error error => rfl
          | ok result =>
              have viewport : result.viewport = state.viewport := by
                rcases prepare_history_cases ready with ⟨_, same⟩ | ⟨_, _, compacted⟩
                · rw [same]
                · exact compacted.viewport
              have stepped := with_parser_instructions result parser batch.instructions
              rw [viewport] at stepped
              exact stepped

theorem apply_follows {result : RemoteTerminalState terminal} {batch : InstructionBatch}
    (applied : state.apply batch = .ok result) :
    result.parser = state.parser.follow (addedStream state.viewport batch.instructions) := by
  have own := with_parser_apply state state.parser batch rfl
  have same : state.withParser state.parser = state := rfl
  rw [same, applied] at own
  exact congrArg RemoteTerminalState.parser (Except.ok.inj own)

end WithParser

/-- What can be done with a state. A batch that is refused leaves it as it is. -/
inductive Operation where
  | apply (batch : InstructionBatch)
  | clone

def perform (state : RemoteTerminalState terminal) :
    Operation → Except StateError Unit × RemoteTerminalState terminal
  | .apply batch =>
      match state.apply batch with
      | .ok result => (.ok (), result)
      | .error error => (.error error, state)
  | .clone => (.ok (), state.clone)

/-- What is seen of a state to which batches are applied: the verdicts and the screens. -/
def observations (state : RemoteTerminalState terminal) (batches : List InstructionBatch) :
    List (Except StateError Unit × terminal.Visible) :=
  (trace perform state (batches.map .apply)).map fun event =>
    (event.output, event.after.parser.screen.1)

/-- The same screen now, and the same verdict and screen for every later batch. -/
def BehavesAs (first second : RemoteTerminalState terminal) : Prop :=
  first.parser.screen.1 = second.parser.screen.1 ∧
    ∀ batches, first.observations batches = second.observations batches

theorem parser_behaves_alike (lawful : LawfulSnapshots terminal) (state : RemoteTerminalState terminal)
    {parser : Parser terminal} (alike : Alike state.parser parser) :
    BehavesAs state (state.withParser parser) := by
  refine ⟨alike.visible, ?_⟩
  intro batches
  induction batches generalizing state parser with
  | nil => rfl
  | cons batch rest induction =>
      have formatted : terminal.stateFormatted parser.screen =
          terminal.stateFormatted state.parser.screen := by
        have same : parser.screen = (state.parser.screen.1, parser.screen.2) := by
          rw [alike.visible]
        rw [same]
        exact lawful.formatted_visible _ _ _
      have applied := with_parser_apply state parser batch formatted
      have split (start : RemoteTerminalState terminal) : start.observations (batch :: rest) =
          ((start.perform (.apply batch)).1, (start.perform (.apply batch)).2.parser.screen.1) ::
            (start.perform (.apply batch)).2.observations rest := rfl
      rw [split, split, perform, perform, applied]
      cases outcome : state.apply batch with
      | error error =>
          change (_, _) :: _ = (_, _) :: _
          rw [alike.visible, induction state alike]
          rfl
      | ok result =>
          have follows := apply_follows state outcome
          have still : Alike result.parser
              (parser.follow (addedStream state.viewport batch.instructions)) := by
            rw [follows]
            exact alike.follow _
          change (_, _) :: _ = (_, _) :: _
          rw [still.visible, induction result still]
          rfl

/-- The batch is applied behind a snapshot. -/
def Compacts (state : RemoteTerminalState terminal) (batch : InstructionBatch) : Prop :=
  state.validateHistoryGrowth batch ≠ .ok () ∧ ∃ result, state.apply batch = .ok result

/-- No input that begins with the batch tells the hidden part of the screen from the hidden part of
a blank screen of the same size. -/
def HiddenBlank (state : RemoteTerminalState terminal) (batch : InstructionBatch) : Prop :=
  Alike
    (Parser.follow ⟨terminal.parserStart, state.parser.screen⟩
      (addedStream state.viewport batch.instructions))
    (Parser.follow ⟨terminal.parserStart, (state.parser.screen.1,
        (terminal.blank (terminal.size state.parser.screen.1).1
          (terminal.size state.parser.screen.1).2).2)⟩
      (addedStream state.viewport batch.instructions))

/-- A compaction whose screen has the hidden part of a blank one. -/
def LosesNothing (state : RemoteTerminalState terminal) : Operation → Prop
  | .apply batch => state.Compacts batch → state.parser.screen.2 =
      (terminal.blank (terminal.size state.parser.screen.1).1
        (terminal.size state.parser.screen.1).2).2
  | .clone => True

/-- A compaction that no input shows. -/
def Harmless (state : RemoteTerminalState terminal) : Operation → Prop
  | .apply batch => state.Compacts batch → state.HiddenBlank batch
  | .clone => True

theorem apply_all_initial {state result : RemoteTerminalState terminal}
    {instructions : List Instruction}
    (applied : instructions.foldlM applyInstruction state = .ok result) :
    result.initialColumns = state.initialColumns ∧ result.initialRows = state.initialRows := by
  apply apply_all_preserves (fun later => later.initialColumns = state.initialColumns ∧
    later.initialRows = state.initialRows) _ ⟨rfl, rfl⟩ applied
  intro before instruction after same step
  obtain ⟨bytes, viewport, marker, control⟩ := instruction
  simp only [applyInstruction, bind, Except.bind] at step
  have written : (bytes.elim before fun run => before.applyHostBytes run.value).initialColumns =
        before.initialColumns ∧
      (bytes.elim before fun run => before.applyHostBytes run.value).initialRows =
        before.initialRows := by
    cases bytes with
    | none => exact ⟨rfl, rfl⟩
    | some run =>
        simp only [Option.elim_some, applyHostBytes]
        split_ifs <;> exact ⟨rfl, rfl⟩
  split at step
  · cases step
  · rename_i second resized
    have kept : second.initialColumns = before.initialColumns ∧
        second.initialRows = before.initialRows := by
      cases viewport with
      | none => exact Except.ok.inj resized ▸ written
      | some viewport =>
          obtain ⟨columns, rows, _, moved⟩ := apply_viewport_cases resized
          rw [moved]
          rcases apply_resize_cases
            (bytes.elim before fun run => before.applyHostBytes run.value) columns rows with
            ⟨_, unchanged⟩ | ⟨_, changed⟩
          · rw [unchanged]
            exact written
          · rw [changed]
            exact written
    rw [← Except.ok.inj step]
    have recorded : ((second.recordMarker marker).recordSessionControl control).initialColumns =
          second.initialColumns ∧
        ((second.recordMarker marker).recordSessionControl control).initialRows =
          second.initialRows := by
      cases marker <;> cases control <;> exact ⟨rfl, rfl⟩
    exact ⟨recorded.1.trans (kept.1.trans same.1), recorded.2.trans (kept.2.trans same.2)⟩

/-- The parser that the retained history leads to from the recorded viewport. -/
def replayed (state : RemoteTerminalState terminal) : Parser terminal :=
  (Parser.new state.initialRows state.initialColumns).follow state.history.stream

theorem clone_replayed (state : RemoteTerminalState terminal) :
    state.clone.parser = state.clone.replayed := by
  rw [clone_follows]
  rfl

theorem new_replayed {columns rows : UInt16} {start : RemoteTerminalState terminal}
    (created : new columns rows = .ok start) : start.parser = start.replayed := by
  rw [new_eq created]
  rfl

section Step

variable {state result : RemoteTerminalState terminal} {batch : InstructionBatch}

/-- A batch with room goes to the live parser and to the replay alike. -/
theorem replayed_growth (room : state.validateHistoryGrowth batch = .ok ())
    (applied : state.apply batch = .ok result) :
    result.replayed = state.replayed.follow (addedStream state.viewport batch.instructions) := by
  obtain ⟨prepared, ready, stepped⟩ := apply_steps applied
  rcases prepare_history_cases ready with ⟨_, same⟩ | ⟨full, _⟩
  · rw [same] at stepped
    obtain ⟨columns, rows⟩ := apply_all_initial stepped
    rw [replayed, columns, rows, (apply_all_spec stepped).1, follow_append]
    rfl
  · exact absurd room full

theorem replayed_compaction (lawful : LawfulSnapshots terminal) (formed : WellFormed state)
    (sized : Sized state) (full : state.validateHistoryGrowth batch ≠ .ok ())
    (applied : state.apply batch = .ok result) :
    state.parser.state = terminal.parserStart ∧
      result.replayed = Parser.follow ⟨terminal.parserStart, (state.parser.screen.1,
          (terminal.blank (terminal.size state.parser.screen.1).1
            (terminal.size state.parser.screen.1).2).2)⟩
        (addedStream state.viewport batch.instructions) := by
  obtain ⟨prepared, ready, stepped⟩ := apply_steps applied
  rcases prepare_history_cases ready with ⟨room, _⟩ | ⟨_, ground, compacted⟩
  · exact absurd room full
  · rw [history_ends_at_ground_iff lawful.toLawfulParser, canonical_stream] at ground
    refine ⟨formed.replayed.trans ground, ?_⟩
    obtain ⟨columns, rows⟩ := apply_all_initial stepped
    have size : terminal.size state.parser.screen.1 =
        (prepared.initialRows, prepared.initialColumns) := by
      have viewports := sized.screen.trans compacted.initial.symm
      obtain ⟨sameColumns, sameRows⟩ := viewport_of_eq_iff.mp viewports
      exact Prod.ext sameRows sameColumns
    rw [replayed, columns, rows, (apply_all_spec stepped).1, compacts_to_stream compacted,
      compacted.viewport, follow_append, follow_bytes, lawful.formatted_restores _ _ _ size, size]

theorem reachable_step (reachable : Reachable state) (operation : Operation) :
    Reachable (state.perform operation).2 := by
  cases operation with
  | clone => exact .clone reachable
  | apply batch =>
      unfold perform
      dsimp only
      cases applied : state.apply batch with
      | error error => exact reachable
      | ok result => exact .apply reachable applied

theorem alike_step (lawful : LawfulSnapshots terminal) (formed : WellFormed state) (sized : Sized state)
    (alike : Alike state.parser state.replayed) {operation : Operation}
    (harmless : state.Harmless operation) :
    Alike (state.perform operation).2.parser (state.perform operation).2.replayed := by
  cases operation with
  | clone => exact clone_replayed state ▸ Alike.refl _
  | apply batch =>
      unfold perform
      dsimp only
      cases applied : state.apply batch with
      | error error => exact alike
      | ok result =>
          have follows := apply_follows state applied
          change Alike result.parser result.replayed
          by_cases room : state.validateHistoryGrowth batch = .ok ()
          · rw [follows, replayed_growth room applied]
            exact alike.follow _
          · obtain ⟨ground, blank⟩ := replayed_compaction lawful formed sized room applied
            have live : state.parser = ⟨terminal.parserStart, state.parser.screen⟩ := by
              rw [← ground]
            rw [follows, blank, live]
            exact harmless ⟨room, result, applied⟩

/-- A step that loses nothing keeps the live parser on the replay. -/
theorem replayed_step (lawful : LawfulSnapshots terminal) (formed : WellFormed state)
    (sized : Sized state) (live : state.parser = state.replayed) {operation : Operation}
    (keeps : state.LosesNothing operation) :
    (state.perform operation).2.parser = (state.perform operation).2.replayed := by
  cases operation with
  | clone => exact clone_replayed state
  | apply batch =>
      unfold perform
      dsimp only
      cases applied : state.apply batch with
      | error error => exact live
      | ok result =>
          change result.parser = result.replayed
          rw [apply_follows state applied]
          by_cases room : state.validateHistoryGrowth batch = .ok ()
          · rw [replayed_growth room applied, live]
          · obtain ⟨ground, blank⟩ := replayed_compaction lawful formed sized room applied
            rw [blank, ← keeps ⟨room, result, applied⟩, ← ground]

end Step

section Run

variable {columns rows : UInt16} {start : RemoteTerminalState terminal}

theorem run_alike (lawful : LawfulSnapshots terminal) (created : new columns rows = .ok start)
    {operations : List Operation}
    (harmless : ∀ event ∈ trace perform start operations, event.before.Harmless event.input) :
    Alike (final perform start operations).parser (final perform start operations).replayed := by
  have start_alike : Alike start.parser start.replayed := new_replayed created ▸ Alike.refl _
  apply And.right (invariant_final_when perform
    (fun state => Reachable state ∧ Alike state.parser state.replayed) _ _
    ⟨.new created, start_alike⟩ harmless)
  intro state operation holds here
  obtain ⟨reachable, alike⟩ := holds
  obtain ⟨formed, sized⟩ := reachable_formed lawful.toLawfulTerminal reachable
  exact ⟨reachable_step reachable operation, alike_step lawful formed sized alike here⟩

/-- When every compaction of a run is harmless, the clone behaves like the original. -/
theorem clone_behaves (lawful : LawfulSnapshots terminal) (created : new columns rows = .ok start)
    (operations : List Operation)
    (harmless : ∀ event ∈ trace perform start operations, event.before.Harmless event.input) :
    BehavesAs (final perform start operations) (final perform start operations).clone := by
  rw [clone_follows]
  exact parser_behaves_alike lawful _ (run_alike lawful created harmless)

/-- When no compaction of a run loses a hidden part, the clone is the original. -/
theorem clone_exact (lawful : LawfulSnapshots terminal) (created : new columns rows = .ok start)
    (operations : List Operation)
    (keeps : ∀ event ∈ trace perform start operations, event.before.LosesNothing event.input) :
    (final perform start operations).clone = final perform start operations := by
  have live : (final perform start operations).parser = (final perform start operations).replayed := by
    apply And.right (invariant_final_when perform
      (fun state => Reachable state ∧ state.parser = state.replayed) _ _
      ⟨.new created, new_replayed created⟩ keeps)
    intro state operation holds here
    obtain ⟨reachable, live⟩ := holds
    obtain ⟨formed, sized⟩ := reachable_formed lawful.toLawfulTerminal reachable
    exact ⟨reachable_step reachable operation, replayed_step lawful formed sized live here⟩
  rw [clone_follows]
  exact congrArg (withParser _) live.symm

/-- No batch of the run is applied behind a snapshot. -/
def Uncompacted (start : RemoteTerminalState terminal) (operations : List Operation) : Prop :=
  ∀ event ∈ trace perform start operations, ∀ batch, event.input = .apply batch →
    ¬ event.before.Compacts batch

/-- What batches with room and clones preserve, a run without compactions preserves. -/
theorem uncompacted_final (invariant : RemoteTerminalState terminal → Prop)
    (applies : ∀ state batch result, invariant state → state.validateHistoryGrowth batch = .ok () →
      state.apply batch = .ok result → invariant result)
    (clones : ∀ state, invariant state → invariant state.clone) (holds : invariant start)
    {operations : List Operation} (uncompacted : Uncompacted start operations) :
    invariant (final perform start operations) := by
  apply invariant_final_when perform invariant _ _ holds uncompacted
  intro state operation earlier here
  cases operation with
  | clone => exact clones state earlier
  | apply batch =>
      unfold perform
      dsimp only
      cases applied : state.apply batch with
      | error error => exact earlier
      | ok result =>
          have room : state.validateHistoryGrowth batch = .ok () :=
            not_not.mp fun full => here batch rfl ⟨full, result, applied⟩
          exact applies state batch result earlier room applied

end Run

/-- A four-cell line that is written to, filled up with controls and written to again. -/
def fillingRun (bytes : Bytes) (number : Nat) : List Operation :=
  [.apply ⟨[hostBytesInstruction bytes]⟩,
    .apply ⟨List.replicate number (sessionControlInstruction emptyControl)⟩,
    .apply ⟨[hostBytesInstruction [0x62]]⟩]

def filledLine (bytes : Bytes) (number : Nat) : RemoteTerminalState lineTerminal :=
  (lineAfter bytes).withControls emptyControl number

def compactedLine (bytes : Bytes) : RemoteTerminalState lineTerminal :=
  applyHostBytes
    { lineAfter bytes with
      history := snapshotHistory (lineAfter bytes).parser.screen.1.formatted
      initialColumns := 4
      initialRows := 1 } [0x62]

theorem filling_run_trace {bytes : Bytes} {number : Nat} (fills : 1 + number = MAX_RETAINED_OPERATIONS)
    (written : blankLine.apply ⟨[hostBytesInstruction bytes]⟩ = .ok (lineAfter bytes))
    (counted : (lineAfter bytes).history.operationCount = 1)
    (retained : (lineAfter bytes).history.retainedBytes ≤ MAX_RETAINED_HOST_BYTES)
    (ground : lineTerminal.parserAfter (lineAfter bytes).history.stream = lineTerminal.parserStart)
    (small : (lineAfter bytes).parser.screen.1.formatted.length < MAX_RETAINED_HOST_BYTES) :
    (filledLine bytes number).Compacts ⟨[hostBytesInstruction [0x62]]⟩ ∧
      (trace perform blankLine (fillingRun bytes number)).map Step.before =
        [blankLine, lineAfter bytes, filledLine bytes number] ∧
      final perform blankLine (fillingRun bytes number) = compactedLine bytes := by
  have filled : (lineAfter bytes).apply ⟨List.replicate number
      (sessionControlInstruction emptyControl)⟩ = .ok (filledLine bytes number) := by
    apply apply_control_batch _ _ _ retained
    rw [counted, fills]
  have atGround : historyEndsAtGround lineTerminal
      (filledLine bytes number).history.canonicalOperations = true := by
    rw [history_ends_at_ground_iff lawful_line_terminal.toLawfulParser, canonical_stream,
      Terminal.parserAfter, filledLine, with_controls_bytes]
    exact ground
  have full : (filledLine bytes number).history.operationCount = MAX_RETAINED_OPERATIONS := by
    change (lineAfter bytes).history.operationCount + number = _
    rw [counted, fills]
  have size : (filledLine bytes number).viewport = viewportOf 4 1 :=
    (apply_host_bytes_frame blankLine bytes).1
  have compacted : (filledLine bytes number).apply ⟨[hostBytesInstruction [0x62]]⟩ =
      .ok (compactedLine bytes) := apply_byte_compacted size full atGround small 0x62
  have first : blankLine.perform (.apply ⟨[hostBytesInstruction bytes]⟩) = (.ok (), lineAfter bytes) := by
    rw [perform, written]
  have second : (lineAfter bytes).perform (.apply ⟨List.replicate number
      (sessionControlInstruction emptyControl)⟩) = (.ok (), filledLine bytes number) := by
    rw [perform, filled]
  have third : (filledLine bytes number).perform (.apply ⟨[hostBytesInstruction [0x62]]⟩) =
      (.ok (), compactedLine bytes) := by
    rw [perform, compacted]
  refine ⟨⟨no_room_for_byte full 0x62, _, compacted⟩, ?_, ?_⟩
  · simp only [fillingRun, trace, stepAt, first, second, List.map_cons, List.map_nil]
  · simp only [fillingRun, final_cons, final_nil, first, second, third]

/-- A plain line is compacted without a loss. -/
theorem plain_clone_behaves : ∃ number,
    (∃ event ∈ trace perform blankLine (fillingRun [0x61] number), ∃ batch,
      event.before.Compacts batch) ∧
    BehavesAs (final perform blankLine (fillingRun [0x61] number))
      (final perform blankLine (fillingRun [0x61] number)).clone := by
  obtain ⟨number, fills⟩ : ∃ number, 1 + number = MAX_RETAINED_OPERATIONS := ⟨65535, rfl⟩
  obtain ⟨compacts, states, _⟩ := @filling_run_trace [0x61] number fills rfl rfl (by decide) rfl
    (by decide)
  refine ⟨number, ?_, ?_⟩
  · have last : filledLine [0x61] number ∈
        (trace perform blankLine (fillingRun [0x61] number)).map Step.before := by
      rw [states]
      simp
    obtain ⟨event, member, same⟩ := List.mem_map.mp last
    exact ⟨event, member, _, same ▸ compacts⟩
  · have created : new 4 1 = .ok blankLine := rfl
    apply clone_behaves lawful_line_snapshots created
    intro event member
    have blank : event.before.parser.screen.2 = (lineTerminal.blank 1 4).2 := by
      have listed : event.before ∈
          (trace perform blankLine (fillingRun [0x61] number)).map Step.before :=
        List.mem_map_of_mem member
      rw [states] at listed
      simp only [List.mem_cons, List.not_mem_nil, or_false] at listed
      rcases listed with same | same | same
      · rw [same]
        rfl
      · rw [same]
        rfl
      · rw [same]
        rfl
    cases event.input with
    | clone => trivial
    | apply batch =>
        intro _
        unfold HiddenBlank
        have same : event.before.parser.screen =
            (event.before.parser.screen.1, (lineTerminal.blank 1 4).2) := by
          rw [← blank]
        rw [same]
        exact Alike.refl _

/-- The clone of a compacted line has lost the saved cursor. -/
theorem saved_cursor_not_cloned :
    ¬ ∀ operations : List Operation,
      BehavesAs (final perform blankLine operations) (final perform blankLine operations).clone := by
  obtain ⟨number, fills⟩ : ∃ number, 1 + number = MAX_RETAINED_OPERATIONS := ⟨65535, rfl⟩
  obtain ⟨_, _, reached⟩ := @filling_run_trace [0x61, 0x1b, 0x37] number fills rfl rfl (by decide) rfl
    (by decide)
  intro behaves
  have same := (behaves (fillingRun [0x61, 0x1b, 0x37] number)).2 [⟨[hostBytesInstruction [0x1b, 0x38]]⟩]
  rw [reached] at same
  have cursors := congrArg (List.map fun seen => LineView.cursor seen.2) same
  exact absurd cursors (by decide +kernel)

end RemoteTerminalState

end FerrumTty.State
