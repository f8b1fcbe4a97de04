import FerrumTty.State.RemoteTerminalState

/-!
# What applying and comparing states does

`apply` appends to the history's stream, or replaces the history by a snapshot first;
`diff_from` succeeds exactly when the delivered stream is a prefix or a screen diff is
allowed. The parser of a reachable state is where its history leaves a fresh one.
-/

namespace FerrumTty.State

set_option autoImplicit false

open Crypto Wire

variable {terminal : Terminal}

/-- What the audit and the snapshots rely on: the printable probe is passed through at
ground only, and a formatted screen leaves the parser at ground. -/
structure LawfulParser (terminal : Terminal) : Prop where
  probe_ground : ∀ state, (terminal.advance state 0x7e).2 = [.print '~'] ↔
    state = terminal.parserStart
  formatted_ground : ∀ screen,
    (terminal.advanceAll terminal.parserStart (terminal.stateFormatted screen)).1 =
      terminal.parserStart

/-- What a screen diff relies on besides the parser: screens have the size they were given,
and the diff of two screens of one size carries the visible part over and nothing else. -/
structure LawfulTerminal (terminal : Terminal) : Prop extends LawfulParser terminal where
  blank_size : ∀ rows columns, terminal.size (terminal.blank rows columns).1 = (rows, columns)
  perform_size : ∀ screen callback,
    terminal.size (terminal.perform screen callback).1 = terminal.size screen.1
  resized : ∀ screen rows columns,
    terminal.size (terminal.setSize screen rows columns).1 = (rows, columns)
  state_diff : ∀ target previous host : terminal.Screen,
    terminal.size target.1 = terminal.size previous.1 → host.1 = previous.1 →
      (Parser.mk terminal.parserStart host).process (terminal.stateDiff target previous) =
        ⟨terminal.parserStart, (target.1, host.2)⟩

def StreamItem.byte? : StreamItem → Option UInt8
  | .byte value => some value
  | _ => none

def streamBytes (stream : List StreamItem) : Bytes := stream.filterMap StreamItem.byte?

def Terminal.parserAfter (terminal : Terminal) (stream : List StreamItem) : terminal.ParserState :=
  (terminal.advanceAll terminal.parserStart (streamBytes stream)).1

@[simp] theorem stream_bytes_append (first second : List StreamItem) :
    streamBytes (first ++ second) = streamBytes first ++ streamBytes second := by
  simp [streamBytes]

@[simp] theorem stream_bytes_map (bytes : Bytes) :
    streamBytes (bytes.map StreamItem.byte) = bytes := by
  induction bytes with
  | nil => rfl
  | cons value bytes induction =>
      simp only [List.map_cons, streamBytes, List.filterMap_cons, StreamItem.byte?] at induction ⊢
      rw [induction]

theorem advance_all_append (state : terminal.ParserState) (first second : Bytes) :
    terminal.advanceAll state (first ++ second) =
      ((terminal.advanceAll (terminal.advanceAll state first).1 second).1,
        (terminal.advanceAll state first).2 ++
          (terminal.advanceAll (terminal.advanceAll state first).1 second).2) := by
  induction first generalizing state with
  | nil => rfl
  | cons byte first induction =>
      simp only [List.cons_append, Terminal.advanceAll, induction, List.append_assoc]

theorem process_append (parser : Parser terminal) (first second : Bytes) :
    parser.process (first ++ second) = (parser.process first).process second := by
  simp only [Parser.process, advance_all_append, List.foldl_append]

theorem parser_after_append (first second : List StreamItem) :
    terminal.parserAfter (first ++ second) =
      (terminal.advanceAll (terminal.parserAfter first) (streamBytes second)).1 := by
  simp only [Terminal.parserAfter, stream_bytes_append, advance_all_append]

theorem audited_fold_state (operations : List StateOperation) (parser : AuditedParser terminal) :
    (operations.foldl AuditedParser.advanceHostBytes parser).state =
      (terminal.advanceAll parser.state (streamBytes (streamOf operations))).1 := by
  induction operations generalizing parser with
  | nil => rfl
  | cons operation rest induction =>
      rw [List.foldl_cons, induction, stream_of_cons, stream_bytes_append, advance_all_append]
      cases operation with
      | hostBytes bytes => simp [AuditedParser.advanceHostBytes, AuditedParser.advance,
          StateOperation.stream]
      | resize columns rows => rfl
      | sessionControl control => rfl

theorem perform_probing (audit : ScreenDiffAudit) (probing : audit.probing = true)
    (callback : Callback) :
    (audit.perform callback).probing = true ∧
      (audit.perform callback).probePrints =
        audit.probePrints + (if callback = .print '~' then 1 else 0) ∧
      (audit.perform callback).probeOtherActions =
        audit.probeOtherActions + (if callback = .print '~' then 0 else 1) := by
  cases callback with
  | print character =>
      by_cases tilde : character = '~' <;> simp [ScreenDiffAudit.perform, probing, tilde]
  | execute byte => simp [ScreenDiffAudit.perform, probing]
  | hook params intermediates ignored action =>
      simp [ScreenDiffAudit.perform, ScreenDiffAudit.recordOtherAction, probing]
  | put byte => simp [ScreenDiffAudit.perform, ScreenDiffAudit.recordOtherAction, probing]
  | unhook => simp [ScreenDiffAudit.perform, ScreenDiffAudit.recordOtherAction, probing]
  | oscDispatch params bellTerminated =>
      simp [ScreenDiffAudit.perform, ScreenDiffAudit.recordOtherAction, probing]
  | csiDispatch params intermediates ignored action =>
      simp [ScreenDiffAudit.perform, ScreenDiffAudit.recordOtherAction, probing]
  | escDispatch intermediates ignored byte =>
      simp [ScreenDiffAudit.perform, ScreenDiffAudit.recordOtherAction, probing]

theorem perform_all_probing (callbacks : List Callback) (audit : ScreenDiffAudit)
    (probing : audit.probing = true) :
    (callbacks.foldl ScreenDiffAudit.perform audit).probePrints =
        audit.probePrints + callbacks.count (.print '~') ∧
      (callbacks.foldl ScreenDiffAudit.perform audit).probeOtherActions +
          callbacks.count (.print '~') = audit.probeOtherActions + callbacks.length := by
  induction callbacks generalizing audit with
  | nil => simp
  | cons callback rest induction =>
      obtain ⟨still, prints, others⟩ := perform_probing audit probing callback
      obtain ⟨restPrints, restOthers⟩ := induction (audit.perform callback) still
      rw [List.foldl_cons]
      by_cases tilde : callback = .print '~'
      · simp only [tilde, if_true, List.count_cons_self, List.length_cons] at *
        omega
      · simp only [tilde, if_false, List.count_cons_of_ne tilde, List.length_cons] at *
        omega

/-- The probe is passed unchanged exactly when the parser stands at ground. -/
theorem probe_iff (lawful : LawfulParser terminal) (parser : AuditedParser terminal) :
    parser.probe = true ↔ parser.state = terminal.parserStart := by
  rw [← lawful.probe_ground]
  have counted := perform_all_probing (terminal.advance parser.state 0x7e).2
    parser.audit.beginBoundaryProbe rfl
  have single : (terminal.advanceAll parser.state [0x7e]).2 = (terminal.advance parser.state 0x7e).2 := by
    simp [Terminal.advanceAll]
  simp only [AuditedParser.probe, AuditedParser.advance, single, ScreenDiffAudit.probeIsGround,
    decide_eq_true_eq]
  generalize (terminal.advance parser.state 0x7e).2 = callbacks at counted
  simp only [ScreenDiffAudit.beginBoundaryProbe, Nat.zero_add] at counted ⊢
  obtain ⟨prints, others⟩ := counted
  rw [prints]
  constructor
  · intro ground
    have length : callbacks.length = 1 := by omega
    obtain ⟨callback, shape⟩ := List.length_eq_one_iff.mp length
    rw [shape] at ground ⊢
    have tilde : callback = .print '~' := by
      by_contra other
      rw [List.count_cons_of_ne other] at ground
      simp at ground
    rw [tilde]
  · intro shape
    subst shape
    simp at others ⊢
    exact others

theorem history_ends_at_ground_iff (lawful : LawfulParser terminal) (operations : List StateOperation) :
    historyEndsAtGround terminal operations = true ↔
      terminal.parserAfter (streamOf operations) = terminal.parserStart := by
  rw [historyEndsAtGround, probe_iff lawful, audited_fold_state]
  rfl

def HasResize (stream : List StreamItem) : Prop := ∃ size, .viewport size ∈ stream

theorem any_resize_iff (operations : List StateOperation) :
    operations.any StateOperation.isResize = true ↔ HasResize (streamOf operations) := by
  induction operations with
  | nil => simp [HasResize]
  | cons operation rest induction =>
      have split : HasResize (streamOf (operation :: rest)) ↔
          HasResize operation.stream ∨ HasResize (streamOf rest) := by
        simp [HasResize, exists_or]
      rw [List.any_cons, Bool.or_eq_true, induction, split]
      cases operation <;> simp [HasResize, StateOperation.stream, StateOperation.isResize]

theorem tail_is_screen_diff_safe_iff (lawful : LawfulParser terminal)
    (common tail : List StateOperation) :
    historyTailIsScreenDiffSafe terminal common tail = true ↔
      ¬ HasResize (streamOf tail) ∧
        terminal.parserAfter (streamOf common ++ streamOf tail) = terminal.parserStart := by
  rw [historyTailIsScreenDiffSafe, ← any_resize_iff]
  by_cases resized : tail.any StateOperation.isResize = true
  · simp [resized]
  · rw [if_neg resized, probe_iff lawful, audited_fold_state, audited_fold_state,
      parser_after_append]
    simp [resized, Terminal.parserAfter, AuditedParser.new]

theorem diverged_screen_diff_safe_iff (lawful : LawfulParser terminal)
    (target delivered : List StateOperation) (targetCanonical : Canonical target)
    (deliveredCanonical : Canonical delivered) :
    divergedHistoriesAreScreenDiffSafe terminal target delivered = true ↔
      (¬ HasResize (beyondCommon (streamOf target) (streamOf delivered)) ∧
        ¬ HasResize (beyondCommon (streamOf delivered) (streamOf target))) ∧
      terminal.parserAfter (streamOf target) = terminal.parserStart ∧
        terminal.parserAfter (streamOf delivered) = terminal.parserStart := by
  obtain ⟨targetSplit, deliveredSplit⟩ := split_common_history_stream target delivered
  have targetTail := split_common_target target delivered targetCanonical deliveredCanonical
  have deliveredTail := split_common_delivered target delivered targetCanonical deliveredCanonical
  rw [targetTail] at targetSplit
  rw [deliveredTail] at deliveredSplit
  simp only [divergedHistoriesAreScreenDiffSafe, Bool.and_eq_true,
    tail_is_screen_diff_safe_iff lawful, targetTail, deliveredTail]
  rw [← targetSplit, ← deliveredSplit]
  tauto

/-- What is known of a state that was built by the operations of this crate. -/
structure WellFormed (state : RemoteTerminalState terminal) : Prop where
  filled : .hostBytes [] ∉ state.history.tail
  dimensions : ∃ columns rows, state.viewport = viewportOf columns rows
  replayed : state.parser.state = terminal.parserAfter state.history.stream

/-- The resize that an instruction's viewport amounts to: none when nothing changes. -/
def resizeStream (viewport : ViewportSize) : Option ViewportSize → List StreamItem
  | some next => if viewport = next then [] else [.viewport next]
  | none => []

def addedStream (viewport : ViewportSize) : List Instruction → List StreamItem
  | [] => []
  | instruction :: rest =>
      (instruction.bytes.elim [] fun run => run.value.map .byte) ++
        resizeStream viewport instruction.viewport ++
        (instruction.sessionControl.elim [] fun control => [.control control]) ++
        addedStream (instruction.viewport.getD viewport) rest

def viewportAfter (viewport : ViewportSize) (instructions : List Instruction) : ViewportSize :=
  instructions.foldl (fun viewport instruction => instruction.viewport.getD viewport) viewport

def echoAfter (echoAck : Option UInt64) (instructions : List Instruction) : Option UInt64 :=
  instructions.foldl (fun echoAck instruction =>
    (instruction.marker.map Marker.value).or echoAck) echoAck

def lastViewport (initial : ViewportSize) (stream : List StreamItem) : ViewportSize :=
  stream.foldl (fun viewport item =>
    match item with
    | .viewport size => size
    | _ => viewport) initial

theorem last_viewport_append (initial : ViewportSize) (first second : List StreamItem) :
    lastViewport initial (first ++ second) = lastViewport (lastViewport initial first) second := by
  simp [lastViewport]

theorem last_viewport_bytes (initial : ViewportSize) (bytes : Bytes) :
    lastViewport initial (bytes.map .byte) = initial := by
  induction bytes with
  | nil => rfl
  | cons value bytes induction => exact induction

theorem last_viewport_resize (viewport : ViewportSize) (next : Option ViewportSize) :
    lastViewport viewport (resizeStream viewport next) = next.getD viewport := by
  cases next with
  | none => rfl
  | some next =>
      rw [resizeStream]
      split_ifs with unchanged
      · exact unchanged
      · rfl

theorem last_viewport_added (viewport : ViewportSize) (instructions : List Instruction) :
    lastViewport viewport (addedStream viewport instructions) = viewportAfter viewport instructions := by
  induction instructions generalizing viewport with
  | nil => rfl
  | cons instruction rest induction =>
      obtain ⟨bytes, next, marker, control⟩ := instruction
      have written : lastViewport viewport (bytes.elim [] fun run => run.value.map .byte) = viewport := by
        cases bytes with
        | none => rfl
        | some run => exact last_viewport_bytes viewport run.value
      have controlled (size : ViewportSize) :
          lastViewport size (control.elim [] fun control => [.control control]) = size := by
        cases control <;> rfl
      rw [addedStream, last_viewport_append, last_viewport_append, last_viewport_append, written,
        last_viewport_resize, controlled, induction]
      rfl

theorem narrow_eq_some {value : UInt64} {narrowed : UInt16} (fits : narrow value = some narrowed) :
    narrowed.toUInt64 = value := by
  unfold narrow at fits
  split_ifs at fits with low
  · have same := Option.some.inj fits
    apply UInt64.toNat.inj
    rw [← same, UInt16.toNat_toUInt64, UInt64.toNat_toUInt16]
    exact Nat.mod_eq_of_lt low

theorem narrow_viewport {viewport : ViewportSize} {columns rows : UInt16}
    (fitsColumns : narrow viewport.columns = some columns)
    (fitsRows : narrow viewport.rows = some rows) : viewport = viewportOf columns rows := by
  rw [viewportOf, narrow_eq_some fitsColumns, narrow_eq_some fitsRows]

namespace RemoteTerminalState

theorem apply_host_bytes_stream (state : RemoteTerminalState terminal) (bytes : Bytes) :
    (state.applyHostBytes bytes).history.stream = state.history.stream ++ bytes.map .byte := by
  cases bytes with
  | nil => simp [applyHostBytes]
  | cons value bytes =>
      simp only [applyHostBytes, List.isEmpty_cons, Bool.false_eq_true, if_false]
      exact stream_push _ _

theorem apply_host_bytes_frame (state : RemoteTerminalState terminal) (bytes : Bytes) :
    (state.applyHostBytes bytes).viewport = state.viewport ∧
      (state.applyHostBytes bytes).echoAck = state.echoAck ∧
      (state.applyHostBytes bytes).parser = state.parser.process bytes := by
  cases bytes <;> exact ⟨rfl, rfl, rfl⟩

theorem apply_host_bytes_formed {state : RemoteTerminalState terminal} (formed : WellFormed state)
    (bytes : Bytes) : WellFormed (state.applyHostBytes bytes) := by
  obtain ⟨viewport, _, parser⟩ := apply_host_bytes_frame state bytes
  constructor
  · cases bytes with
    | nil => exact formed.filled
    | cons value bytes =>
        intro member
        rcases List.mem_cons.mp member with here | earlier
        · cases here
        · exact formed.filled earlier
  · rw [viewport]
    exact formed.dimensions
  · rw [parser, apply_host_bytes_stream, parser_after_append, ← formed.replayed, stream_bytes_map]
    rfl

theorem apply_viewport_cases {state result : RemoteTerminalState terminal} {viewport : ViewportSize}
    (applied : state.applyViewport viewport = .ok result) :
    ∃ columns rows, viewport = viewportOf columns rows ∧ result = state.applyResize columns rows := by
  unfold applyViewport at applied
  split at applied
  · rename_i columns rows fitsColumns fitsRows
    exact ⟨columns, rows, narrow_viewport fitsColumns fitsRows, (Except.ok.inj applied).symm⟩
  · cases applied

theorem apply_resize_cases (state : RemoteTerminalState terminal) (columns rows : UInt16) :
    state.viewport = viewportOf columns rows ∧ state.applyResize columns rows = state ∨
      state.viewport ≠ viewportOf columns rows ∧ state.applyResize columns rows =
        { state with
          parser := state.parser.setSize rows columns
          viewport := viewportOf columns rows
          history := state.history.push (.resize columns rows) } := by
  have same : state.viewport = viewportOf columns rows ↔
      state.viewport.columns = columns.toUInt64 ∧ state.viewport.rows = rows.toUInt64 := by
    cases state.viewport
    simp [viewportOf]
  unfold applyResize
  by_cases unchanged : state.viewport = viewportOf columns rows
  · exact Or.inl ⟨unchanged, if_pos (same.mp unchanged)⟩
  · exact Or.inr ⟨unchanged, if_neg (fun equal => unchanged (same.mpr equal))⟩

theorem apply_viewport_spec {state result : RemoteTerminalState terminal} {viewport : ViewportSize}
    (applied : state.applyViewport viewport = .ok result) :
    result.history.stream = state.history.stream ++ resizeStream state.viewport (some viewport) ∧
      result.viewport = viewport ∧ result.echoAck = state.echoAck ∧
      (WellFormed state → WellFormed result) := by
  obtain ⟨columns, rows, rfl, rfl⟩ := apply_viewport_cases applied
  rcases apply_resize_cases state columns rows with ⟨unchanged, same⟩ | ⟨changed, resized⟩
  · rw [same, resizeStream, if_pos unchanged]
    simp [unchanged]
  · rw [resized, resizeStream, if_neg changed]
    refine ⟨stream_push _ _, rfl, rfl, fun formed => ⟨?_, ⟨columns, rows, rfl⟩, ?_⟩⟩
    · intro member
      rcases List.mem_cons.mp member with here | earlier
      · cases here
      · exact formed.filled earlier
    · rw [stream_push, parser_after_append, ← formed.replayed]
      rfl

theorem record_marker_spec (state : RemoteTerminalState terminal) (marker : Option Marker) :
    (state.recordMarker marker).history = state.history ∧
      (state.recordMarker marker).viewport = state.viewport ∧
      (state.recordMarker marker).echoAck = (marker.map Marker.value).or state.echoAck ∧
      (WellFormed state → WellFormed (state.recordMarker marker)) := by
  cases marker with
  | none => simp [recordMarker]
  | some marker =>
      exact ⟨rfl, rfl, rfl, fun formed => ⟨formed.filled, formed.dimensions, formed.replayed⟩⟩

theorem record_session_control_spec (state : RemoteTerminalState terminal)
    (control : Option SessionControl) :
    (state.recordSessionControl control).history.stream =
        state.history.stream ++ (control.elim [] fun control => [.control control]) ∧
      (state.recordSessionControl control).viewport = state.viewport ∧
      (state.recordSessionControl control).echoAck = state.echoAck ∧
      (WellFormed state → WellFormed (state.recordSessionControl control)) := by
  cases control with
  | none => simp [recordSessionControl]
  | some control =>
      refine ⟨stream_push _ _, rfl, rfl, fun formed => ⟨?_, formed.dimensions, ?_⟩⟩
      · intro member
        rcases List.mem_cons.mp member with here | earlier
        · cases here
        · exact formed.filled earlier
      · have pushed : (state.recordSessionControl (some control)).history.stream =
            state.history.stream ++ [.control control] := stream_push _ _
        rw [pushed, parser_after_append, ← formed.replayed]
        rfl

theorem apply_instruction_spec {state result : RemoteTerminalState terminal}
    {instruction : Instruction} (applied : state.applyInstruction instruction = .ok result) :
    result.history.stream = state.history.stream ++ addedStream state.viewport [instruction] ∧
      result.viewport = viewportAfter state.viewport [instruction] ∧
      result.echoAck = echoAfter state.echoAck [instruction] ∧
      (WellFormed state → WellFormed result) := by
  obtain ⟨bytes, viewport, marker, control⟩ := instruction
  simp only [applyInstruction, bind, Except.bind] at applied
  generalize written : (bytes.elim state fun run => state.applyHostBytes run.value) = first at applied
  have firstSpec : first.history.stream =
        state.history.stream ++ (bytes.elim [] fun run => run.value.map .byte) ∧
      first.viewport = state.viewport ∧ first.echoAck = state.echoAck ∧
      (WellFormed state → WellFormed first) := by
    cases bytes with
    | none => simp [← written]
    | some run =>
        have frame := apply_host_bytes_frame state run.value
        rw [← written]
        exact ⟨apply_host_bytes_stream state run.value, frame.1, frame.2.1,
          fun formed => apply_host_bytes_formed formed run.value⟩
  split at applied
  · cases applied
  · rename_i second resized
    have secondSpec : second.history.stream =
          first.history.stream ++ resizeStream first.viewport viewport ∧
        second.viewport = viewport.getD first.viewport ∧ second.echoAck = first.echoAck ∧
        (WellFormed first → WellFormed second) := by
      cases viewport with
      | none =>
          have same : first = second := Except.ok.inj resized
          simp [← same, resizeStream]
      | some viewport => exact apply_viewport_spec resized
    have markSpec := record_marker_spec second marker
    have lastSpec := record_session_control_spec (second.recordMarker marker) control
    rw [Except.ok.inj applied] at lastSpec
    refine ⟨?_, ?_, ?_, fun formed => lastSpec.2.2.2 (markSpec.2.2.2 (secondSpec.2.2.2
      (firstSpec.2.2.2 formed)))⟩
    · rw [lastSpec.1, markSpec.1, secondSpec.1, firstSpec.1, firstSpec.2.1]
      simp [addedStream]
    · rw [lastSpec.2.1, markSpec.2.1, secondSpec.2.1, firstSpec.2.1]
      rfl
    · rw [lastSpec.2.2.1, markSpec.2.2.1, secondSpec.2.2.1, firstSpec.2.2.1]
      rfl

theorem apply_all_cons {state result : RemoteTerminalState terminal} {instruction : Instruction}
    {rest : List Instruction}
    (applied : (instruction :: rest).foldlM applyInstruction state = .ok result) :
    ∃ next, state.applyInstruction instruction = .ok next ∧
      rest.foldlM applyInstruction next = .ok result := by
  rw [List.foldlM_cons] at applied
  cases step : state.applyInstruction instruction with
  | error error => simp [step, bind, Except.bind] at applied
  | ok next =>
      rw [step] at applied
      exact ⟨next, rfl, applied⟩

theorem apply_all_spec {state result : RemoteTerminalState terminal}
    {instructions : List Instruction} (applied : instructions.foldlM applyInstruction state = .ok result) :
    result.history.stream = state.history.stream ++ addedStream state.viewport instructions ∧
      result.viewport = viewportAfter state.viewport instructions ∧
      result.echoAck = echoAfter state.echoAck instructions ∧
      (WellFormed state → WellFormed result) := by
  induction instructions generalizing state with
  | nil =>
      have same : state = result := Except.ok.inj applied
      simp [← same, addedStream, viewportAfter, echoAfter]
  | cons instruction rest induction =>
      obtain ⟨next, step, later⟩ := apply_all_cons applied
      obtain ⟨stream, viewport, echoAck, formed⟩ := apply_instruction_spec step
      obtain ⟨restStream, restViewport, restEchoAck, restFormed⟩ := induction later
      refine ⟨?_, ?_, ?_, fun start => restFormed (formed start)⟩
      · rw [restStream, stream, viewport, List.append_assoc]
        simp [addedStream, viewportAfter]
      · rw [restViewport, viewport]
        rfl
      · rw [restEchoAck, echoAck]
        rfl

/-- The compacted state: the history is one snapshot, everything else is kept. -/
structure CompactsTo (state prepared : RemoteTerminalState terminal) : Prop where
  parser : prepared.parser = state.parser
  viewport : prepared.viewport = state.viewport
  echoAck : prepared.echoAck = state.echoAck
  history : prepared.history.tail = byteRun (terminal.stateFormatted state.parser.screen)
  initial : viewportOf prepared.initialColumns prepared.initialRows = state.viewport

theorem compacts_to_stream {state prepared : RemoteTerminalState terminal}
    (compacted : CompactsTo state prepared) :
    prepared.history.stream = (terminal.stateFormatted state.parser.screen).map .byte := by
  rw [StateHistory.stream, StateHistory.operations, compacted.history, ← stream_of_byte_run]
  congr 1
  unfold byteRun
  split_ifs <;> rfl

/-- The history is kept while it has room for the batch and compacted otherwise. -/
theorem prepare_history_cases {state prepared : RemoteTerminalState terminal}
    {batch : InstructionBatch} (ready : state.prepareHistory batch = .ok prepared) :
    state.validateHistoryGrowth batch = .ok () ∧ prepared = state ∨
      state.validateHistoryGrowth batch ≠ .ok () ∧
        historyEndsAtGround terminal state.history.canonicalOperations = true ∧
        CompactsTo state prepared := by
  unfold prepareHistory at ready
  cases growth : state.validateHistoryGrowth batch with
  | ok =>
      rw [growth] at ready
      exact Or.inl ⟨rfl, (Except.ok.inj ready).symm⟩
  | error error =>
      rw [growth] at ready
      cases compacted : state.compactedHistory batch with
      | error failure => simp [compacted, bind, Except.bind] at ready
      | ok triple =>
          obtain ⟨history, initialColumns, initialRows⟩ := triple
          simp only [compacted, bind, Except.bind, Except.ok.injEq] at ready
          unfold compactedHistory at compacted
          cases ground : historyEndsAtGround terminal state.history.canonicalOperations with
          | false => simp [ground] at compacted
          | true =>
              refine Or.inr ⟨by simp, rfl, ?_⟩
              simp only [ground, Bool.not_true, Bool.false_eq_true, if_false, bind, Except.bind] at compacted
              split at compacted
              · cases compacted
              · split at compacted
                · rename_i columns rows fitsColumns fitsRows
                  simp only [Except.ok.injEq, Prod.mk.injEq] at compacted
                  rw [← ready]
                  refine ⟨rfl, rfl, rfl, by rw [← compacted.1], ?_⟩
                  rw [narrow_viewport fitsColumns fitsRows, compacted.2.1, compacted.2.2]
                · cases compacted

theorem compacted_formed (lawful : LawfulParser terminal) {state prepared : RemoteTerminalState terminal}
    (formed : WellFormed state) (compacted : CompactsTo state prepared)
    (ground : terminal.parserAfter state.history.stream = terminal.parserStart) :
    WellFormed prepared := by
  refine ⟨?_, ?_, ?_⟩
  · rw [compacted.history]
    unfold byteRun
    split_ifs with empty
    · exact List.not_mem_nil
    · intro member
      have same := List.mem_singleton.mp member
      exact empty (by simp [← StateOperation.hostBytes.inj same])
  · rw [compacted.viewport]
    exact formed.dimensions
  · rw [compacted.parser, formed.replayed, ground, compacts_to_stream compacted, Terminal.parserAfter,
      stream_bytes_map, lawful.formatted_ground]

/-- An accepted batch is the run of its instructions on the prepared state. -/
theorem apply_steps {state result : RemoteTerminalState terminal} {batch : InstructionBatch}
    (applied : state.apply batch = .ok result) :
    ∃ prepared, state.prepareHistory batch = .ok prepared ∧
      batch.instructions.foldlM applyInstruction prepared = .ok result := by
  unfold apply at applied
  cases viewports : validateViewports batch with
  | error error => simp [viewports, bind, Except.bind] at applied
  | ok =>
      cases echoes : (batch.instructions.filterMap (·.marker)).foldlM validateEchoAck state.echoAck with
      | error error => simp [viewports, echoes, bind, Except.bind] at applied
      | ok echo =>
          cases ready : state.prepareHistory batch with
          | error error => simp [viewports, echoes, ready, bind, Except.bind] at applied
          | ok prepared =>
              simp only [viewports, echoes, ready, bind, Except.bind] at applied
              exact ⟨prepared, rfl, applied⟩

theorem apply_all_preserves (invariant : RemoteTerminalState terminal → Prop)
    (preserved : ∀ state instruction result, invariant state →
      state.applyInstruction instruction = .ok result → invariant result)
    {state result : RemoteTerminalState terminal} {instructions : List Instruction}
    (holds : invariant state) (applied : instructions.foldlM applyInstruction state = .ok result) :
    invariant result := by
  induction instructions generalizing state with
  | nil => exact Except.ok.inj applied ▸ holds
  | cons instruction rest induction =>
      obtain ⟨next, step, later⟩ := apply_all_cons applied
      exact induction (preserved state instruction next holds step) later

/-- What an accepted batch does: the stream grows by what the batch adds, behind the old
stream or behind a snapshot. -/
theorem apply_spec (lawful : LawfulParser terminal) {state result : RemoteTerminalState terminal}
    {batch : InstructionBatch} (formed : WellFormed state) (applied : state.apply batch = .ok result) :
    WellFormed result ∧ result.viewport = viewportAfter state.viewport batch.instructions ∧
      result.echoAck = echoAfter state.echoAck batch.instructions ∧
      (state.validateHistoryGrowth batch = .ok () ∧
          result.history.stream =
            state.history.stream ++ addedStream state.viewport batch.instructions ∨
        state.validateHistoryGrowth batch ≠ .ok () ∧
          terminal.parserAfter state.history.stream = terminal.parserStart ∧
          result.history.stream = (terminal.stateFormatted state.parser.screen).map .byte ++
            addedStream state.viewport batch.instructions) := by
  obtain ⟨prepared, ready, stepped⟩ := apply_steps applied
  obtain ⟨stream, viewport, echoAck, kept⟩ := apply_all_spec stepped
  rcases prepare_history_cases ready with ⟨fits, same⟩ | ⟨full, ground, compacted⟩
  · subst same
    exact ⟨kept formed, viewport, echoAck, Or.inl ⟨fits, stream⟩⟩
  · rw [history_ends_at_ground_iff lawful, canonical_stream] at ground
    rw [compacts_to_stream compacted, compacted.viewport] at stream
    rw [compacted.viewport] at viewport
    rw [compacted.echoAck] at echoAck
    exact ⟨kept (compacted_formed lawful formed compacted ground), viewport, echoAck,
      Or.inr ⟨full, ground, stream⟩⟩

theorem replay_state (operations : List StateOperation) (parser : Parser terminal) :
    (operations.foldl replay parser).state =
      (terminal.advanceAll parser.state (streamBytes (streamOf operations))).1 := by
  induction operations generalizing parser with
  | nil => rfl
  | cons operation rest induction =>
      rw [List.foldl_cons, induction, stream_of_cons, stream_bytes_append, advance_all_append]
      cases operation with
      | hostBytes bytes => simp [replay, Parser.process, StateOperation.stream]
      | resize columns rows => rfl
      | sessionControl control => rfl

theorem clone_formed {state : RemoteTerminalState terminal} (formed : WellFormed state) :
    WellFormed state.clone :=
  ⟨formed.filled, formed.dimensions, replay_state _ _⟩

theorem new_eq {columns rows : UInt16} {state : RemoteTerminalState terminal}
    (created : new columns rows = .ok state) :
    state =
      { initialColumns := columns
        initialRows := rows
        parser := .new rows columns
        history := .empty
        viewport := viewportOf columns rows
        echoAck := none } := by
  unfold new at created
  cases valid : validateViewport columns.toUInt64 rows.toUInt64 with
  | error error => simp [valid, bind, Except.bind] at created
  | ok =>
      simp only [valid, bind, Except.bind, Except.ok.injEq] at created
      exact created.symm

theorem new_formed {columns rows : UInt16} {state : RemoteTerminalState terminal}
    (created : new columns rows = .ok state) :
    WellFormed state ∧ state.history = .empty ∧ state.viewport = viewportOf columns rows ∧
      state.echoAck = none := by
  rw [new_eq created]
  exact ⟨⟨List.not_mem_nil, ⟨columns, rows, rfl⟩, rfl⟩, rfl, rfl, rfl⟩

theorem narrow_wide (value : UInt16) : narrow value.toUInt64 = some value := by
  have low : value.toUInt64.toNat < 2 ^ 16 := by
    rw [UInt16.toNat_toUInt64]
    exact value.toNat_lt
  rw [narrow, if_pos low]
  simp

theorem new_succeeds {columns rows : UInt16} (columnsPositive : columns ≠ 0) (rowsPositive : rows ≠ 0) :
    ∃ state : RemoteTerminalState terminal, new columns rows = .ok state := by
  have columnsWide : columns.toUInt64 ≠ 0 := fun zero =>
    columnsPositive (UInt16.toUInt64_inj.mp zero)
  have rowsWide : rows.toUInt64 ≠ 0 := fun zero => rowsPositive (UInt16.toUInt64_inj.mp zero)
  have valid : validateViewport columns.toUInt64 rows.toUInt64 = .ok () := by
    rw [validateViewport, if_neg]
    simp [columnsWide, rowsWide, narrow_wide]
  exact ⟨_, by rw [new, valid]; rfl⟩

/-- When the screen-diff branch of `diff_from` is open. -/
structure ScreenDiffAllowed (target delivered : RemoteTerminalState terminal) : Prop where
  sameViewport : target.viewport = delivered.viewport
  targetTail : ¬ HasResize (beyondCommon target.history.stream delivered.history.stream)
  deliveredTail : ¬ HasResize (beyondCommon delivered.history.stream target.history.stream)
  targetGround : terminal.parserAfter target.history.stream = terminal.parserStart
  deliveredGround : terminal.parserAfter delivered.history.stream = terminal.parserStart

theorem screen_diff_allowed_iff (lawful : LawfulParser terminal)
    {target delivered : RemoteTerminalState terminal} (targetFormed : WellFormed target)
    (deliveredFormed : WellFormed delivered) :
    ScreenDiffAllowed target delivered ↔ target.viewport = delivered.viewport ∧
      divergedHistoriesAreScreenDiffSafe terminal target.history.canonicalOperations
        delivered.history.canonicalOperations = true := by
  rw [diverged_screen_diff_safe_iff lawful _ _ (canonical_operations _ targetFormed.filled)
    (canonical_operations _ deliveredFormed.filled), canonical_stream, canonical_stream]
  constructor
  · intro allowed
    exact ⟨allowed.sameViewport, ⟨allowed.targetTail, allowed.deliveredTail⟩, allowed.targetGround,
      allowed.deliveredGround⟩
  · intro allowed
    obtain ⟨sameViewport, ⟨targetTail, deliveredTail⟩, targetGround, deliveredGround⟩ := allowed
    exact ⟨sameViewport, targetTail, deliveredTail, targetGround, deliveredGround⟩

theorem diff_from_cases (lawful : LawfulParser terminal)
    {target delivered : RemoteTerminalState terminal} (targetFormed : WellFormed target)
    (deliveredFormed : WellFormed delivered) :
    (∃ suffix, target.history.stream = delivered.history.stream ++ instructionsStream suffix ∧
        target.diffFrom delivered = .ok ⟨target.echoInstructions delivered ++ suffix⟩) ∨
      ¬ delivered.history.stream <+: target.history.stream ∧
        (ScreenDiffAllowed target delivered ∧
            target.diffFrom delivered =
              .ok ⟨target.echoInstructions delivered ++ target.screenDiff delivered⟩ ∨
          ¬ ScreenDiffAllowed target delivered ∧
            target.diffFrom delivered = .error .divergedHistory) := by
  have prefixed := suffix_start_ok_iff _ _ (canonical_operations _ targetFormed.filled)
    (canonical_operations _ deliveredFormed.filled)
  have allowed := screen_diff_allowed_iff lawful targetFormed deliveredFormed
  rw [canonical_stream, canonical_stream] at prefixed
  unfold diffFrom
  cases found : historySuffixStart target.history.canonicalOperations
      delivered.history.canonicalOperations with
  | ok start =>
      obtain ⟨suffixStart, firstByteOffset⟩ := start
      have sound := (suffix_start_from_sound 0 suffixStart firstByteOffset _ _ found).2
      rw [canonical_stream, canonical_stream, Nat.sub_zero] at sound
      exact Or.inl ⟨_, sound, by simp only [found]; rfl⟩
  | error error =>
      have diverged := suffix_start_from_error 0 _ _ error found
      subst diverged
      have apart : ¬ delivered.history.stream <+: target.history.stream := by
        rw [← prefixed, found]
        simp
      refine Or.inr ⟨apart, ?_⟩
      simp only [found]
      by_cases open_ : ScreenDiffAllowed target delivered
      · exact Or.inl ⟨open_, by rw [if_pos (allowed.mp open_)]; rfl⟩
      · exact Or.inr ⟨open_, by rw [if_neg (fun closed => open_ (allowed.mpr closed))]; rfl⟩

theorem diff_from_ok_iff (lawful : LawfulParser terminal)
    {target delivered : RemoteTerminalState terminal} (targetFormed : WellFormed target)
    (deliveredFormed : WellFormed delivered) :
    (∃ diff, target.diffFrom delivered = .ok diff) ↔
      delivered.history.stream <+: target.history.stream ∨ ScreenDiffAllowed target delivered := by
  rcases diff_from_cases lawful targetFormed deliveredFormed with
    ⟨suffix, split, succeeded⟩ | ⟨apart, ⟨allowed, succeeded⟩ | ⟨refused, failed⟩⟩
  · have prefixed : delivered.history.stream <+: target.history.stream := by
      rw [split]
      exact List.prefix_append _ _
    simp [succeeded, prefixed]
  · simp [succeeded, allowed]
  · simp [failed, refused, apart]

end RemoteTerminalState

end FerrumTty.State
