import FerrumTty.State.Clones

/-!
# What a screen diff leaves behind

A screen diff carries the visible part of the target over and leaves the host's hidden part as
it was, so it is faithful where the two hidden parts are the same. The audits of the two tails
tell when they are: a tail without a callback that is not reconstructible leaves the hidden part
alone. `diff_from` computes these verdicts and never reads them.
-/

namespace FerrumTty.State

set_option autoImplicit false

open Crypto Wire RemoteTerminalState

variable {terminal : Terminal}

/-- A host that receives the difference shows the target's screen over all later output. -/
def Faithful (target delivered : RemoteTerminalState terminal) (diff : InstructionBatch) : Prop :=
  ∀ later : Bytes, ((delivered.parser.receiveAll diff).process later).screen.1 =
    (target.parser.process later).screen.1

/-- Hidden parts that differ are told apart by some output, whatever is visible. -/
def Separated (terminal : Terminal) : Prop :=
  ∀ (visible : terminal.Visible) (first second : terminal.Hidden),
    (∀ later : Bytes, ((Parser.mk terminal.parserStart (visible, first)).process later).screen.1 =
      ((Parser.mk terminal.parserStart (visible, second)).process later).screen.1) →
    first = second

/-- What the audit takes to be reconstructible leaves the hidden part alone: text, and the four
controls that only move the cursor. -/
structure QuietCallbacks (terminal : Terminal) : Prop where
  print : ∀ screen character, (terminal.perform screen (.print character)).2 = screen.2
  execute : ∀ screen byte, byte ∈ ([0x08, 0x09, 0x0a, 0x0d] : Bytes) →
    (terminal.perform screen (.execute byte)).2 = screen.2

/-- The verdict that the audit of a tail comes to. -/
def tailIsReconstructible (terminal : Terminal) (common tail : List StateOperation) : Bool :=
  let parser : AuditedParser terminal := common.foldl AuditedParser.advanceHostBytes .new
  let parser := { parser with audit := parser.audit.beginTailAudit }
  (tail.foldl AuditedParser.advanceHostBytes parser).audit.reconstructible

/-- Both states are what their histories say, from one viewport, and both audits of the tails
come to the verdict that they are reconstructible. -/
structure AuditedTails (target delivered : RemoteTerminalState terminal) : Prop where
  targetReplayed : target.parser = target.replayed
  deliveredReplayed : delivered.parser = delivered.replayed
  sameColumns : target.initialColumns = delivered.initialColumns
  sameRows : target.initialRows = delivered.initialRows
  targetVerdict : tailIsReconstructible terminal
    (splitCommonHistory target.history.canonicalOperations delivered.history.canonicalOperations).1
    (splitCommonHistory target.history.canonicalOperations delivered.history.canonicalOperations).2.1 =
      true
  deliveredVerdict : tailIsReconstructible terminal
    (splitCommonHistory target.history.canonicalOperations delivered.history.canonicalOperations).1
    (splitCommonHistory target.history.canonicalOperations delivered.history.canonicalOperations).2.2 =
      true

namespace ScreenDiffAudit

theorem perform_modes (audit : ScreenDiffAudit) (callback : Callback) :
    (audit.perform callback).auditing = audit.auditing ∧
      (audit.perform callback).probing = audit.probing := by
  have other : audit.recordOtherAction.auditing = audit.auditing ∧
      audit.recordOtherAction.probing = audit.probing := by
    unfold recordOtherAction
    split_ifs <;> exact ⟨rfl, rfl⟩
  cases callback with
  | print character =>
      unfold ScreenDiffAudit.perform
      dsimp only
      split_ifs <;> exact ⟨rfl, rfl⟩
  | execute byte =>
      unfold ScreenDiffAudit.perform
      dsimp only
      split_ifs <;> exact ⟨rfl, rfl⟩
  | _ => exact other

theorem perform_all_modes (audit : ScreenDiffAudit) (callbacks : List Callback) :
    (callbacks.foldl ScreenDiffAudit.perform audit).auditing = audit.auditing ∧
      (callbacks.foldl ScreenDiffAudit.perform audit).probing = audit.probing := by
  induction callbacks generalizing audit with
  | nil => exact ⟨rfl, rfl⟩
  | cons callback rest induction =>
      obtain ⟨auditing, probing⟩ := induction (audit.perform callback)
      obtain ⟨auditingHere, probingHere⟩ := audit.perform_modes callback
      exact ⟨auditing.trans auditingHere, probing.trans probingHere⟩

/-- The audit of a tail is under way. -/
structure InTail (audit : ScreenDiffAudit) : Prop where
  auditing : audit.auditing = true
  unprobed : audit.probing = false

theorem InTail.perform {audit : ScreenDiffAudit} (inTail : audit.InTail) (callback : Callback) :
    (audit.perform callback).InTail where
  auditing := (audit.perform_modes callback).1.trans inTail.auditing
  unprobed := (audit.perform_modes callback).2.trans inTail.unprobed

theorem InTail.perform_all {audit : ScreenDiffAudit} (inTail : audit.InTail)
    (callbacks : List Callback) : (callbacks.foldl ScreenDiffAudit.perform audit).InTail where
  auditing := (audit.perform_all_modes callbacks).1.trans inTail.auditing
  unprobed := (audit.perform_all_modes callbacks).2.trans inTail.unprobed

theorem InTail.other {audit : ScreenDiffAudit} (inTail : audit.InTail) :
    audit.recordOtherAction.reconstructible = false := by
  rw [recordOtherAction, if_neg (by rw [inTail.unprobed]; exact Bool.false_ne_true),
    if_pos inTail.auditing]

theorem InTail.quiet (quiet : QuietCallbacks terminal) {audit : ScreenDiffAudit}
    (inTail : audit.InTail) {callback : Callback}
    (verdict : (audit.perform callback).reconstructible = true) :
    audit.reconstructible = true ∧
      ∀ screen : terminal.Screen, (terminal.perform screen callback).2 = screen.2 := by
  have unprobed : ¬audit.probing = true := by
    rw [inTail.unprobed]
    exact Bool.false_ne_true
  cases callback with
  | print character =>
      rw [ScreenDiffAudit.perform, if_neg unprobed] at verdict
      exact ⟨verdict, fun screen => quiet.print screen character⟩
  | execute byte =>
      rw [ScreenDiffAudit.perform, if_neg unprobed] at verdict
      split_ifs at verdict with other
      have known : byte ∈ ([0x08, 0x09, 0x0a, 0x0d] : Bytes) :=
        not_not.mp fun unknown => other ⟨inTail.auditing, unknown⟩
      exact ⟨verdict, fun screen => quiet.execute screen byte known⟩
  | _ => exact absurd (inTail.other.symm.trans verdict) Bool.false_ne_true

theorem InTail.all_quiet (quiet : QuietCallbacks terminal) {callbacks : List Callback}
    {audit : ScreenDiffAudit} (inTail : audit.InTail)
    (verdict : (callbacks.foldl ScreenDiffAudit.perform audit).reconstructible = true) :
    audit.reconstructible = true ∧
      ∀ screen : terminal.Screen, (callbacks.foldl terminal.perform screen).2 = screen.2 := by
  induction callbacks generalizing audit with
  | nil => exact ⟨verdict, fun _ => rfl⟩
  | cons callback rest induction =>
      obtain ⟨here, later⟩ := induction (inTail.perform callback) verdict
      obtain ⟨before, kept⟩ := inTail.quiet quiet here
      refine ⟨before, fun screen => ?_⟩
      rw [List.foldl_cons, later, kept]

end ScreenDiffAudit

theorem audited_unprobed (operations : List StateOperation) (audited : AuditedParser terminal) :
    (operations.foldl AuditedParser.advanceHostBytes audited).audit.probing =
      audited.audit.probing := by
  induction operations generalizing audited with
  | nil => rfl
  | cons operation rest induction =>
      rw [List.foldl_cons, induction]
      cases operation with
      | hostBytes bytes => exact (ScreenDiffAudit.perform_all_modes _ _).2
      | resize columns rows => rfl
      | sessionControl control => rfl

/-- A tail that its audit finds reconstructible leaves the hidden part alone. -/
theorem audited_tail_quiet (quiet : QuietCallbacks terminal) {tail : List StateOperation}
    {parser : Parser terminal} {audited : AuditedParser terminal}
    (level : audited.state = parser.state) (inTail : audited.audit.InTail)
    (unresized : tail.any StateOperation.isResize = false)
    (verdict : (tail.foldl AuditedParser.advanceHostBytes audited).audit.reconstructible = true) :
    audited.audit.reconstructible = true ∧ (tail.foldl replay parser).screen.2 = parser.screen.2 := by
  induction tail generalizing parser audited with
  | nil => exact ⟨verdict, rfl⟩
  | cons operation rest induction =>
      rw [List.any_cons, Bool.or_eq_false_iff] at unresized
      cases operation with
      | hostBytes bytes =>
          have moved : (audited.advance bytes).state = (parser.process bytes).state := by
            rw [AuditedParser.advance, Parser.process, level]
          obtain ⟨here, later⟩ := @induction (parser.process bytes) (audited.advance bytes) moved
            (inTail.perform_all _) unresized.2 verdict
          obtain ⟨before, kept⟩ := inTail.all_quiet quiet here
          refine ⟨before, later.trans ?_⟩
          rw [Parser.process, ← level]
          exact kept parser.screen
      | resize columns rows => cases unresized.1
      | sessionControl control => exact induction level inTail unresized.2 verdict

/-- A state whose tail is reconstructible has the hidden part of the common history. -/
theorem reconstructible_tail_hidden (quiet : QuietCallbacks terminal)
    {state : RemoteTerminalState terminal} {common tail : List StateOperation}
    (replayed : state.parser = state.replayed)
    (split : state.history.stream = streamOf common ++ streamOf tail)
    (unresized : tail.any StateOperation.isResize = false)
    (verdict : tailIsReconstructible terminal common tail = true) :
    state.parser.screen.2 =
      (common.foldl replay (.new state.initialRows state.initialColumns)).screen.2 := by
  rw [replayed, RemoteTerminalState.replayed, split, follow_append, ← replay_follows, ← replay_follows]
  have level : (common.foldl AuditedParser.advanceHostBytes (.new : AuditedParser terminal)).state =
      (common.foldl replay (.new state.initialRows state.initialColumns)).state := by
    rw [replay_state, audited_fold_state]
    rfl
  generalize audit : common.foldl AuditedParser.advanceHostBytes (.new : AuditedParser terminal) =
    audited at level
  have unprobed : audited.audit.probing = false := audit ▸ audited_unprobed common .new
  rw [tailIsReconstructible, audit] at verdict
  exact (@audited_tail_quiet terminal quiet tail _ { audited with audit := audited.audit.beginTailAudit }
    level ⟨rfl, unprobed⟩ unresized verdict).2

/-- Audits that find both tails reconstructible find the hidden parts the same. -/
theorem audited_hidden_parts (lawful : LawfulTerminal terminal) (quiet : QuietCallbacks terminal)
    {target delivered : RemoteTerminalState terminal} (targetReachable : Reachable target)
    (deliveredReachable : Reachable delivered) (allowed : ScreenDiffAllowed target delivered)
    (audited : AuditedTails target delivered) :
    delivered.parser.screen.2 = target.parser.screen.2 := by
  obtain ⟨targetFormed, _⟩ := reachable_formed lawful targetReachable
  obtain ⟨deliveredFormed, _⟩ := reachable_formed lawful deliveredReachable
  have targetCanonical := canonical_operations _ targetFormed.filled
  have deliveredCanonical := canonical_operations _ deliveredFormed.filled
  obtain ⟨targetSplit, deliveredSplit⟩ := split_common_history_stream
    target.history.canonicalOperations delivered.history.canonicalOperations
  have targetTail := split_common_target _ _ targetCanonical deliveredCanonical
  have deliveredTail := split_common_delivered _ _ targetCanonical deliveredCanonical
  rw [canonical_stream, canonical_stream] at targetTail deliveredTail
  rw [canonical_stream] at targetSplit deliveredSplit
  have unresized {tail : List StateOperation} (none_ : ¬ HasResize (streamOf tail)) :
      tail.any StateOperation.isResize = false :=
    Bool.eq_false_of_not_eq_true fun some_ => none_ ((any_resize_iff tail).mp some_)
  rw [reconstructible_tail_hidden quiet audited.deliveredReplayed deliveredSplit
      (unresized (deliveredTail ▸ allowed.deliveredTail)) audited.deliveredVerdict,
    reconstructible_tail_hidden quiet audited.targetReplayed targetSplit
      (unresized (targetTail ▸ allowed.targetTail)) audited.targetVerdict,
    audited.sameColumns, audited.sameRows]

/-- The screen-diff fallback is faithful where target and delivered state have the same hidden
part, and only there in a terminal that shows its hidden parts. The audits of the two tails,
if they were consulted, would tell. -/
theorem screen_diff_faithful (lawful : LawfulTerminal terminal)
    {target delivered : RemoteTerminalState terminal} (targetReachable : Reachable target)
    (deliveredReachable : Reachable delivered) {diff : InstructionBatch}
    (diverged : historySuffixStart target.history.canonicalOperations
      delivered.history.canonicalOperations = .error .divergedHistory)
    (succeeded : target.diffFrom delivered = .ok diff) :
    (delivered.parser.screen.2 = target.parser.screen.2 → Faithful target delivered diff) ∧
      (Separated terminal → Faithful target delivered diff →
        delivered.parser.screen.2 = target.parser.screen.2) ∧
      (QuietCallbacks terminal → AuditedTails target delivered →
        delivered.parser.screen.2 = target.parser.screen.2) := by
  obtain ⟨allowed, host, ground⟩ := host_after_screen_diff lawful targetReachable deliveredReachable
    (diverged_apart lawful targetReachable deliveredReachable diverged) succeeded
  refine ⟨?_, ?_, ?_⟩
  · intro same later
    rw [host, ground, same]
  · intro separated faithful
    apply separated target.parser.screen.1
    intro later
    have shown := faithful later
    rw [host, ground] at shown
    exact shown
  · intro quiet audited
    exact audited_hidden_parts lawful quiet targetReachable deliveredReachable allowed audited

theorem line_print_hidden (screen : LineView × Nat) (character : Char) :
    (LineView.perform screen (.print character)).2 = screen.2 := by
  unfold LineView.perform
  dsimp only
  split <;> rfl

theorem line_execute_hidden (screen : LineView × Nat) (byte : UInt8) :
    (LineView.perform screen (.execute byte)).2 = screen.2 := by
  unfold LineView.perform
  dsimp only
  split_ifs <;> rfl

theorem quiet_line_callbacks : QuietCallbacks lineTerminal where
  print := line_print_hidden
  execute screen byte _ := line_execute_hidden screen byte

/-- Both audits pass, and the two lines stay the same over a restored cursor. -/
theorem screen_diff_faithful_plain :
    (((lineAfter [0x62]).parser.receiveAll
          ⟨[hostBytesInstruction [0x0d, 0x61, 0x20, 0x20, 0x20, 0x0d, 0x61]]⟩).process
        [0x1b, 0x38]).screen.1 =
      ((lineAfter [0x61]).parser.process [0x1b, 0x38]).screen.1 := by
  have target : Reachable (lineAfter [0x61]) := line_after_reachable rfl
  have delivered : Reachable (lineAfter [0x62]) := line_after_reachable rfl
  have audited : AuditedTails (lineAfter [0x61]) (lineAfter [0x62]) :=
    ⟨rfl, rfl, rfl, rfl, by decide, by decide⟩
  obtain ⟨faithful, _, audits⟩ :=
    @screen_diff_faithful lineTerminal lawful_line_terminal (lineAfter [0x61]) (lineAfter [0x62])
      target delivered ⟨[hostBytesInstruction [0x0d, 0x61, 0x20, 0x20, 0x20, 0x0d, 0x61]]⟩ (by decide)
      (by decide)
  exact faithful (audits quiet_line_callbacks audited) [0x1b, 0x38]

/-- The target saved its cursor behind the letter; the host never did, and a later restore
puts the two cursors into different columns. -/
theorem saved_cursor_is_lost :
    ¬ ∀ target delivered : RemoteTerminalState lineTerminal, Reachable target → Reachable delivered →
      ∀ diff, historySuffixStart target.history.canonicalOperations
          delivered.history.canonicalOperations = .error .divergedHistory →
        target.diffFrom delivered = .ok diff → Faithful target delivered diff := by
  intro faithful
  have same := faithful (lineAfter [0x61, 0x1b, 0x37]) (lineAfter [0x62])
    (line_after_reachable rfl)
    (line_after_reachable rfl)
    ⟨[hostBytesInstruction [0x0d, 0x61, 0x20, 0x20, 0x20, 0x0d, 0x61]]⟩ (by decide) (by decide)
    [0x1b, 0x38]
  have cursors := congrArg LineView.cursor same
  have different : (((lineAfter [0x62]).parser.receiveAll
        ⟨[hostBytesInstruction [0x0d, 0x61, 0x20, 0x20, 0x20, 0x0d, 0x61]]⟩).process
      [0x1b, 0x38]).screen.1.cursor ≠
      ((lineAfter [0x61, 0x1b, 0x37]).parser.process [0x1b, 0x38]).screen.1.cursor := by decide
  exact different cursors

end FerrumTty.State
