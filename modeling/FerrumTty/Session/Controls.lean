import FerrumTty.Session.RemoteUpdates
import FerrumTty.Session.Transport

/-!
# Session controls in the delivered updates

A delta that continues the delivered history carries its session controls; a screen diff
carries none.
-/

namespace FerrumTty.Session

set_option autoImplicit false

open Crypto Wire State Runs

namespace ClientProtocol

variable {lib : Libraries}

def StreamItem.control? : StreamItem → Option SessionControl
  | .control control => some control
  | _ => none

def controls (stream : List StreamItem) : List SessionControl :=
  stream.filterMap StreamItem.control?

/-- What the newly delivered history holds beyond its common prefix with the one before. -/
def ProtocolStep.news (event : ProtocolStep lib) : List StreamItem :=
  beyondCommon event.after.deliveredRemoteState.history.stream
    event.before.deliveredRemoteState.history.stream

/-- The delivered delta holds the new session controls, in order, and no other. -/
def DeliversControls (event : ProtocolStep lib) (delivered : StateUpdate) : Prop :=
  controls (instructionsStream (deliveredInstructions lib.codec delivered)) = controls event.news

instance (event : ProtocolStep lib) (delivered : StateUpdate) :
    Decidable (DeliversControls event delivered) :=
  inferInstanceAs (Decidable (_ = _))

/-- The histories did not diverge, or the new one diverges without a session control. -/
def KeepsControls (event : ProtocolStep lib) : Prop :=
  event.before.deliveredRemoteState.history.stream <+:
      event.after.deliveredRemoteState.history.stream ∨ controls event.news = []

instance (event : ProtocolStep lib) : Decidable (KeepsControls event) :=
  inferInstanceAs (Decidable (_ ∨ _))

theorem controls_screen_diff {terminal : Terminal} (target delivered : RemoteTerminalState terminal) :
    controls (instructionsStream (target.screenDiff delivered)) = [] := by
  have bytesOnly (bytes : Bytes) : controls (bytes.map StreamItem.byte) = [] := by
    rw [controls, List.filterMap_map]
    exact List.filterMap_eq_nil_iff.mpr fun _ _ => rfl
  unfold RemoteTerminalState.screenDiff
  dsimp only
  split_ifs
  · rfl
  · simpa [instructionsStream, instructionStream, hostBytesInstruction] using bytesOnly _

theorem delivers_controls_iff (lawful : LawfulLibraries lib) {event : ProtocolStep lib}
    (invariant : RemoteInvariant event.before) {delivered : StateUpdate}
    {diff : InstructionBatch}
    (built : event.after.deliveredRemoteState.diffFrom event.before.deliveredRemoteState = .ok diff)
    (carried : deliveredInstructions lib.codec delivered = diff.instructions)
    (formed : WellFormed event.after.deliveredRemoteState) :
    DeliversControls event delivered ↔ KeepsControls event := by
  rw [DeliversControls, carried, KeepsControls]
  rcases RemoteTerminalState.diff_from_cases lawful.terminal.toLawfulParser formed invariant.delivered with
    ⟨suffix, split, succeeded⟩ | ⟨apart, ⟨_, succeeded⟩ | ⟨_, failed⟩⟩
  · have shape := Except.ok.inj (built.symm.trans succeeded)
    have prefixed : event.before.deliveredRemoteState.history.stream <+:
        event.after.deliveredRemoteState.history.stream := by
      rw [split]
      exact List.prefix_append _ _
    have news : event.news = instructionsStream suffix := by
      have common := beyond_common_append event.before.deliveredRemoteState.history.stream
        (instructionsStream suffix) []
      rw [List.append_nil, ← split] at common
      rw [ProtocolStep.news, common]
      cases instructionsStream suffix <;> rfl
    rw [shape, instructions_stream_echo, news]
    simp [prefixed]
  · have shape := Except.ok.inj (built.symm.trans succeeded)
    rw [shape, instructions_stream_echo, controls_screen_diff, or_iff_right apart]
    exact eq_comm
  · rw [failed] at built
    cases built

/-- In a run every advance delivers its session controls exactly when at every advance the
histories extend each other or the new one diverges without a session control. -/
theorem controls_delivered_iff (lawful : LawfulLibraries lib) (key : SessionKey)
    (operations : List ProtocolOperation) :
    (∀ event ∈ trace (perform lib) (new lib.terminal key) operations, ∀ delivered,
        event.output.advance? = some delivered → DeliversControls event delivered) ↔
      ∀ event ∈ trace (perform lib) (new lib.terminal key) operations,
        event.output.advance?.isSome → KeepsControls event := by
  have perStep (event : ProtocolStep lib)
      (member : event ∈ trace (perform lib) (new lib.terminal key) operations) (delivered : StateUpdate)
      (advanced : event.output.advance? = some delivered) :
      DeliversControls event delivered ↔ KeepsControls event := by
    have invariant : RemoteInvariant event.before := by
      apply invariant_before _ RemoteInvariant _ (RemoteInvariant.initial lib.terminal key) member
      intro protocol operation holds
      exact holds.perform lawful.terminal.toLawfulParser operation
    have step := step_of_mem _ member
    have advancedStep : (event.before.perform lib event.input).1.advance? = some delivered := by
      rw [step]
      exact advanced
    obtain ⟨diff, built, carried, formed⟩ := perform_advance_diff lawful invariant advancedStep
    rw [step] at built formed
    exact delivers_controls_iff lawful invariant built carried formed
  constructor
  · intro delivers event member advanced
    obtain ⟨delivered, found⟩ := Option.isSome_iff_exists.mp advanced
    exact (perStep event member delivered found).mp (delivers event member delivered found)
  · intro keeps event member delivered found
    exact (perStep event member delivered found).mpr
      (keeps event member (Option.isSome_iff_exists.mpr ⟨delivered, found⟩))

def printAndBell (base target : UInt64) (bytes : Bytes) : StateUpdate :=
  { StateUpdate.new base target 0 with
    delta := (InstructionBatch.mk
      [hostBytesInstruction bytes, sessionControlInstruction { kind := 7, payload := [] }]).encodeBytes }

def continuingRun : List ProtocolOperation :=
  (plainPackets [printAndBell 0 1 [0x61], printAndBell 1 2 [0x62]]).map .ingestPacket

theorem continuing_controls_delivered :
    (∀ event ∈ trace (perform plainLibraries) (new lineTerminal zeroKey) continuingRun, ∀ delivered,
        event.output.advance? = some delivered → DeliversControls event delivered) ∧
      (final (perform plainLibraries) (new lineTerminal zeroKey) continuingRun).latestRemoteState = 2 :=
  ⟨(controls_delivered_iff lawful_plain_libraries zeroKey continuingRun).mpr (by decide +kernel),
    by decide +kernel⟩

/-- The second update replaces what the first one printed and carries a control. -/
def replacingRun : List ProtocolOperation :=
  (plainPackets [printAndBell 0 1 [0x61], printAndBell 0 2 [0x62]]).map .ingestPacket

theorem replacing_control_is_lost :
    ¬ ∀ event ∈ trace (perform plainLibraries) (new lineTerminal zeroKey) replacingRun, ∀ delivered,
      event.output.advance? = some delivered → DeliversControls event delivered := by
  have lost : ¬ ∀ event ∈ trace (perform plainLibraries) (new lineTerminal zeroKey) replacingRun,
      ∀ delivered ∈ event.output.advance?, DeliversControls event delivered := by
    decide +kernel
  exact lost

end ClientProtocol

end FerrumTty.Session
