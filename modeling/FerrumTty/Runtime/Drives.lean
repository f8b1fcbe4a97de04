import FerrumTty.Runtime.Receives

/-!
# The runtime drives the protocol through its methods

Whatever a method of the runtime does, it changes the protocol only by calls of the
protocol's own methods. What those preserve, runs of the runtime preserve.
-/

namespace FerrumTty.Runtime

set_option autoImplicit false

open Crypto Wire State Session Runs

namespace SessionRuntime

variable (lib : Libraries)

def Drives (before after : ClientProtocol lib.terminal) : Prop :=
  ∃ operations, after = final (ClientProtocol.perform lib) before operations

variable {lib}

theorem Drives.refl (protocol : ClientProtocol lib.terminal) : Drives lib protocol protocol := ⟨[], rfl⟩

theorem Drives.trans {first second third : ClientProtocol lib.terminal}
    (earlier : Drives lib first second) (later : Drives lib second third) : Drives lib first third := by
  obtain ⟨operations, reached⟩ := earlier
  obtain ⟨others, reachedLater⟩ := later
  exact ⟨operations ++ others, by rw [final_append, ← reached, reachedLater]⟩

theorem drives_perform (protocol : ClientProtocol lib.terminal) (operation : ProtocolOperation) :
    Drives lib protocol (protocol.perform lib operation).2 := ⟨[operation], rfl⟩

theorem Drives.invariant {before after : ClientProtocol lib.terminal} (drives : Drives lib before after)
    {invariant : ClientProtocol lib.terminal → Prop} (holds : invariant before)
    (preserved : ∀ protocol operation, invariant protocol →
      invariant (protocol.perform lib operation).2) : invariant after := by
  obtain ⟨operations, reached⟩ := drives
  rw [reached]
  exact invariant_final _ invariant preserved holds operations

section Poll

variable (runtime : SessionRuntime lib.terminal) (now : MonotonicTime)

theorem build_queued_packets_drives (instructions : InstructionBatch) :
    Drives lib runtime.protocol (runtime.buildQueuedPackets lib instructions now).2 := by
  unfold buildQueuedPackets
  split_ifs
  · exact drives_perform _ (.buildShutdownAck _)
  · exact drives_perform _ (.buildShutdown _ _)
  · exact drives_perform _ (.buildUpdate _ _)

theorem build_queued_update_drives :
    Drives lib runtime.protocol (runtime.buildQueuedUpdate lib now).2.protocol := by
  have built := build_queued_packets_drives
    { runtime with queuedInstructions := [], queuedInputBytes := 0, acknowledgementDue := false }
    now { instructions := runtime.queuedInstructions }
  unfold buildQueuedUpdate
  dsimp only at built ⊢
  cases outcome : buildQueuedPackets lib
      { runtime with queuedInstructions := [], queuedInputBytes := 0, acknowledgementDue := false }
      { instructions := runtime.queuedInstructions } now with
  | mk result protocol =>
      rw [outcome] at built
      cases result <;> exact built

theorem completion_protocol (counted : SessionRuntime lib.terminal) :
    counted.completePeerShutdownAfterAck.2.protocol = counted.protocol := by
  unfold completePeerShutdownAfterAck
  split_ifs <;> rfl

theorem record_transmission_protocol (sent : SessionRuntime lib.terminal) :
    sent.recordShutdownTransmission.protocol = sent.protocol := by
  unfold recordShutdownTransmission
  split <;> rfl

theorem poll_queued_drives : Drives lib runtime.protocol (runtime.pollQueued lib now).2.protocol := by
  have built := build_queued_update_drives runtime now
  unfold pollQueued
  cases outcome : runtime.buildQueuedUpdate lib now with
  | mk result after =>
      rw [outcome] at built
      cases result with
      | error error => exact built
      | ok sent =>
          dsimp only
          rw [completion_protocol, record_transmission_protocol]
          exact built

theorem poll_pending_drives : Drives lib runtime.protocol (runtime.pollPending lib now).2.protocol := by
  have built := drives_perform runtime.protocol (.retransmitPending (timestamp now))
  simp only [ClientProtocol.perform] at built
  unfold pollPending
  split_ifs
  · exact .refl _
  · cases outcome : runtime.protocol.retransmitPending lib (timestamp now) with
    | mk result protocol =>
        rw [outcome] at built
        cases result with
        | error error => exact built
        | ok packets =>
            dsimp only
            rw [completion_protocol, record_transmission_protocol]
            exact built

theorem poll_heartbeat_drives :
    Drives lib runtime.protocol (runtime.pollHeartbeat lib now).2.protocol := by
  have built := drives_perform runtime.protocol (.buildAcknowledgement (timestamp now))
  simp only [ClientProtocol.perform] at built
  unfold pollHeartbeat
  split_ifs
  · exact .refl _
  · cases outcome : runtime.protocol.buildAcknowledgement lib (timestamp now) with
    | mk result protocol =>
        rw [outcome] at built
        cases result with
        | error error => exact built
        | ok packets =>
            dsimp only
            rw [completion_protocol]
            exact built

theorem poll_send_drives : Drives lib runtime.protocol (runtime.pollSend lib now).2.protocol := by
  unfold pollSend
  dsimp only
  split_ifs
  · exact poll_queued_drives runtime now
  · exact poll_pending_drives runtime now
  · exact poll_heartbeat_drives runtime now

theorem poll_session_drives (actions : List SessionAction) :
    Drives lib runtime.protocol (runtime.pollSession lib now actions).2.protocol := by
  unfold pollSession
  split_ifs
  · exact .refl _
  · exact .refl _
  · have kept : (runtime.connectionStateAction now).2.protocol = runtime.protocol := by
      unfold connectionStateAction
      split_ifs <;> rfl
    dsimp only
    rw [← kept]
    exact poll_send_drives _ now

theorem poll_drives : Drives lib runtime.protocol (runtime.poll lib now).2.protocol := by
  unfold poll
  split_ifs
  · exact .refl _
  · exact .refl _
  · have opened : Drives lib runtime.protocol (runtime.pollAssociation lib now).2.protocol := by
      have built := drives_perform runtime.protocol (.buildAssociation (timestamp now))
      simp only [ClientProtocol.perform] at built
      unfold pollAssociation
      split_ifs
      · cases outcome : runtime.protocol.buildAssociation lib (timestamp now) with
        | mk result protocol =>
            rw [outcome] at built
            cases result <;> exact built
      · exact .refl _
    cases outcome : runtime.pollAssociation lib now with
    | mk result middle =>
        rw [outcome] at opened
        cases result with
        | error error => exact opened
        | ok actions => exact opened.trans (poll_session_drives middle now actions)

end Poll

theorem receive_datagram_drives (runtime : SessionRuntime lib.terminal) (packet : Bytes)
    (now : MonotonicTime) :
    Drives lib runtime.protocol (runtime.receiveDatagram lib packet now).2.protocol := by
  have ingested := drives_perform runtime.protocol (.ingestPacket packet)
  simp only [ClientProtocol.perform] at ingested
  unfold receiveDatagram
  split
  · exact .refl _
  · dsimp only
    split
    · exact ingested
    · rename_i receipt _
      rw [(handle_receipt_notes lib _ _ receipt now).protocol]
      exact ingested

theorem HostMove.drives {before after : ClientProtocol lib.terminal} (move : HostMove before after) :
    Drives lib before after := by
  cases move with
  | kept => exact .refl _
  | viewport columns rows => exact drives_perform _ (.setInitialRemoteViewport columns rows)
  | capabilities capabilities => exact drives_perform _ (.setLocalCapabilities capabilities)

theorem step_drives (runtime : SessionRuntime lib.terminal) (operation : SessionOperation) :
    Drives lib runtime.protocol (runtime.perform lib operation).2.protocol := by
  rcases step_cases lib runtime operation with ⟨output, after, outcome, kind⟩
  have reached : (perform lib runtime operation).2 = after := congrArg Step.after outcome
  rw [reached]
  cases kind with
  | poll now => exact poll_drives runtime now
  | receive packet now => exact receive_datagram_drives runtime packet now
  | request now running opened => exact .refl _
  | host other step => exact step.protocol.drives

theorem run_drives (runtime : SessionRuntime lib.terminal) (operations : List SessionOperation) :
    Drives lib runtime.protocol (final (perform lib) runtime operations).protocol := by
  induction operations generalizing runtime with
  | nil => exact .refl _
  | cons operation rest induction => exact (step_drives runtime operation).trans (induction _)

theorem run_seals_with (lawful : LawfulAead lib.aead) (key : SessionKey) (start : MonotonicTime)
    (operations : List SessionOperation) :
    ClientProtocol.SealsWith key
      (final (perform lib) (new lib.terminal key start) operations).protocol := by
  apply (run_drives (new lib.terminal key start) operations).invariant
    (ClientProtocol.new_seals_with lib.terminal key)
  intro protocol operation seals
  exact seals.perform lawful operation

theorem protocol_invariant {key : SessionKey} {start : MonotonicTime}
    {operations : List SessionOperation} {event : RuntimeStep lib}
    (member : event ∈ trace (perform lib) (new lib.terminal key start) operations)
    {invariant : ClientProtocol lib.terminal → Prop} (initially : invariant (.new lib.terminal key))
    (preserved : ∀ protocol operation, invariant protocol →
      invariant (protocol.perform lib operation).2) : invariant event.before.protocol := by
  obtain ⟨earlier, input, later, _, same⟩ := (mem_trace_iff _ _ _ event).mp member
  rw [same]
  exact (run_drives _ earlier).invariant initially preserved

theorem seals_with_run (lawful : LawfulAead lib.aead) {key : SessionKey} {start : MonotonicTime}
    {operations : List SessionOperation} {event : RuntimeStep lib}
    (member : event ∈ trace (perform lib) (new lib.terminal key start) operations) :
    ClientProtocol.SealsWith key event.before.protocol := by
  apply protocol_invariant member (ClientProtocol.new_seals_with lib.terminal key)
  intro protocol operation seals
  exact seals.perform lawful operation

end SessionRuntime

end FerrumTty.Runtime
