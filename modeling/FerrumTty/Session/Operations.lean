import FerrumTty.Library.Runs
import FerrumTty.Session.ClientProtocol

/-!
# Runs of the client protocol

The public methods of `ClientProtocol` as one machine, and what each method leaves alone.
-/

namespace FerrumTty.Session

set_option autoImplicit false

open Crypto Wire State Runs

inductive ProtocolOperation where
  | buildAssociation (sentTimestamp : UInt16)
  | buildAcknowledgement (sentTimestamp : UInt16)
  | buildUpdate (sentTimestamp : UInt16) (instructions : InstructionBatch)
  | buildShutdown (sentTimestamp : UInt16) (instructions : InstructionBatch)
  | buildShutdownAck (sentTimestamp : UInt16)
  | retransmitPending (sentTimestamp : UInt16)
  | ingestPacket (packet : Bytes)
  | setLocalCapabilities (capabilities : Bytes)
  | setInitialRemoteViewport (columns rows : UInt16)

/-- The methods that decide about what was received. -/
def ProtocolOperation.isInbound : ProtocolOperation → Bool
  | .ingestPacket _ => true
  | .setInitialRemoteViewport .. => true
  | _ => false

inductive ProtocolOutput where
  | packets (result : Except SessionError (List Bytes))
  | receipt (result : Except SessionError PacketReceipt)
  | nothing

namespace ClientProtocol

def perform (lib : Libraries) (protocol : ClientProtocol lib.terminal) :
    ProtocolOperation → ProtocolOutput × ClientProtocol lib.terminal
  | .buildAssociation sentTimestamp =>
      let (result, protocol) := protocol.buildAssociation lib sentTimestamp
      (.packets result, protocol)
  | .buildAcknowledgement sentTimestamp =>
      let (result, protocol) := protocol.buildAcknowledgement lib sentTimestamp
      (.packets result, protocol)
  | .buildUpdate sentTimestamp instructions =>
      let (result, protocol) := protocol.buildUpdate lib sentTimestamp instructions
      (.packets result, protocol)
  | .buildShutdown sentTimestamp instructions =>
      let (result, protocol) := protocol.buildShutdown lib sentTimestamp instructions
      (.packets result, protocol)
  | .buildShutdownAck sentTimestamp =>
      let (result, protocol) := protocol.buildShutdownAck lib sentTimestamp
      (.packets result, protocol)
  | .retransmitPending sentTimestamp =>
      let (result, protocol) := protocol.retransmitPending lib sentTimestamp
      (.packets result, protocol)
  | .ingestPacket packet =>
      let (result, protocol) := protocol.ingestPacket lib packet
      (.receipt result, protocol)
  | .setLocalCapabilities capabilities => (.nothing, protocol.setLocalCapabilities capabilities)
  | .setInitialRemoteViewport columns rows => (.nothing, protocol.setInitialRemoteViewport columns rows)

abbrev ProtocolStep (lib : Libraries) :=
  Step (ClientProtocol lib.terminal) ProtocolOperation ProtocolOutput

def after (lib : Libraries) (key : SessionKey) (operations : List ProtocolOperation) :
    ClientProtocol lib.terminal :=
  final (perform lib) (new lib.terminal key) operations

theorem final_ingest_packets (lib : Libraries) (protocol : ClientProtocol lib.terminal)
    (packets : List Bytes) :
    final (perform lib) protocol (packets.map .ingestPacket) =
      final (ingestPacket lib) protocol packets := by
  induction packets generalizing protocol with
  | nil => rfl
  | cons packet rest induction =>
      rw [List.map_cons, final_cons, final_cons]
      exact induction _

/-- Two protocols that hold the same remote states. -/
structure SameRemote {terminal : Terminal} (before after : ClientProtocol terminal) : Prop where
  latest : after.latestRemoteState = before.latestRemoteState
  received : after.receivedStates = before.receivedStates
  delivered : after.deliveredRemoteState = before.deliveredRemoteState
  floor : after.remoteThrowawayFloor = before.remoteThrowawayFloor

namespace SameRemote

variable {terminal : Terminal} {first second third : ClientProtocol terminal}

theorem refl (protocol : ClientProtocol terminal) : SameRemote protocol protocol :=
  ⟨rfl, rfl, rfl, rfl⟩

theorem trans (earlier : SameRemote first second) (later : SameRemote second third) :
    SameRemote first third :=
  ⟨later.latest.trans earlier.latest, later.received.trans earlier.received,
    later.delivered.trans earlier.delivered, later.floor.trans earlier.floor⟩

end SameRemote

def channelAt (channel : SecureChannel) (counter : Option UInt64) : SecureChannel :=
  { channel with nextCounter := counter }

/-- What the building methods leave alone: everything that received packets decide. -/
structure SameInbound {terminal : Terminal} (before after : ClientProtocol terminal) : Prop extends
    SameRemote before after where
  assemblies : after.assemblies = before.assemblies
  window : after.replayWindow = before.replayWindow
  channel : ∃ counter, after.secureChannel = channelAt before.secureChannel counter

theorem SameInbound.refl {terminal : Terminal} (protocol : ClientProtocol terminal) :
    SameInbound protocol protocol :=
  ⟨.refl protocol, rfl, rfl, protocol.secureChannel.nextCounter, rfl⟩

section Frame

variable (lib : Libraries) (protocol : ClientProtocol lib.terminal)

theorem seal_next_frame (aead : Aead) (channel : SecureChannel) (plaintext : Bytes) :
    ∃ counter, (channel.sealNext aead plaintext).2 = channelAt channel counter := by
  unfold SecureChannel.sealNext
  split
  · exact ⟨channel.nextCounter, rfl⟩
  · dsimp only
    split
    · exact ⟨channel.nextCounter, rfl⟩
    · exact ⟨_, rfl⟩

theorem seal_all_cons {aead : Aead} {channel last : SecureChannel} {fragment : Fragment}
    {rest : List Fragment} {packets : List Bytes}
    (sealed : sealAll aead channel (fragment :: rest) = (.ok packets, last)) :
    ∃ packet others middle, channel.sealNext aead fragment.encode = (.ok packet, middle) ∧
      sealAll aead middle rest = (.ok others, last) ∧ packets = packet :: others := by
  rw [sealAll] at sealed
  cases first : channel.sealNext aead fragment.encode with
  | mk result middle =>
      rw [first] at sealed
      cases result with
      | error error => cases sealed
      | ok packet =>
          dsimp only at sealed
          cases others : sealAll aead middle rest with
          | mk outcome final =>
              rw [others] at sealed
              cases outcome with
              | error error => cases sealed
              | ok written =>
                  cases sealed
                  exact ⟨packet, written, middle, rfl, others, rfl⟩

theorem seal_all_frame (aead : Aead) (channel : SecureChannel) (fragments : List Fragment) :
    ∃ counter, (sealAll aead channel fragments).2 = channelAt channel counter := by
  induction fragments generalizing channel with
  | nil => exact ⟨channel.nextCounter, rfl⟩
  | cons fragment rest induction =>
      obtain ⟨counter, moved⟩ := seal_next_frame aead channel fragment.encode
      obtain ⟨last, movedAgain⟩ := induction (channelAt channel counter)
      rw [sealAll]
      cases sealed : channel.sealNext aead fragment.encode with
      | mk result next =>
          rw [sealed] at moved
          dsimp only at moved
          subst moved
          cases result with
          | error error => exact ⟨counter, rfl⟩
          | ok packet =>
              refine ⟨last, ?_⟩
              cases sealedRest : sealAll aead (channelAt channel counter) rest with
              | mk restResult final =>
                  rw [sealedRest] at movedAgain
                  dsimp only
                  rw [sealedRest]
                  cases restResult <;> exact movedAgain

theorem seal_fragments_frame (aead : Aead) (channel : SecureChannel) (compressed : Bytes)
    (sentTimestamp : UInt16) (latestPeerTimestamp : Option UInt16) (stateId : UInt64) :
    ∃ counter, (sealFragments aead channel compressed sentTimestamp latestPeerTimestamp stateId).2 =
      channelAt channel counter := by
  unfold sealFragments
  split
  · exact ⟨channel.nextCounter, rfl⟩
  · exact seal_all_frame aead channel _

theorem seal_update_frame (sentTimestamp : UInt16) (update : StateUpdate) (stateId : UInt64) :
    ∃ counter, (protocol.sealUpdate lib sentTimestamp update stateId).2 =
      { protocol with secureChannel := channelAt protocol.secureChannel counter } := by
  unfold sealUpdate
  split
  · exact ⟨protocol.secureChannel.nextCounter, rfl⟩
  · rename_i compressed _
    obtain ⟨counter, moved⟩ := seal_fragments_frame lib.aead protocol.secureChannel compressed
      sentTimestamp protocol.latestPeerTimestamp stateId
    exact ⟨counter, by rw [← moved]⟩

theorem seal_update_inbound (sentTimestamp : UInt16) (update : StateUpdate) (stateId : UInt64) :
    SameInbound protocol (protocol.sealUpdate lib sentTimestamp update stateId).2 := by
  obtain ⟨counter, moved⟩ := seal_update_frame lib protocol sentTimestamp update stateId
  rw [moved]
  exact ⟨⟨rfl, rfl, rfl, rfl⟩, rfl, rfl, counter, rfl⟩

theorem build_acknowledgement_inbound (sentTimestamp : UInt16) :
    SameInbound protocol (protocol.buildAcknowledgement lib sentTimestamp).2 := by
  unfold buildAcknowledgement
  split
  · exact seal_update_inbound lib protocol _ _ _
  · exact .refl protocol

theorem build_state_update_inbound (sentTimestamp : UInt16) (instructions : InstructionBatch)
    (targetState : UInt64) :
    SameInbound protocol (protocol.buildStateUpdate lib sentTimestamp instructions targetState).2 := by
  unfold buildStateUpdate
  split
  · rename_i front back _ _
    have sealedFrame := seal_update_inbound lib protocol sentTimestamp
      (protocol.stateUpdate front back instructions targetState) targetState
    split
    · rename_i error next sealed
      rwa [sealed] at sealedFrame
    · rename_i packets next sealed
      rw [sealed] at sealedFrame
      exact ⟨⟨sealedFrame.latest, sealedFrame.received, sealedFrame.delivered, sealedFrame.floor⟩,
        sealedFrame.assemblies, sealedFrame.window, sealedFrame.channel⟩
  · exact .refl protocol

theorem build_update_inbound (sentTimestamp : UInt16) (instructions : InstructionBatch) :
    SameInbound protocol (protocol.buildUpdate lib sentTimestamp instructions).2 := by
  unfold buildUpdate
  dsimp only
  split_ifs
  · exact .refl protocol
  · have built := build_state_update_inbound lib protocol sentTimestamp instructions
      protocol.nextLocalState
    split
    · rename_i error next failed
      rwa [failed] at built
    · rename_i packets next succeeded
      rw [succeeded] at built
      exact ⟨⟨built.latest, built.received, built.delivered, built.floor⟩, built.assemblies,
        built.window, built.channel⟩

theorem build_shutdown_inbound (sentTimestamp : UInt16) (instructions : InstructionBatch) :
    SameInbound protocol (protocol.buildShutdown lib sentTimestamp instructions).2 := by
  unfold buildShutdown
  split_ifs
  · exact .refl protocol
  · exact build_state_update_inbound lib protocol _ _ _

theorem build_shutdown_ack_inbound (sentTimestamp : UInt16) :
    SameInbound protocol (protocol.buildShutdownAck lib sentTimestamp).2 := by
  unfold buildShutdownAck
  split_ifs
  · exact .refl protocol
  · exact seal_update_inbound lib protocol _ _ _

theorem retransmit_pending_inbound (sentTimestamp : UInt16) :
    SameInbound protocol (protocol.retransmitPending lib sentTimestamp).2 := by
  unfold retransmitPending
  split_ifs
  · exact .refl protocol
  · split
    · exact seal_update_inbound lib protocol _ _ _
    · exact .refl protocol

theorem process_acknowledgement_inbound {terminal : Terminal} (protocol : ClientProtocol terminal)
    (acknowledgedState : UInt64) :
    SameInbound protocol (protocol.processAcknowledgement acknowledgedState) := by
  unfold processAcknowledgement
  split
  · exact .refl protocol
  · dsimp only
    split_ifs <;> exact ⟨⟨rfl, rfl, rfl, rfl⟩, rfl, rfl, _, rfl⟩

theorem perform_outbound (operation : ProtocolOperation) (outbound : operation.isInbound = false) :
    SameInbound protocol (protocol.perform lib operation).2 ∧
      ∀ receipt, (protocol.perform lib operation).1 ≠ .receipt receipt := by
  cases operation with
  | buildAssociation sentTimestamp =>
      exact ⟨build_acknowledgement_inbound lib protocol sentTimestamp, by simp [perform]⟩
  | buildAcknowledgement sentTimestamp =>
      exact ⟨build_acknowledgement_inbound lib protocol sentTimestamp, by simp [perform]⟩
  | buildUpdate sentTimestamp instructions =>
      exact ⟨build_update_inbound lib protocol sentTimestamp instructions, by simp [perform]⟩
  | buildShutdown sentTimestamp instructions =>
      exact ⟨build_shutdown_inbound lib protocol sentTimestamp instructions, by simp [perform]⟩
  | buildShutdownAck sentTimestamp =>
      exact ⟨build_shutdown_ack_inbound lib protocol sentTimestamp, by simp [perform]⟩
  | retransmitPending sentTimestamp =>
      exact ⟨retransmit_pending_inbound lib protocol sentTimestamp, by simp [perform]⟩
  | ingestPacket packet => cases outbound
  | setLocalCapabilities capabilities =>
      exact ⟨⟨⟨rfl, rfl, rfl, rfl⟩, rfl, rfl, _, rfl⟩, by simp [perform]⟩
  | setInitialRemoteViewport columns rows => cases outbound

end Frame

end ClientProtocol

end FerrumTty.Session
