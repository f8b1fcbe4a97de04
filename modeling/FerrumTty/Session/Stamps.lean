import FerrumTty.Session.Outgoing

/-!
# Timestamps of datagrams

Every datagram starts with the time of its sender and the last time that the sender has heard.
The building methods put the time they are given into all datagrams of their message, and a
receipt reports the echo that stands in front of the plaintext.
-/

namespace FerrumTty.Session

set_option autoImplicit false

open Crypto Wire State

/-- The time that the sender put in front of an authenticated plaintext. -/
def sentStamp (authenticated : AuthenticatedPacket) : UInt16 :=
  readWord16 (authenticated.plaintext.take 2)

/-- The time behind it, which echoes one that the sender has received. -/
def echoedStamp (authenticated : AuthenticatedPacket) : UInt16 :=
  readWord16 ((authenticated.plaintext.drop 2).take 2)

/-- The datagram opens at the server and carries the time in front. -/
def CarriesStamp (aead : Aead) (key : SessionKey) (datagram : Bytes) (stamp : UInt16) : Prop :=
  ∃ authenticated, (SecureChannel.new .server key).openPacket aead datagram = .ok authenticated ∧
    sentStamp authenticated = stamp

theorem CarriesStamp.unique {aead : Aead} {key : SessionKey} {datagram : Bytes} {left right : UInt16}
    (first : CarriesStamp aead key datagram left) (second : CarriesStamp aead key datagram right) :
    left = right := by
  obtain ⟨authenticated, opened, stamp⟩ := first
  obtain ⟨other, openedOther, stampOther⟩ := second
  rw [opened] at openedOther
  cases openedOther
  exact stamp.symm.trans stampOther

theorem encoded_stamp (fragment : Fragment) :
    readWord16 (fragment.encode.take 2) = fragment.header.sentTimestamp := by
  have front : fragment.encode.take 2 = writeWord16 fragment.header.sentTimestamp := by
    rw [Fragment.encode, List.append_assoc, List.append_assoc, List.append_assoc]
    exact List.take_left' (write_word16_length _)
  rw [front, read_write_word16]

namespace ClientProtocol

section Building

variable {lib : Libraries} {protocol after : ClientProtocol lib.terminal} {key : SessionKey}
  {sentTimestamp : UInt16} {packets : List Bytes}

theorem seal_update_stamped (lawful : LawfulAead lib.aead) (sealsWith : SealsWith key protocol)
    {update : StateUpdate} {stateId : UInt64}
    (sealed : protocol.sealUpdate lib sentTimestamp update stateId = (.ok packets, after)) :
    ∀ packet ∈ packets, CarriesStamp lib.aead key packet sentTimestamp := by
  intro packet member
  unfold sealUpdate at sealed
  split at sealed
  · cases sealed
  · rename_i compressed _
    cases written : sealFragments lib.aead protocol.secureChannel compressed sentTimestamp
        protocol.latestPeerTimestamp stateId with
    | mk result channel =>
        rw [written] at sealed
        cases sealed
        have opened := ((seal_fragments_opens lawful sealsWith written).2 packets rfl).2
        obtain ⟨index, bound, place⟩ := List.getElem_of_mem member
        obtain ⟨counter, opens⟩ := opened.get bound (opened.length_eq ▸ bound)
        rw [← place]
        refine ⟨_, opens, ?_⟩
        change readWord16 (List.take 2 (Fragment.encode _)) = sentTimestamp
        rw [encoded_stamp]
        simp [Fragment.pieces, Fragment.pieceAt]

theorem build_acknowledgement_stamped (lawful : LawfulAead lib.aead) (sealsWith : SealsWith key protocol)
    (built : protocol.buildAcknowledgement lib sentTimestamp = (.ok packets, after)) :
    ∀ packet ∈ packets, CarriesStamp lib.aead key packet sentTimestamp := by
  unfold buildAcknowledgement at built
  split at built
  · exact seal_update_stamped lawful sealsWith built
  · cases built

theorem build_state_update_stamped (lawful : LawfulAead lib.aead) (sealsWith : SealsWith key protocol)
    {instructions : InstructionBatch} {targetState : UInt64}
    (built : protocol.buildStateUpdate lib sentTimestamp instructions targetState =
      (.ok packets, after)) :
    ∀ packet ∈ packets, CarriesStamp lib.aead key packet sentTimestamp := by
  unfold buildStateUpdate at built
  split at built
  · split at built
    · cases built
    · rename_i sealed
      cases built
      exact seal_update_stamped lawful sealsWith sealed
  · cases built

theorem build_update_stamped (lawful : LawfulAead lib.aead) (sealsWith : SealsWith key protocol)
    {instructions : InstructionBatch}
    (built : protocol.buildUpdate lib sentTimestamp instructions = (.ok packets, after)) :
    ∀ packet ∈ packets, CarriesStamp lib.aead key packet sentTimestamp := by
  unfold buildUpdate at built
  dsimp only at built
  split_ifs at built
  · cases built
  · split at built
    · cases built
    · rename_i sealed
      cases built
      exact build_state_update_stamped lawful sealsWith sealed

theorem build_shutdown_stamped (lawful : LawfulAead lib.aead) (sealsWith : SealsWith key protocol)
    {instructions : InstructionBatch}
    (built : protocol.buildShutdown lib sentTimestamp instructions = (.ok packets, after)) :
    ∀ packet ∈ packets, CarriesStamp lib.aead key packet sentTimestamp := by
  unfold buildShutdown at built
  split_ifs at built
  · cases built
  · exact build_state_update_stamped lawful sealsWith built

theorem build_shutdown_ack_stamped (lawful : LawfulAead lib.aead) (sealsWith : SealsWith key protocol)
    (built : protocol.buildShutdownAck lib sentTimestamp = (.ok packets, after)) :
    ∀ packet ∈ packets, CarriesStamp lib.aead key packet sentTimestamp := by
  unfold buildShutdownAck at built
  split_ifs at built
  · cases built
  · exact seal_update_stamped lawful sealsWith built

theorem retransmit_pending_stamped (lawful : LawfulAead lib.aead) (sealsWith : SealsWith key protocol)
    (built : protocol.retransmitPending lib sentTimestamp = (.ok packets, after)) :
    ∀ packet ∈ packets, CarriesStamp lib.aead key packet sentTimestamp := by
  unfold retransmitPending at built
  split_ifs at built
  · cases built
  · split at built
    · exact seal_update_stamped lawful sealsWith built
    · cases built

end Building

section Receipts

variable {lib : Libraries} {protocol : ClientProtocol lib.terminal}

theorem handle_message_echo {authenticated : AuthenticatedPacket} {header : FragmentHeader}
    {compressed : Bytes} {receipt : PacketReceipt}
    (handled : (protocol.handleMessage lib authenticated header compressed).1 = .ok receipt) :
    receipt.echoedTimestamp = header.echoedTimestamp := by
  unfold handleMessage at handled
  split at handled
  · cases handled
  · split at handled
    · cases handled
    · cases handled
      rfl

theorem handle_fragment_echo {authenticated : AuthenticatedPacket} {fragment : Fragment}
    {receipt : PacketReceipt}
    (handled : (protocol.handleFragment lib authenticated fragment).1 = .ok receipt) :
    receipt.echoedTimestamp = fragment.header.echoedTimestamp := by
  unfold handleFragment at handled
  dsimp only at handled
  split_ifs at handled
  split at handled
  · cases handled
  · cases handled
    rfl
  · exact handle_message_echo handled

theorem ingest_echo {packet : Bytes} {authenticated : AuthenticatedPacket} {receipt : PacketReceipt}
    (opened : protocol.secureChannel.openPacket lib.aead packet = .ok authenticated)
    (ingested : (protocol.ingestPacket lib packet).1 = .ok receipt) :
    receipt.echoedTimestamp = echoedStamp authenticated := by
  rw [ingestPacket, opened] at ingested
  dsimp only at ingested
  split_ifs at ingested
  unfold handlePlaintext at ingested
  dsimp only at ingested
  split_ifs at ingested
  · cases ingested
    rfl
  · split at ingested
    · cases ingested
    · rename_i fragment parsed
      rw [handle_fragment_echo ingested]
      unfold Fragment.parse at parsed
      dsimp only at parsed
      split_ifs at parsed
      cases parsed
      rfl

end Receipts

end ClientProtocol

end FerrumTty.Session
