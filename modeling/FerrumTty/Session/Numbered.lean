import FerrumTty.Library.Ascending
import FerrumTty.Session.Outgoing

/-!
# The numbers of the datagrams

Every datagram is sealed under a counter of its own, also when its message is sent again. The
counters of a call lie between those of the channel before it and behind it.
-/

namespace FerrumTty.Session

set_option autoImplicit false

open Crypto Wire State Runs

theorem fragment_encode_length (fragment : Fragment) :
    fragment.encode.length = FRAGMENT_HEADER_BYTES + fragment.body.length := by
  rw [Fragment.encode]
  simp [FRAGMENT_HEADER_BYTES]
  omega

def wireNumber (packet : Bytes) : Nat := (wireCounter packet).toNat

/-- A fragment as the client puts it on the wire. -/
structure Datagram (aead : Aead) (key : SessionKey) (packet : Bytes) (fragment : Fragment) : Prop where
  opens : ClientProtocol.OpensAs aead (.new .server key) packet fragment
  length : packet.length = MINIMUM_PACKET_BYTES + fragment.encode.length

/-- Datagrams under ascending counters, each of them a fragment within the limits. -/
structure Numbered (aead : Aead) (key : SessionKey) (first last : Nat) (packets : List Bytes) :
    Prop where
  ascending : Ascending wireNumber first last packets
  shaped : ∀ packet ∈ packets, ∃ fragment, Datagram aead key packet fragment ∧
    fragment.header.index.toNat < 2 ^ 15 ∧ fragment.body.length ≤ MAX_FRAGMENT_BODY_BYTES

namespace Numbered

variable {aead : Aead} {key : SessionKey} {first middle last : Nat} {packets others : List Bytes}

theorem empty (aead : Aead) (key : SessionKey) (first last : Nat) : Numbered aead key first last [] where
  ascending := .empty _ _ _
  shaped := by
    intro packet member
    cases member

theorem widen (numbered : Numbered aead key middle last packets) {lower upper : Nat}
    (below : lower ≤ middle) (above : last ≤ upper) : Numbered aead key lower upper packets where
  ascending := numbered.ascending.widen below above
  shaped := numbered.shaped

theorem append (earlier : Numbered aead key first middle packets)
    (later : Numbered aead key middle last others) (forward : first ≤ middle) (onward : middle ≤ last) :
    Numbered aead key first last (packets ++ others) where
  ascending := earlier.ascending.append later.ascending forward onward
  shaped := by
    intro packet member
    rcases List.mem_append.mp member with early | late
    · exact earlier.shaped packet early
    · exact later.shaped packet late

theorem sublist (numbered : Numbered aead key first last packets) (part : others.Sublist packets) :
    Numbered aead key first last others where
  ascending := numbered.ascending.sublist part
  shaped := fun packet member => numbered.shaped packet (part.subset member)

end Numbered

theorem wire_number_of_nonce {packet other : Bytes} (same : wireNonce packet = wireNonce other) :
    wireNumber packet = wireNumber other := by
  have starts : packet.take PACKET_PREFIX_BYTES = other.take PACKET_PREFIX_BYTES :=
    make_nonce_injective same
  rw [wireNumber, wireNumber, wireCounter, wireCounter, starts]

namespace ClientProtocol

section Sealing

variable {aead : Aead} {key : SessionKey} {count : Nat}

theorem seal_next_datagram (lawful : LawfulAead aead) (fragment : Fragment) :
    (∃ error, (channelAfter .client key count).sealNext aead fragment.encode =
        (.error error, channelAfter .client key count)) ∨
      ∃ packet, (channelAfter .client key count).sealNext aead fragment.encode =
          (.ok packet, channelAfter .client key (count + 1)) ∧
        wireNumber packet = count ∧ Datagram aead key packet fragment := by
  rcases seal_next_cases aead .client key count fragment.encode with
    ⟨error, failed, _⟩ | ⟨counter, ciphertext, present, encrypted, succeeded⟩
  · exact Or.inl ⟨error, failed⟩
  · obtain ⟨number, bounded⟩ := counter_at_some present
    have opens := open_sealed aead lawful (channelAfter .client key count) (.new .server key) counter
      bounded fragment.encode ciphertext rfl encrypted
    have toServer : ¬ (channelAfter .client key count).outboundDirection ≠
        (SecureChannel.new .server key).inboundDirection := not_not.mpr rfl
    rw [if_neg toServer] at opens
    have tagged := lawful.ciphertext_length _ _ _ _ encrypted
    have prefixLength : ((channelAfter .client key count).packetPrefix counter).length =
        PACKET_PREFIX_BYTES := BigEndian.encode_length _ _
    refine Or.inr ⟨_, succeeded, ?_, ⟨counter, opens⟩, ?_⟩
    · rw [wireNumber, wireCounter, packet_prefix_take, packet_prefix_decode _ _ bounded]
      exact number
    · rw [List.length_append, prefixLength, tagged, MINIMUM_PACKET_BYTES]
      omega

theorem seal_all_numbered (lawful : LawfulAead aead) (fragments : List Fragment) (count : Nat) :
    ∃ used, (sealAll aead (channelAfter .client key count) fragments).2 =
        channelAfter .client key (count + used) ∧
      ∀ packets, (sealAll aead (channelAfter .client key count) fragments).1 = .ok packets →
        Ascending wireNumber count (count + used) packets ∧
          ∀ packet ∈ packets, ∃ fragment ∈ fragments, Datagram aead key packet fragment := by
  induction fragments generalizing count with
  | nil =>
      refine ⟨0, rfl, ?_⟩
      intro packets written
      cases written
      exact ⟨.empty _ _ _, fun packet member => absurd member List.not_mem_nil⟩
  | cons fragment rest induction =>
      rw [sealAll]
      rcases @seal_next_datagram aead key count lawful fragment with
        ⟨error, failed⟩ | ⟨packet, succeeded, number, datagram⟩
      · rw [failed]
        refine ⟨0, rfl, ?_⟩
        intro packets written
        cases written
      · obtain ⟨used, moved, numbered⟩ := induction (count + 1)
        have further : count + 1 + used = count + (used + 1) := by omega
        rw [succeeded]
        dsimp only
        cases others : sealAll aead (channelAfter .client key (count + 1)) rest with
        | mk result last =>
            rw [others, further] at moved numbered
            cases result with
            | error error =>
                refine ⟨used + 1, moved, ?_⟩
                intro packets written
                cases written
            | ok written =>
                refine ⟨used + 1, moved, ?_⟩
                intro packets same
                cases same
                obtain ⟨ascending, shaped⟩ := numbered written rfl
                refine ⟨ascending.cons number (by omega), ?_⟩
                intro other member
                rcases List.mem_cons.mp member with here | behind
                · exact ⟨fragment, List.mem_cons_self, here ▸ datagram⟩
                · obtain ⟨piece, among, shape⟩ := shaped other behind
                  exact ⟨piece, List.mem_cons_of_mem fragment among, shape⟩

theorem piece_small {message : Bytes} (few : Fragment.chunkCount message ≤ 2 ^ 15)
    {sentTimestamp echoedTimestamp : UInt16} {stateId : UInt64} {fragment : Fragment}
    (member : fragment ∈ Fragment.pieces message sentTimestamp echoedTimestamp stateId) :
    fragment.header.index.toNat < 2 ^ 15 ∧ fragment.body.length ≤ MAX_FRAGMENT_BODY_BYTES := by
  obtain ⟨index, inside, rfl⟩ := List.mem_map.mp member
  have small : index < 2 ^ 15 := Nat.lt_of_lt_of_le (List.mem_range.mp inside) few
  constructor
  · rw [Fragment.pieceAt, Fragment.index_to_nat small]
    exact small
  · rw [Fragment.pieceAt, Chunks.window_length]
    exact Nat.min_le_left _ _

theorem seal_fragments_numbered (lawful : LawfulAead aead) (compressed : Bytes)
    (sentTimestamp : UInt16) (peerTimestamp : Option UInt16) (stateId : UInt64) :
    ∃ used, (sealFragments aead (channelAfter .client key count) compressed sentTimestamp peerTimestamp
        stateId).2 = channelAfter .client key (count + used) ∧
      ∀ packets, (sealFragments aead (channelAfter .client key count) compressed sentTimestamp
          peerTimestamp stateId).1 = .ok packets →
        Numbered aead key count (count + used) packets := by
  rw [sealFragments, Fragment.split_eq]
  split_ifs with few
  · obtain ⟨used, moved, numbered⟩ := @seal_all_numbered aead key lawful (Fragment.pieces compressed
      sentTimestamp (peerTimestamp.getD NO_ECHO_TIMESTAMP) stateId) count
    refine ⟨used, moved, ?_⟩
    intro packets written
    dsimp only at written
    cases outcome : sealAll aead (channelAfter .client key count) (Fragment.pieces compressed
        sentTimestamp (peerTimestamp.getD NO_ECHO_TIMESTAMP) stateId) with
    | mk result last =>
        rw [outcome] at written numbered
        cases result with
        | error error => cases written
        | ok sealed =>
            cases written
            obtain ⟨ascending, shaped⟩ := numbered packets rfl
            refine ⟨ascending, ?_⟩
            intro packet member
            obtain ⟨fragment, among, datagram⟩ := shaped packet member
            exact ⟨fragment, datagram, piece_small few among⟩
  · refine ⟨0, rfl, ?_⟩
    intro packets written
    cases written

end Sealing

section Calls

variable {lib : Libraries} {protocol : ClientProtocol lib.terminal} {key : SessionKey} {count : Nat}

def StandsAt {terminal : Terminal} (key : SessionKey) (count : Nat)
    (protocol : ClientProtocol terminal) : Prop :=
  protocol.secureChannel = channelAfter .client key count

theorem new_stands (terminal : Terminal) (key : SessionKey) : StandsAt key 0 (new terminal key) := rfl

theorem StandsAt.perform (lawful : LawfulAead lib.aead) (stands : StandsAt key count protocol)
    (operation : ProtocolOperation) :
    ∃ next, count ≤ next ∧ StandsAt key next (protocol.perform lib operation).2 ∧
      ∀ packets, (protocol.perform lib operation).1 = .packets (.ok packets) →
        Numbered lib.aead key count next packets := by
  cases output : (protocol.perform lib operation).1 with
  | packets result =>
      have built := perform_built lib protocol operation result output
      generalize (protocol.perform lib operation).2 = after at built
      cases built with
      | refused error =>
          refine ⟨count, Nat.le_refl count, stands, ?_⟩
          intro packets same
          cases same
      | sealed update stateId compressed _ _ out seals =>
          obtain ⟨sentTimestamp, sealed⟩ := seals.sealed
          rw [stands] at sealed
          obtain ⟨used, moved, numbered⟩ := @seal_fragments_numbered lib.aead key count lawful compressed
            sentTimestamp protocol.latestPeerTimestamp stateId
          rw [sealed] at moved numbered
          refine ⟨count + used, Nat.le_add_right count used, moved, ?_⟩
          intro packets same
          cases same
          exact numbered packets rfl
  | receipt result =>
      refine ⟨count, Nat.le_refl count, ?_, fun packets same => by cases same⟩
      cases operation with
      | ingestPacket packet => exact ((ingest_packet_outbound lib protocol packet).channel).trans stands
      | _ => cases output
  | nothing =>
      refine ⟨count, Nat.le_refl count, ?_, fun packets same => by cases same⟩
      cases operation with
      | setLocalCapabilities capabilities => exact stands
      | setInitialRemoteViewport columns rows =>
          refine Eq.trans ?_ stands
          change (protocol.setInitialRemoteViewport columns rows).secureChannel = _
          unfold setInitialRemoteViewport
          split_ifs
          · rfl
          · split <;> rfl
      | _ => cases output

end Calls

end ClientProtocol

end FerrumTty.Session
