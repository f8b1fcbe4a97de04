import FerrumTty.Crypto.NonceSequence
import FerrumTty.Session.RemoteUpdates
import FerrumTty.Wire.FragmentCodec

/-!
# Outgoing messages

Which update each building method seals under which fragment identifier, what received
packets leave alone on the sending side, and how the packets of a run open at the peer.
-/

namespace FerrumTty.Session

set_option autoImplicit false

open Crypto Wire State Runs

namespace ClientProtocol

/-- Two protocols that send the same. -/
structure SameOutbound {terminal : Terminal} (before after : ClientProtocol terminal) : Prop where
  channel : after.secureChannel = before.secureChannel
  next : after.nextLocalState = before.nextLocalState
  instructions : after.localInstructions = before.localInstructions
  sent : after.sentStates = before.sentStates
  capabilities : after.localCapabilities = before.localCapabilities

namespace SameOutbound

variable {terminal : Terminal} {first second third : ClientProtocol terminal}

theorem refl (protocol : ClientProtocol terminal) : SameOutbound protocol protocol :=
  ⟨rfl, rfl, rfl, rfl, rfl⟩

theorem trans (earlier : SameOutbound first second) (later : SameOutbound second third) :
    SameOutbound first third :=
  ⟨later.channel.trans earlier.channel, later.next.trans earlier.next,
    later.instructions.trans earlier.instructions, later.sent.trans earlier.sent,
    later.capabilities.trans earlier.capabilities⟩

end SameOutbound

section Inbound

variable (lib : Libraries) (protocol : ClientProtocol lib.terminal)

theorem accept_outbound (update : StateUpdate) :
    SameOutbound protocol (protocol.acceptRemoteUpdate lib update).2 := by
  have cases_of := accept_cases lib protocol update
  generalize protocol.acceptRemoteUpdate lib update = outcome at cases_of
  cases cases_of with
  | ignored quiet => exact .refl protocol
  | stored base target batch fresh discards forward present decoded applied =>
      have storage := store_cases lib protocol update target
      generalize protocol.storeRemoteState lib update target = outcome at storage
      cases storage with
      | full crowded => exact ⟨rfl, rfl, rfl, rfl, rfl⟩
      | held room late => exact ⟨rfl, rfl, rfl, rfl, rfl⟩
      | advanced room newer diff built => exact ⟨rfl, rfl, rfl, rfl, rfl⟩

theorem handle_update_outbound (update : StateUpdate) :
    SameOutbound (protocol.processAcknowledgement update.acknowledgedState)
      (protocol.handleUpdate lib update).2 := by
  have accepted := accept_outbound lib
    (protocol.processAcknowledgement update.acknowledgedState) update
  unfold handleUpdate
  cases handled : (protocol.processAcknowledgement update.acknowledgedState).acceptRemoteUpdate lib
      update with
  | mk result next =>
      rw [handled] at accepted
      cases result with
      | error error => exact accepted
      | ok value =>
          dsimp only
          split_ifs
          · exact accepted
          · exact accepted.trans ⟨rfl, rfl, rfl, rfl, rfl⟩

/-- On the sending side a received packet does nothing, or what one acknowledgement does. -/
def Acknowledged {terminal : Terminal} (before after : ClientProtocol terminal) : Prop :=
  SameOutbound before after ∨ ∃ acknowledgedState,
    SameOutbound (before.processAcknowledgement acknowledgedState) after

theorem handle_message_outbound (authenticated : AuthenticatedPacket) (header : FragmentHeader)
    (compressed : Bytes) :
    Acknowledged protocol (protocol.handleMessage lib authenticated header compressed).2 := by
  unfold handleMessage
  cases decoded : decodeCompressedUpdate lib.codec compressed with
  | error error => exact Or.inl (.refl protocol)
  | ok update =>
      have updated := handle_update_outbound lib protocol update
      dsimp only
      cases handled : protocol.handleUpdate lib update with
      | mk result next =>
          rw [handled] at updated
          cases result <;> exact Or.inr ⟨_, updated⟩

theorem Acknowledged.of_received {terminal : Terminal} {before middle after : ClientProtocol terminal}
    (same : SameOutbound before middle) (acknowledged : Acknowledged middle after) :
    Acknowledged before after := by
  rcases acknowledged with kept | ⟨acknowledgedState, kept⟩
  · exact Or.inl (same.trans kept)
  · refine Or.inr ⟨acknowledgedState, SameOutbound.trans ?_ kept⟩
    unfold processAcknowledgement
    rw [same.sent]
    split
    · exact same
    · dsimp only
      split_ifs
      · exact ⟨same.channel, same.next, same.instructions, rfl, same.capabilities⟩
      · exact ⟨same.channel, same.next, by rw [same.instructions], rfl, same.capabilities⟩

theorem handle_fragment_outbound (authenticated : AuthenticatedPacket) (fragment : Fragment) :
    Acknowledged protocol (protocol.handleFragment lib authenticated fragment).2 := by
  unfold handleFragment
  dsimp only
  split_ifs
  · exact Or.inl (.refl protocol)
  · split
    · exact Or.inl ⟨rfl, rfl, rfl, rfl, rfl⟩
    · exact Or.inl ⟨rfl, rfl, rfl, rfl, rfl⟩
    · apply Acknowledged.of_received _ (handle_message_outbound lib _ _ _ _)
      exact ⟨rfl, rfl, rfl, rfl, rfl⟩

theorem ingest_packet_outbound (packet : Bytes) :
    Acknowledged protocol (protocol.ingestPacket lib packet).2 := by
  unfold ingestPacket
  split
  · exact Or.inl (.refl protocol)
  · dsimp only
    split_ifs
    · exact Or.inl ⟨rfl, rfl, rfl, rfl, rfl⟩
    · unfold handlePlaintext
      dsimp only
      split_ifs
      · exact Or.inl ⟨rfl, rfl, rfl, rfl, rfl⟩
      · exact Or.inl ⟨rfl, rfl, rfl, rfl, rfl⟩
      · split
        · exact Or.inl ⟨rfl, rfl, rfl, rfl, rfl⟩
        · apply Acknowledged.of_received _ (handle_fragment_outbound lib _ _ _)
          exact ⟨rfl, rfl, rfl, rfl, rfl⟩

end Inbound

/-- The update a building method encodes and the identifier of its fragments; nothing where
the method refuses before it encodes. -/
def outgoing {terminal : Terminal} (protocol : ClientProtocol terminal) :
    ProtocolOperation → Option (StateUpdate × UInt64)
  | .buildAssociation _ | .buildAcknowledgement _ => do
      let front ← protocol.sentStates.head?
      let back ← protocol.sentStates.getLast?
      some (protocol.acknowledgementUpdate front back, back.stateId)
  | .buildUpdate _ instructions => do
      let front ← protocol.sentStates.head?
      let back ← protocol.sentStates.getLast?
      if protocol.nextLocalState = MAXIMUM_STATE then none
      else
        some (protocol.stateUpdate front back instructions protocol.nextLocalState,
          protocol.nextLocalState)
  | .buildShutdown _ instructions => do
      let front ← protocol.sentStates.head?
      let back ← protocol.sentStates.getLast?
      if protocol.localShutdownSent then none
      else some (protocol.stateUpdate front back instructions MAXIMUM_STATE, MAXIMUM_STATE)
  | .buildShutdownAck _ =>
      if protocol.localShutdownAcknowledged then some (protocol.shutdownAckUpdate, MAXIMUM_STATE)
      else none
  | .retransmitPending _ => do
      let confirmed ← protocol.sentStates.head?
      let latest ← protocol.sentStates.getLast?
      if protocol.hasPendingUpdate then
        some (protocol.retransmissionUpdate confirmed latest, latest.stateId)
      else none
  | _ => none

/-- What each building method encodes, and the guard that it passed. -/
inductive Outgoes {terminal : Terminal} (protocol : ClientProtocol terminal) :
    ProtocolOperation → StateUpdate → UInt64 → Prop
  | association (sentTimestamp : UInt16) {front back : SentState}
      (first : protocol.sentStates.head? = some front)
      (last : protocol.sentStates.getLast? = some back) :
      Outgoes protocol (.buildAssociation sentTimestamp) (protocol.acknowledgementUpdate front back)
        back.stateId
  | acknowledgement (sentTimestamp : UInt16) {front back : SentState}
      (first : protocol.sentStates.head? = some front)
      (last : protocol.sentStates.getLast? = some back) :
      Outgoes protocol (.buildAcknowledgement sentTimestamp)
        (protocol.acknowledgementUpdate front back) back.stateId
  | update (sentTimestamp : UInt16) (instructions : InstructionBatch) {front back : SentState}
      (first : protocol.sentStates.head? = some front)
      (last : protocol.sentStates.getLast? = some back)
      (room : protocol.nextLocalState ≠ MAXIMUM_STATE) :
      Outgoes protocol (.buildUpdate sentTimestamp instructions)
        (protocol.stateUpdate front back instructions protocol.nextLocalState) protocol.nextLocalState
  | shutdown (sentTimestamp : UInt16) (instructions : InstructionBatch) {front back : SentState}
      (first : protocol.sentStates.head? = some front)
      (last : protocol.sentStates.getLast? = some back)
      (unsent : protocol.localShutdownSent = false) :
      Outgoes protocol (.buildShutdown sentTimestamp instructions)
        (protocol.stateUpdate front back instructions MAXIMUM_STATE) MAXIMUM_STATE
  | shutdownAck (sentTimestamp : UInt16) (acknowledged : protocol.localShutdownAcknowledged = true) :
      Outgoes protocol (.buildShutdownAck sentTimestamp) protocol.shutdownAckUpdate MAXIMUM_STATE
  | retransmission (sentTimestamp : UInt16) {confirmed latest : SentState}
      (first : protocol.sentStates.head? = some confirmed)
      (last : protocol.sentStates.getLast? = some latest)
      (pending : protocol.hasPendingUpdate = true) :
      Outgoes protocol (.retransmitPending sentTimestamp)
        (protocol.retransmissionUpdate confirmed latest) latest.stateId

theorem outgoing_cases {terminal : Terminal} {protocol : ClientProtocol terminal}
    {operation : ProtocolOperation} {update : StateUpdate} {stateId : UInt64}
    (out : protocol.outgoing operation = some (update, stateId)) :
    Outgoes protocol operation update stateId := by
  have ends {encode : SentState → SentState → Option (StateUpdate × UInt64)}
      (built : (protocol.sentStates.head?.bind fun front =>
        protocol.sentStates.getLast?.bind (encode front)) = some (update, stateId)) :
      ∃ front back, protocol.sentStates.head? = some front ∧
        protocol.sentStates.getLast? = some back ∧ encode front back = some (update, stateId) := by
    rcases Option.bind_eq_some_iff.mp built with ⟨front, first, rest⟩
    rcases Option.bind_eq_some_iff.mp rest with ⟨back, last, encoded⟩
    exact ⟨front, back, first, last, encoded⟩
  cases operation with
  | buildAssociation sentTimestamp =>
      rcases ends out with ⟨front, back, first, last, encoded⟩
      cases encoded
      exact .association sentTimestamp first last
  | buildAcknowledgement sentTimestamp =>
      rcases ends out with ⟨front, back, first, last, encoded⟩
      cases encoded
      exact .acknowledgement sentTimestamp first last
  | buildUpdate sentTimestamp instructions =>
      rcases ends out with ⟨front, back, first, last, encoded⟩
      split_ifs at encoded with room
      cases encoded
      exact .update sentTimestamp instructions first last room
  | buildShutdown sentTimestamp instructions =>
      rcases ends out with ⟨front, back, first, last, encoded⟩
      split_ifs at encoded with sent
      cases encoded
      exact .shutdown sentTimestamp instructions first last (Bool.eq_false_iff.mpr sent)
  | buildShutdownAck sentTimestamp =>
      rw [outgoing] at out
      split_ifs at out with acknowledged
      cases out
      exact .shutdownAck sentTimestamp acknowledged
  | retransmitPending sentTimestamp =>
      rcases ends out with ⟨front, back, first, last, encoded⟩
      split_ifs at encoded with pending
      cases encoded
      exact .retransmission sentTimestamp first last pending
  | _ => cases out

theorem outgoing_held {terminal : Terminal} {protocol : ClientProtocol terminal}
    {operation : ProtocolOperation} {update : StateUpdate} {stateId : UInt64}
    (out : protocol.outgoing operation = some (update, stateId)) : protocol.sentStates ≠ [] := by
  intro empty
  cases outgoing_cases out with
  | association _ first last => simp [empty] at first
  | acknowledgement _ first last => simp [empty] at first
  | update _ _ first last room => simp [empty] at first
  | shutdown _ _ first last unsent => simp [empty] at first
  | shutdownAck _ acknowledged => simp [localShutdownAcknowledged, empty] at acknowledged
  | retransmission _ first last pending => simp [empty] at first

section Sealing

variable (lib : Libraries) (protocol : ClientProtocol lib.terminal)

structure Seals (update : StateUpdate) (stateId : UInt64) (compressed : Bytes)
    (result : Except SessionError (List Bytes)) (channel : SecureChannel) : Prop where
  encoded : encodeCompressedUpdate lib.codec update = .ok compressed
  sealed : ∃ sentTimestamp, sealFragments lib.aead protocol.secureChannel compressed sentTimestamp
    protocol.latestPeerTimestamp stateId = (result, channel)

/-- What a building method did: it refused before sealing, or it sealed its update. -/
inductive Built (operation : ProtocolOperation) :
    Except SessionError (List Bytes) → ClientProtocol lib.terminal → Prop
  | refused (error : SessionError) : Built operation (.error error) protocol
  | sealed (update : StateUpdate) (stateId : UInt64) (compressed : Bytes)
      (result : Except SessionError (List Bytes)) (after : ClientProtocol lib.terminal)
      (out : protocol.outgoing operation = some (update, stateId))
      (seals : Seals lib protocol update stateId compressed result after.secureChannel) :
      Built operation result after

variable {lib protocol} in
theorem Built.recorded {operation : ProtocolOperation} {packets : List Bytes}
    {after recorded : ClientProtocol lib.terminal}
    (built : Built lib protocol operation (.ok packets) after)
    (channel : recorded.secureChannel = after.secureChannel) :
    Built lib protocol operation (.ok packets) recorded := by
  cases built with
  | sealed update stateId compressed _ _ out seals =>
      exact .sealed update stateId compressed _ _ out (channel ▸ seals)

theorem seal_update_built (operation : ProtocolOperation) (sentTimestamp : UInt16)
    (update : StateUpdate) (stateId : UInt64)
    (out : protocol.outgoing operation = some (update, stateId)) :
    Built lib protocol operation (protocol.sealUpdate lib sentTimestamp update stateId).1
      (protocol.sealUpdate lib sentTimestamp update stateId).2 := by
  unfold sealUpdate
  cases encoded : encodeCompressedUpdate lib.codec update with
  | error error => exact .refused _
  | ok compressed => exact .sealed update stateId compressed _ _ out ⟨encoded, sentTimestamp, rfl⟩

theorem build_state_update_built (operation : ProtocolOperation) (sentTimestamp : UInt16)
    (instructions : InstructionBatch) (targetState : UInt64)
    (out : ∀ front back, protocol.sentStates.head? = some front →
      protocol.sentStates.getLast? = some back → protocol.outgoing operation =
        some (protocol.stateUpdate front back instructions targetState, targetState)) :
    Built lib protocol operation
      (protocol.buildStateUpdate lib sentTimestamp instructions targetState).1
      (protocol.buildStateUpdate lib sentTimestamp instructions targetState).2 := by
  unfold buildStateUpdate
  split
  · rename_i front back first last
    have built := seal_update_built lib protocol operation sentTimestamp
      (protocol.stateUpdate front back instructions targetState) targetState (out front back first last)
    generalize protocol.sealUpdate lib sentTimestamp
      (protocol.stateUpdate front back instructions targetState) targetState = outcome at built
    obtain ⟨result, after⟩ := outcome
    cases result with
    | error error => exact built
    | ok packets => exact built.recorded rfl
  · exact .refused _

theorem build_acknowledgement_built (operation : ProtocolOperation) (sentTimestamp : UInt16)
    (out : protocol.outgoing operation =
      protocol.outgoing (.buildAcknowledgement sentTimestamp)) :
    Built lib protocol operation (protocol.buildAcknowledgement lib sentTimestamp).1
      (protocol.buildAcknowledgement lib sentTimestamp).2 := by
  unfold buildAcknowledgement
  split
  · rename_i front back first last
    apply seal_update_built
    rw [out]
    simp [outgoing, first, last]
  · exact .refused _

theorem build_update_built (sentTimestamp : UInt16) (instructions : InstructionBatch) :
    Built lib protocol (.buildUpdate sentTimestamp instructions)
      (protocol.buildUpdate lib sentTimestamp instructions).1
      (protocol.buildUpdate lib sentTimestamp instructions).2 := by
  unfold buildUpdate
  dsimp only
  split_ifs with exhausted
  · exact .refused _
  · have built := build_state_update_built lib protocol (.buildUpdate sentTimestamp instructions)
      sentTimestamp instructions protocol.nextLocalState (by
        intro front back first last
        simp [outgoing, first, last, exhausted])
    generalize protocol.buildStateUpdate lib sentTimestamp instructions protocol.nextLocalState =
      outcome at built
    obtain ⟨result, after⟩ := outcome
    cases result with
    | error error => exact built
    | ok packets => exact built.recorded rfl

theorem build_shutdown_built (sentTimestamp : UInt16) (instructions : InstructionBatch) :
    Built lib protocol (.buildShutdown sentTimestamp instructions)
      (protocol.buildShutdown lib sentTimestamp instructions).1
      (protocol.buildShutdown lib sentTimestamp instructions).2 := by
  unfold buildShutdown
  split_ifs with sent
  · exact .refused _
  · apply build_state_update_built
    intro front back first last
    simp [outgoing, first, last, sent]

theorem build_shutdown_ack_built (sentTimestamp : UInt16) :
    Built lib protocol (.buildShutdownAck sentTimestamp)
      (protocol.buildShutdownAck lib sentTimestamp).1
      (protocol.buildShutdownAck lib sentTimestamp).2 := by
  unfold buildShutdownAck
  cases acknowledged : protocol.localShutdownAcknowledged with
  | false => exact .refused _
  | true =>
      apply seal_update_built
      simp [outgoing, acknowledged]

theorem retransmit_pending_built (sentTimestamp : UInt16) :
    Built lib protocol (.retransmitPending sentTimestamp)
      (protocol.retransmitPending lib sentTimestamp).1
      (protocol.retransmitPending lib sentTimestamp).2 := by
  unfold retransmitPending
  cases pending : protocol.hasPendingUpdate with
  | false => exact .refused _
  | true =>
      simp only [Bool.not_true, Bool.false_eq_true, if_false]
      split
      · rename_i confirmed latest first last
        apply seal_update_built
        simp [outgoing, first, last, pending]
      · exact .refused _

theorem perform_built (operation : ProtocolOperation) (result : Except SessionError (List Bytes))
    (building : (protocol.perform lib operation).1 = .packets result) :
    Built lib protocol operation result (protocol.perform lib operation).2 := by
  cases operation with
  | buildAssociation sentTimestamp =>
      cases building
      exact build_acknowledgement_built lib protocol _ sentTimestamp rfl
  | buildAcknowledgement sentTimestamp =>
      cases building
      exact build_acknowledgement_built lib protocol _ sentTimestamp rfl
  | buildUpdate sentTimestamp instructions =>
      cases building
      exact build_update_built lib protocol sentTimestamp instructions
  | buildShutdown sentTimestamp instructions =>
      cases building
      exact build_shutdown_built lib protocol sentTimestamp instructions
  | buildShutdownAck sentTimestamp =>
      cases building
      exact build_shutdown_ack_built lib protocol sentTimestamp
  | retransmitPending sentTimestamp =>
      cases building
      exact retransmit_pending_built lib protocol sentTimestamp
  | ingestPacket packet => cases building
  | setLocalCapabilities capabilities => cases building
  | setInitialRemoteViewport columns rows => cases building

def OpensAs (aead : Aead) (reader : SecureChannel) (packet : Bytes) (fragment : Fragment) : Prop :=
  ∃ counter, reader.openPacket aead packet = .ok { counter, plaintext := fragment.encode }

theorem seal_all_opens {aead : Aead} (lawful : LawfulAead aead) (key : SessionKey)
    (fragments : List Fragment) (count : Nat) :
    (∃ next, (sealAll aead (channelAfter .client key count) fragments).2 =
        channelAfter .client key next) ∧
      ∀ packets, (sealAll aead (channelAfter .client key count) fragments).1 = .ok packets →
        List.Forall₂ (OpensAs aead (.new .server key)) packets fragments := by
  induction fragments generalizing count with
  | nil =>
      refine ⟨⟨count, rfl⟩, ?_⟩
      intro packets written
      cases written
      exact .nil
  | cons fragment rest induction =>
      rw [sealAll]
      rcases seal_next_cases aead .client key count fragment.encode with
        ⟨error, failed, _⟩ | ⟨counter, ciphertext, present, encrypted, succeeded⟩
      · rw [failed]
        refine ⟨⟨count, rfl⟩, ?_⟩
        intro packets written
        cases written
      · obtain ⟨⟨next, moved⟩, opened⟩ := induction (count + 1)
        have first := open_sealed aead lawful (channelAfter .client key count) (.new .server key) counter
          (counter_at_some present).2 fragment.encode ciphertext rfl encrypted
        have toServer : ¬ (channelAfter .client key count).outboundDirection ≠
            (SecureChannel.new .server key).inboundDirection := not_not.mpr rfl
        rw [if_neg toServer] at first
        rw [succeeded]
        dsimp only
        cases others : sealAll aead (channelAfter .client key (count + 1)) rest with
        | mk result last =>
            rw [others] at moved opened
            cases result with
            | error error =>
                refine ⟨⟨next, moved⟩, ?_⟩
                intro packets written
                cases written
            | ok written =>
                refine ⟨⟨next, moved⟩, ?_⟩
                intro packets written
                cases written
                exact .cons ⟨counter, first⟩ (opened _ rfl)

/-- A client protocol seals with the client's channel of its key. -/
def SealsWith {terminal : Terminal} (key : SessionKey) (protocol : ClientProtocol terminal) : Prop :=
  ∃ count, protocol.secureChannel = channelAfter .client key count

variable {lib} {protocol}

theorem seal_fragments_opens (lawful : LawfulAead lib.aead) {key : SessionKey}
    (sealsWith : SealsWith key protocol) {compressed : Bytes} {sentTimestamp : UInt16}
    {peerTimestamp : Option UInt16} {stateId : UInt64} {result : Except SessionError (List Bytes)}
    {channel : SecureChannel}
    (sealed : sealFragments lib.aead protocol.secureChannel compressed sentTimestamp peerTimestamp
      stateId = (result, channel)) :
    (∃ count, channel = channelAfter .client key count) ∧
      ∀ packets, result = .ok packets → Fragment.chunkCount compressed ≤ 2 ^ 15 ∧
        List.Forall₂ (OpensAs lib.aead (.new .server key)) packets
          (Fragment.pieces compressed sentTimestamp (peerTimestamp.getD NO_ECHO_TIMESTAMP) stateId) := by
  obtain ⟨count, place⟩ := sealsWith
  rw [place, sealFragments, Fragment.split_eq] at sealed
  split_ifs at sealed with few
  · obtain ⟨moved, opened⟩ := seal_all_opens lawful key (Fragment.pieces compressed sentTimestamp
      (peerTimestamp.getD NO_ECHO_TIMESTAMP) stateId) count
    dsimp only at sealed
    cases sealed
    refine ⟨moved, ?_⟩
    intro packets written
    cases outcome : sealAll lib.aead (channelAfter .client key count) (Fragment.pieces compressed
        sentTimestamp (peerTimestamp.getD NO_ECHO_TIMESTAMP) stateId) with
    | mk result last =>
        rw [outcome] at written opened
        cases result with
        | error error => cases written
        | ok packets =>
            cases written
            exact ⟨few, opened _ rfl⟩
  · cases sealed
    refine ⟨⟨count, rfl⟩, ?_⟩
    intro packets written
    cases written

theorem process_acknowledgement_channel {terminal : Terminal} (protocol : ClientProtocol terminal)
    (acknowledgedState : UInt64) :
    (protocol.processAcknowledgement acknowledgedState).secureChannel = protocol.secureChannel := by
  unfold processAcknowledgement
  split
  · rfl
  · dsimp only
    split_ifs <;> rfl

theorem Acknowledged.channel {terminal : Terminal} {before after : ClientProtocol terminal}
    (acknowledged : Acknowledged before after) : after.secureChannel = before.secureChannel := by
  rcases acknowledged with same | ⟨acknowledgedState, same⟩
  · exact same.channel
  · rw [same.channel, process_acknowledgement_channel]

theorem SealsWith.perform (lawful : LawfulAead lib.aead) {key : SessionKey}
    (sealsWith : SealsWith key protocol) (operation : ProtocolOperation) :
    SealsWith key (protocol.perform lib operation).2 := by
  cases output : (protocol.perform lib operation).1 with
  | packets result =>
      have built := perform_built lib protocol operation result output
      generalize (protocol.perform lib operation).2 = after at built
      cases built with
      | refused error => exact sealsWith
      | sealed update stateId compressed _ _ out seals =>
          obtain ⟨sentTimestamp, sealed⟩ := seals.sealed
          exact (seal_fragments_opens lawful sealsWith sealed).1
  | receipt result =>
      cases operation with
      | ingestPacket packet =>
          obtain ⟨count, place⟩ := sealsWith
          exact ⟨count, ((ingest_packet_outbound lib protocol packet).channel).trans place⟩
      | _ => cases output
  | nothing =>
      cases operation with
      | setLocalCapabilities capabilities => exact sealsWith
      | setInitialRemoteViewport columns rows =>
          obtain ⟨count, place⟩ := sealsWith
          refine ⟨count, Eq.trans ?_ place⟩
          change (protocol.setInitialRemoteViewport columns rows).secureChannel = _
          unfold setInitialRemoteViewport
          split_ifs
          · rfl
          · split <;> rfl
      | _ => cases output

end Sealing

variable {lib : Libraries}

def emittedMessage (event : ProtocolStep lib) : Option (UInt64 × Bytes) :=
  match event.output with
  | .packets (.ok _) => do
      let (update, stateId) ← event.before.outgoing event.input
      let compressed ← (encodeCompressedUpdate lib.codec update).toOption
      some (stateId, compressed)
  | _ => none

def emittedPackets (event : ProtocolStep lib) : List Bytes :=
  match event.output with
  | .packets (.ok packets) => packets
  | _ => []

def emittedMessages (events : List (ProtocolStep lib)) : List (UInt64 × Bytes) :=
  events.filterMap emittedMessage

def emittedDatagrams (events : List (ProtocolStep lib)) : List Bytes := events.flatMap emittedPackets

theorem emitted_step (lawful : LawfulAead lib.aead) {key : SessionKey} {event : ProtocolStep lib}
    (sealsWith : SealsWith key event.before)
    (step : event.before.perform lib event.input = (event.output, event.after)) :
    emittedMessage event = none ∧ emittedPackets event = [] ∨
      ∃ stateId message sentTimestamp echoedTimestamp,
        emittedMessage event = some (stateId, message) ∧ Fragment.chunkCount message ≤ 2 ^ 15 ∧
        List.Forall₂ (OpensAs lib.aead (.new .server key)) (emittedPackets event)
          (Fragment.pieces message sentTimestamp echoedTimestamp stateId) := by
  cases output : event.output with
  | receipt result => exact Or.inl ⟨by rw [emittedMessage, output], by rw [emittedPackets, output]⟩
  | nothing => exact Or.inl ⟨by rw [emittedMessage, output], by rw [emittedPackets, output]⟩
  | packets result =>
      cases result with
      | error error => exact Or.inl ⟨by rw [emittedMessage, output], by rw [emittedPackets, output]⟩
      | ok packets =>
          have built := perform_built lib event.before event.input (.ok packets)
            (by rw [step]; exact output)
          rw [step] at built
          cases built with
          | sealed update stateId compressed _ _ out seals =>
              obtain ⟨sentTimestamp, sealed⟩ := seals.sealed
              obtain ⟨few, opened⟩ := (seal_fragments_opens lawful sealsWith sealed).2 packets rfl
              refine Or.inr ⟨stateId, compressed, sentTimestamp,
                event.before.latestPeerTimestamp.getD NO_ECHO_TIMESTAMP, ?_, few, ?_⟩
              · rw [emittedMessage, output]
                simp [out, seals.encoded, Except.toOption]
              · rw [emittedPackets, output]
                exact opened

theorem new_seals_with (terminal : Terminal) (key : SessionKey) : SealsWith key (new terminal key) :=
  ⟨0, rfl⟩

theorem seals_with_before (lawful : LawfulAead lib.aead) {key : SessionKey}
    {operations : List ProtocolOperation} {event : ProtocolStep lib}
    (member : event ∈ trace (perform lib) (new lib.terminal key) operations) :
    SealsWith key event.before := by
  apply invariant_before _ (SealsWith key) _ (new_seals_with lib.terminal key) member
  intro protocol operation sealsWith
  exact sealsWith.perform lawful operation

theorem emitted_of_mem (lawful : LawfulAead lib.aead) {key : SessionKey}
    {operations : List ProtocolOperation} {event : ProtocolStep lib}
    (member : event ∈ trace (perform lib) (new lib.terminal key) operations) :
    emittedMessage event = none ∧ emittedPackets event = [] ∨
      ∃ stateId message sentTimestamp echoedTimestamp,
        emittedMessage event = some (stateId, message) ∧ Fragment.chunkCount message ≤ 2 ^ 15 ∧
        List.Forall₂ (OpensAs lib.aead (.new .server key)) (emittedPackets event)
          (Fragment.pieces message sentTimestamp echoedTimestamp stateId) := by
  exact emitted_step lawful (seals_with_before lawful member) (step_of_mem _ member)

theorem datagram_is_piece (lawful : LawfulAead lib.aead) {key : SessionKey}
    {operations : List ProtocolOperation} {packet : Bytes}
    (sent : packet ∈ emittedDatagrams (trace (perform lib) (new lib.terminal key) operations)) :
    ∃ stateId message sentTimestamp echoedTimestamp index,
      (stateId, message) ∈ emittedMessages (trace (perform lib) (new lib.terminal key) operations) ∧
      Fragment.chunkCount message ≤ 2 ^ 15 ∧ index < Fragment.chunkCount message ∧
      OpensAs lib.aead (.new .server key) packet
        (Fragment.pieceAt message sentTimestamp echoedTimestamp stateId index) := by
  obtain ⟨event, member, here⟩ := List.mem_flatMap.mp sent
  rcases emitted_of_mem lawful member with
    ⟨_, empty⟩ | ⟨stateId, message, sentTimestamp, echoedTimestamp, found, few, opened⟩
  · rw [empty] at here
    cases here
  · obtain ⟨index, bound, place⟩ := List.getElem_of_mem here
    have opens := opened.get bound (opened.length_eq ▸ bound)
    have inside : index < Fragment.chunkCount message := by
      have length := opened.length_eq
      rw [Fragment.pieces, List.length_map, List.length_range] at length
      omega
    refine ⟨stateId, message, sentTimestamp, echoedTimestamp, index,
      List.mem_filterMap.mpr ⟨event, member, found⟩, few, inside, ?_⟩
    have piece : (Fragment.pieces message sentTimestamp echoedTimestamp stateId).get
        ⟨index, opened.length_eq ▸ bound⟩ =
          Fragment.pieceAt message sentTimestamp echoedTimestamp stateId index := by
      simp [Fragment.pieces]
    rw [piece] at opens
    rw [← place]
    exact opens

theorem message_is_sent (lawful : LawfulAead lib.aead) {key : SessionKey}
    {operations : List ProtocolOperation} {stateId : UInt64} {message : Bytes}
    (encoded : (stateId, message) ∈
      emittedMessages (trace (perform lib) (new lib.terminal key) operations)) :
    Fragment.chunkCount message ≤ 2 ^ 15 ∧ ∃ sentTimestamp echoedTimestamp,
      ∀ index < Fragment.chunkCount message,
        ∃ packet ∈ emittedDatagrams (trace (perform lib) (new lib.terminal key) operations),
          OpensAs lib.aead (.new .server key) packet
            (Fragment.pieceAt message sentTimestamp echoedTimestamp stateId index) := by
  obtain ⟨event, member, here⟩ := List.mem_filterMap.mp encoded
  rcases emitted_of_mem lawful member with
    ⟨empty, _⟩ | ⟨otherId, other, sentTimestamp, echoedTimestamp, found, few, opened⟩
  · rw [empty] at here
    cases here
  · rw [found] at here
    cases here
    refine ⟨few, sentTimestamp, echoedTimestamp, ?_⟩
    intro index inside
    have length := opened.length_eq
    have bound : index < (Fragment.pieces message sentTimestamp echoedTimestamp stateId).length := by
      rw [Fragment.pieces, List.length_map, List.length_range]
      exact inside
    have opens := opened.get (length ▸ bound) bound
    have piece : (Fragment.pieces message sentTimestamp echoedTimestamp stateId).get ⟨index, bound⟩ =
        Fragment.pieceAt message sentTimestamp echoedTimestamp stateId index := by
      simp [Fragment.pieces]
    rw [piece] at opens
    exact ⟨_, List.mem_flatMap.mpr ⟨event, member, List.get_mem _ _⟩, opens⟩

end ClientProtocol

end FerrumTty.Session
