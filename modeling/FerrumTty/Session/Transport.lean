import FerrumTty.Crypto.NonceSequence
import FerrumTty.Session.Operations
import FerrumTty.Wire.MessageRoundTrip
import FerrumTty.Wire.Reassembly

/-!
# A sealed message that arrives in order

What a server sends with `seal_fragments` reaches `handle_message` when its packets are
ingested in order by a protocol that has seen none of their counters and has room for the
assembly.
-/

namespace FerrumTty.Session

set_option autoImplicit false

open Crypto Wire State Runs Fragment

theorem ReplayWindow.accept_above {window : ReplayWindow} {counter : UInt64}
    (unseen : ∀ highest, window.highest = some highest → highest < counter) :
    ∃ next, window.accept counter = (true, next) ∧ next.highest = some counter := by
  unfold ReplayWindow.accept
  cases known : window.highest with
  | none => exact ⟨_, rfl, rfl⟩
  | some highest =>
      dsimp only
      rw [if_pos (unseen highest known)]
      exact ⟨_, rfl, rfl⟩

namespace ClientProtocol

/-- The protocol opens the server's packets from a counter on and has seen none of them. -/
structure Ready {terminal : Terminal} (protocol : ClientProtocol terminal) (key : SessionKey)
    (count : Nat) : Prop where
  cipher : protocol.secureChannel.inboundCipher = key
  direction : protocol.secureChannel.inboundDirection = .serverToClient
  unseen : ∀ highest, protocol.replayWindow.highest = some highest → highest.toNat < count

theorem new_ready (terminal : Terminal) (key : SessionKey) : (new terminal key).Ready key 0 where
  cipher := rfl
  direction := rfl
  unseen := by
    intro highest known
    cases known

variable {lib : Libraries} {protocol : ClientProtocol lib.terminal} {key : SessionKey} {count : Nat}

/-- A packet that the server seals now passes the opener and the replay window. -/
theorem Ready.opens (lawful : LawfulAead lib.aead) (ready : protocol.Ready key count)
    {plaintext packet : Bytes} {next : SecureChannel}
    (sealed : (channelAfter .server key count).sealNext lib.aead plaintext = (.ok packet, next)) :
    ∃ counter window, next = channelAfter .server key (count + 1) ∧
      protocol.secureChannel.openPacket lib.aead packet = .ok { counter, plaintext } ∧
      protocol.replayWindow.accept counter = (true, window) ∧
      ∀ highest, window.highest = some highest → highest.toNat < count + 1 := by
  rcases seal_next_cases lib.aead .server key count plaintext with
    ⟨error, failed, _⟩ | ⟨counter, ciphertext, present, encrypted, succeeded⟩
  · rw [failed] at sealed
    cases sealed
  · rw [succeeded] at sealed
    cases sealed
    obtain ⟨number, bounded⟩ := counter_at_some present
    have opened := open_sealed lib.aead lawful (channelAfter .server key count)
      protocol.secureChannel counter bounded plaintext ciphertext ready.cipher encrypted
    have toClient : ¬ (channelAfter .server key count).outboundDirection ≠
        PacketDirection.serverToClient := not_not.mpr rfl
    rw [ready.direction, if_neg toClient] at opened
    obtain ⟨window, accepted, highest⟩ := ReplayWindow.accept_above (by
        intro highest known
        rw [UInt64.lt_iff_toNat_lt, number]
        exact ready.unseen highest known)
    refine ⟨counter, window, rfl, opened, accepted, ?_⟩
    intro other known
    rw [highest] at known
    cases known
    omega

theorem Ready.ingest (lawful : LawfulAead lib.aead) (ready : protocol.Ready key count)
    {plaintext packet : Bytes} {next : SecureChannel}
    (sealed : (channelAfter .server key count).sealNext lib.aead plaintext = (.ok packet, next)) :
    ∃ counter window, next = channelAfter .server key (count + 1) ∧
      protocol.ingestPacket lib packet =
        ({ protocol with replayWindow := window } : ClientProtocol lib.terminal).handlePlaintext lib
          { counter, plaintext } ∧
      ∀ highest, window.highest = some highest → highest.toNat < count + 1 := by
  obtain ⟨counter, window, moved, opened, accepted, unseen⟩ := ready.opens lawful sealed
  refine ⟨counter, window, moved, ?_, unseen⟩
  rw [ingestPacket, opened]
  simp only [accepted, Bool.not_true, Bool.false_eq_true, if_false]

theorem handle_plaintext_piece (authenticated : AuthenticatedPacket) {message : Bytes}
    {sentTimestamp echoedTimestamp : UInt16} {stateId : UInt64} {index : Nat} (small : index < 2 ^ 15)
    (plaintext : authenticated.plaintext =
      (pieceAt message sentTimestamp echoedTimestamp stateId index).encode) :
    protocol.handlePlaintext lib authenticated =
      ({ protocol with latestPeerTimestamp := some sentTimestamp } :
        ClientProtocol lib.terminal).handleFragment lib authenticated
        (pieceAt message sentTimestamp echoedTimestamp stateId index) := by
  have length : MINIMUM_FRAGMENT_PLAINTEXT_BYTES ≤ authenticated.plaintext.length := by
    rw [plaintext, encode]
    simp only [List.length_append, write_word16_length, write_word64_length,
      MINIMUM_FRAGMENT_PLAINTEXT_BYTES]
    omega
  have stamp : readWord16 (authenticated.plaintext.take 2) = sentTimestamp := by
    have written : (writeWord16 sentTimestamp).length = 2 := write_word16_length _
    rw [plaintext, encode]
    simp only [List.append_assoc, pieceAt]
    rw [List.take_left' written, read_write_word16]
  have shortest : ¬ authenticated.plaintext.length < TIMESTAMP_HEADER_BYTES := by
    have floor : TIMESTAMP_HEADER_BYTES ≤ MINIMUM_FRAGMENT_PLAINTEXT_BYTES := by decide
    omega
  unfold handlePlaintext
  dsimp only
  rw [if_neg shortest, if_neg (Nat.not_lt.mpr length), plaintext, parse_encode_piece _ _ _ _ _ small,
    ← plaintext, stamp]

/-- The pieces of a message before an index have arrived; a first piece finds room. -/
structure Collecting {terminal : Terminal} (protocol : ClientProtocol terminal) (stateId : UInt64)
    (message : Bytes) (index : Nat) : Prop where
  received : ((protocol.assemblies.lookup stateId).getD
    (.new stateId MAXIMUM_REASSEMBLED_BYTES)).Received stateId message index
  room : stateId ∈ protocol.assemblies ∨ protocol.assemblies.len < MAXIMUM_ACTIVE_ASSEMBLIES

theorem start_collecting {stateId : UInt64} {message : Bytes}
    (short : message.length ≤ MAXIMUM_REASSEMBLED_BYTES) (idle : stateId ∉ protocol.assemblies)
    (room : protocol.assemblies.len < MAXIMUM_ACTIVE_ASSEMBLIES) :
    protocol.Collecting stateId message 0 where
  received := by
    rw [AList.lookup_eq_none.mpr idle]
    exact FragmentAccumulator.new_received short
  room := Or.inr room

theorem Collecting.has_room {stateId : UInt64} {message : Bytes} {index : Nat}
    (collecting : protocol.Collecting stateId message index) :
    ¬ (stateId ∉ protocol.assemblies ∧ protocol.assemblies.len ≥ MAXIMUM_ACTIVE_ASSEMBLIES) := by
  rintro ⟨absent, full⟩
  rcases collecting.room with present | room
  · exact absent present
  · exact absurd room (Nat.not_lt.mpr full)

theorem Collecting.inner {stateId : UInt64} {message : Bytes} {index : Nat}
    (collecting : protocol.Collecting stateId message index) (authenticated : AuthenticatedPacket)
    (sentTimestamp echoedTimestamp : UInt16) (inside : index + 1 < chunkCount message)
    (few : chunkCount message ≤ 2 ^ 15) :
    ∃ assembly, (protocol.handleFragment lib authenticated
          (pieceAt message sentTimestamp echoedTimestamp stateId index)).2 =
        { protocol with assemblies := protocol.assemblies.insert stateId assembly } ∧
      ({ protocol with assemblies := protocol.assemblies.insert stateId assembly } :
        ClientProtocol lib.terminal).Collecting stateId message (index + 1) := by
  obtain ⟨after, pushed, received⟩ := collecting.received.push_inner sentTimestamp echoedTimestamp
    inside few
  refine ⟨after, ?_, ⟨?_, Or.inl ?_⟩⟩
  · unfold handleFragment
    dsimp only [pieceAt] at pushed ⊢
    rw [if_neg collecting.has_room, pushed]
  · rw [AList.lookup_insert]
    exact received
  · exact (AList.mem_insert _).mpr (Or.inl rfl)

theorem Collecting.last {stateId : UInt64} {message : Bytes} {index : Nat}
    (collecting : protocol.Collecting stateId message index) (authenticated : AuthenticatedPacket)
    (sentTimestamp echoedTimestamp : UInt16) (last : index + 1 = chunkCount message)
    (few : chunkCount message ≤ 2 ^ 15) :
    protocol.handleFragment lib authenticated
        (pieceAt message sentTimestamp echoedTimestamp stateId index) =
      ({ protocol with assemblies := protocol.assemblies.erase stateId } :
        ClientProtocol lib.terminal).handleMessage lib authenticated
          (pieceAt message sentTimestamp echoedTimestamp stateId index).header message := by
  obtain ⟨after, pushed⟩ := collecting.received.push_last sentTimestamp echoedTimestamp last few
  unfold handleFragment
  dsimp only [pieceAt] at pushed ⊢
  rw [if_neg collecting.has_room, pushed]
  dsimp only
  rw [AList.erase_insert_same]

def arrived {terminal : Terminal} (protocol : ClientProtocol terminal) (window : ReplayWindow)
    (sentTimestamp : UInt16) (assemblies : BTreeMap UInt64 FragmentAccumulator) :
    ClientProtocol terminal :=
  { protocol with
    replayWindow := window
    latestPeerTimestamp := some sentTimestamp
    assemblies }

theorem arrived_same {terminal : Terminal} (protocol : ClientProtocol terminal) (window : ReplayWindow)
    (sentTimestamp : UInt16) (assemblies : BTreeMap UInt64 FragmentAccumulator) :
    SameRemote protocol (protocol.arrived window sentTimestamp assemblies) :=
  ⟨rfl, rfl, rfl, rfl⟩

theorem ingest_inner (lawful : LawfulAead lib.aead) {stateId : UInt64} {message : Bytes}
    {sentTimestamp echoedTimestamp : UInt16} {index : Nat} (few : chunkCount message ≤ 2 ^ 15)
    (ready : protocol.Ready key count) (collecting : protocol.Collecting stateId message index)
    (inside : index + 1 < chunkCount message) {packet : Bytes} {next : SecureChannel}
    (sealed : (channelAfter .server key count).sealNext lib.aead
      (pieceAt message sentTimestamp echoedTimestamp stateId index).encode = (.ok packet, next)) :
    ∃ window assembly, next = channelAfter .server key (count + 1) ∧
      (protocol.ingestPacket lib packet).2 =
        protocol.arrived window sentTimestamp (protocol.assemblies.insert stateId assembly) ∧
      (protocol.arrived window sentTimestamp
        (protocol.assemblies.insert stateId assembly)).Ready key (count + 1) ∧
      (protocol.arrived window sentTimestamp
        (protocol.assemblies.insert stateId assembly)).Collecting stateId message (index + 1) := by
  obtain ⟨counter, window, moved, ingested, unseen⟩ := ready.ingest lawful sealed
  have opened : (protocol.arrived window sentTimestamp protocol.assemblies).Collecting stateId message
      index := ⟨collecting.received, collecting.room⟩
  obtain ⟨assembly, handled, grown⟩ := opened.inner
    { counter, plaintext := (pieceAt message sentTimestamp echoedTimestamp stateId index).encode }
    sentTimestamp echoedTimestamp inside few
  refine ⟨window, assembly, moved, ?_, ⟨ready.cipher, ready.direction, unseen⟩, grown⟩
  rw [ingested, handle_plaintext_piece _ (by omega) rfl]
  exact handled

theorem ingest_last (lawful : LawfulAead lib.aead) {stateId : UInt64} {message : Bytes}
    {sentTimestamp echoedTimestamp : UInt16} {index : Nat} (few : chunkCount message ≤ 2 ^ 15)
    (ready : protocol.Ready key count) (collecting : protocol.Collecting stateId message index)
    (last : index + 1 = chunkCount message) {packet : Bytes} {next : SecureChannel}
    (sealed : (channelAfter .server key count).sealNext lib.aead
      (pieceAt message sentTimestamp echoedTimestamp stateId index).encode = (.ok packet, next)) :
    ∃ window authenticated, next = channelAfter .server key (count + 1) ∧
      protocol.ingestPacket lib packet =
        (protocol.arrived window sentTimestamp (protocol.assemblies.erase stateId)).handleMessage lib
          authenticated (pieceAt message sentTimestamp echoedTimestamp stateId index).header message ∧
      (protocol.arrived window sentTimestamp (protocol.assemblies.erase stateId)).Ready key
        (count + 1) := by
  obtain ⟨counter, window, moved, ingested, unseen⟩ := ready.ingest lawful sealed
  have opened : (protocol.arrived window sentTimestamp protocol.assemblies).Collecting stateId message
      index := ⟨collecting.received, collecting.room⟩
  refine ⟨window,
    { counter, plaintext := (pieceAt message sentTimestamp echoedTimestamp stateId index).encode },
    moved, ?_, ⟨ready.cipher, ready.direction, unseen⟩⟩
  rw [ingested, handle_plaintext_piece _ (by omega) rfl]
  exact opened.last _ sentTimestamp echoedTimestamp last few

theorem ingest_rest (lawful : LawfulAead lib.aead) {stateId : UInt64} {message : Bytes}
    {sentTimestamp echoedTimestamp : UInt16} (few : chunkCount message ≤ 2 ^ 15) (remaining index : Nat)
    (split : index + remaining + 1 = chunkCount message) {packets : List Bytes} {next : SecureChannel}
    (ready : protocol.Ready key count) (collecting : protocol.Collecting stateId message index)
    (sealed : sealAll lib.aead (channelAfter .server key count)
      ((List.range' index (remaining + 1)).map
        (pieceAt message sentTimestamp echoedTimestamp stateId)) = (.ok packets, next)) :
    ∃ earlier last window authenticated, packets = earlier ++ [last] ∧
      next = channelAfter .server key (count + packets.length) ∧
      (final (ingestPacket lib) protocol earlier).ingestPacket lib last =
        (protocol.arrived window sentTimestamp (protocol.assemblies.erase stateId)).handleMessage lib
          authenticated
          (pieceAt message sentTimestamp echoedTimestamp stateId (index + remaining)).header message ∧
      (protocol.arrived window sentTimestamp (protocol.assemblies.erase stateId)).Ready key
        (count + packets.length) := by
  induction remaining generalizing index protocol count packets with
  | zero =>
      rw [List.range'_one, List.map_singleton] at sealed
      obtain ⟨packet, others, middle, first, rest, shape⟩ := seal_all_cons sealed
      obtain ⟨window, authenticated, place, ingested, done⟩ := ingest_last lawful few ready collecting
        split first
      cases rest
      subst shape
      exact ⟨[], packet, window, authenticated, rfl, place, ingested, done⟩
  | succ remaining induction =>
      rw [List.range'_succ, List.map_cons] at sealed
      obtain ⟨packet, rest, middle, first, others, written⟩ := seal_all_cons sealed
      obtain ⟨window, assembly, place, ingested, nextReady, nextCollecting⟩ :=
        ingest_inner lawful few ready collecting (by omega) first
      subst place written
      obtain ⟨earlier, last, finalWindow, authenticated, shape, finalPlace, handled, done⟩ :=
        induction (index + 1) (by omega) nextReady nextCollecting others
      have counted : count + 1 + rest.length = count + (packet :: rest).length := by
        rw [List.length_cons]
        omega
      have erased : (protocol.arrived window sentTimestamp
          (protocol.assemblies.insert stateId assembly)).arrived finalWindow sentTimestamp
            ((protocol.arrived window sentTimestamp
              (protocol.assemblies.insert stateId assembly)).assemblies.erase stateId) =
          protocol.arrived finalWindow sentTimestamp (protocol.assemblies.erase stateId) :=
        congrArg (protocol.arrived finalWindow sentTimestamp) (AList.erase_insert_same _ _ _)
      have index_eq : index + 1 + remaining = index + (remaining + 1) := by omega
      rw [erased, index_eq] at handled
      rw [erased, counted] at done
      refine ⟨packet :: earlier, last, finalWindow, authenticated, ?_, ?_, ?_, done⟩
      · rw [shape]
        rfl
      · rw [finalPlace, counted]
      · rw [final_cons, ingested, handled]

theorem ingest_sealed_message (lawful : LawfulAead lib.aead) {stateId : UInt64} {message : Bytes}
    {sentTimestamp : UInt16} {peerTimestamp : Option UInt16} {packets : List Bytes}
    {next : SecureChannel} (ready : protocol.Ready key count)
    (short : message.length ≤ MAXIMUM_REASSEMBLED_BYTES) (idle : stateId ∉ protocol.assemblies)
    (room : protocol.assemblies.len < MAXIMUM_ACTIVE_ASSEMBLIES)
    (sealed : sealFragments lib.aead (channelAfter .server key count) message sentTimestamp peerTimestamp
      stateId = (.ok packets, next)) :
    ∃ earlier last window authenticated header, packets = earlier ++ [last] ∧
      (final (ingestPacket lib) protocol earlier).ingestPacket lib last =
        (protocol.arrived window sentTimestamp (protocol.assemblies.erase stateId)).handleMessage lib
          authenticated header message ∧
      (protocol.arrived window sentTimestamp (protocol.assemblies.erase stateId)).Ready key
        (count + packets.length) := by
  unfold sealFragments at sealed
  rw [split_eq] at sealed
  split_ifs at sealed with few
  · dsimp only at sealed
    obtain ⟨last, counted⟩ := Nat.exists_eq_succ_of_ne_zero
      (Nat.ne_of_gt (chunk_count_positive message))
    cases outcome : sealAll lib.aead (channelAfter .server key count)
        (pieces message sentTimestamp (peerTimestamp.getD NO_ECHO_TIMESTAMP) stateId) with
    | mk result moved =>
        rw [outcome] at sealed
        cases result with
        | error error => cases sealed
        | ok written =>
            cases sealed
            rw [pieces, counted, List.range_eq_range'] at outcome
            obtain ⟨earlier, final, window, authenticated, shape, _, handled, done⟩ :=
              ingest_rest lawful few last 0 (by omega) ready (start_collecting short idle room) outcome
            exact ⟨earlier, final, window, authenticated, _, shape, handled, done⟩
  · cases sealed

/-- What `handle_message` leaves behind is what `handle_update` does. -/
theorem handle_message_eq {update : StateUpdate} {compressed : Bytes}
    (authenticated : AuthenticatedPacket) (header : FragmentHeader)
    (decoded : decodeCompressedUpdate lib.codec compressed = .ok update) :
    (protocol.handleMessage lib authenticated header compressed).2 =
      (protocol.handleUpdate lib update).2 := by
  unfold handleMessage
  rw [decoded]
  dsimp only
  cases handled : protocol.handleUpdate lib update with
  | mk result next => cases result <;> rfl

theorem ingest_sealed_update (lawful : LawfulLibraries lib) {update : StateUpdate}
    {batch : InstructionBatch} {stateId : UInt64} {compressed : Bytes} {sentTimestamp : UInt16}
    {peerTimestamp : Option UInt16} {packets : List Bytes} {next : SecureChannel}
    (ready : protocol.Ready key count) (version : update.protocolVersion = PROTOCOL_VERSION)
    (written : update.delta = batch.encodeBytes)
    (fits : update.encode.length ≤ MAXIMUM_DECOMPRESSED_BYTES)
    (encoded : encodeCompressedUpdate lib.codec update = .ok compressed)
    (short : compressed.length ≤ MAXIMUM_REASSEMBLED_BYTES) (idle : stateId ∉ protocol.assemblies)
    (room : protocol.assemblies.len < MAXIMUM_ACTIVE_ASSEMBLIES)
    (sealed : sealFragments lib.aead (channelAfter .server key count) compressed sentTimestamp
      peerTimestamp stateId = (.ok packets, next)) :
    ∃ window, final (ingestPacket lib) protocol packets =
      ((protocol.arrived window sentTimestamp (protocol.assemblies.erase stateId)).handleUpdate lib
        update).2 := by
  obtain ⟨earlier, last, window, authenticated, header, shape, handled, _⟩ :=
    ingest_sealed_message lawful.aead ready short idle room sealed
  have decoded := decode_compressed_update lawful.codec version written fits encoded
  refine ⟨window, ?_⟩
  rw [shape, final_concat, handled, handle_message_eq authenticated header decoded]

end ClientProtocol

/-- The packets of a server that seals each update under its target number. -/
def serverPackets (lib : Libraries) : SecureChannel → List StateUpdate → List Bytes
  | _, [] => []
  | channel, update :: rest =>
      match encodeCompressedUpdate lib.codec update with
      | .error _ => serverPackets lib channel rest
      | .ok compressed =>
          let (result, channel) := sealFragments lib.aead channel compressed 0 none update.targetState
          result.toOption.getD [] ++ serverPackets lib channel rest

def hostBytesUpdate (base target : UInt64) (bytes : Bytes) : StateUpdate :=
  { StateUpdate.new base target 0 with
    delta := (InstructionBatch.mk [hostBytesInstruction bytes]).encodeBytes }

/-- A server that sends updates on fresh channels under the zero key. -/
def plainPackets (updates : List StateUpdate) : List Bytes :=
  serverPackets plainLibraries (.new .server zeroKey) updates

/-- The tagging cipher seals until the counters run out. -/
theorem seal_all_plain (role : PeerRole) (key : SessionKey) (fragments : List Fragment) (count : Nat)
    (room : count + fragments.length ≤ 2 ^ 63) :
    ∃ packets, sealAll taggingAead (channelAfter role key count) fragments =
      (.ok packets, channelAfter role key (count + fragments.length)) := by
  induction fragments generalizing count with
  | nil => exact ⟨[], rfl⟩
  | cons fragment rest induction =>
      rw [List.length_cons] at room
      obtain ⟨others, sealedRest⟩ := induction (count + 1) (by omega)
      rcases seal_next_cases taggingAead role key count fragment.encode with
        ⟨error, failed, _⟩ | ⟨counter, ciphertext, _, _, succeeded⟩
      · have present : counterAt count = some (UInt64.ofNat count) := by
          rw [counterAt, if_pos (by omega)]
        have width : (makeNonce ((channelAfter role key count).packetPrefix
            (UInt64.ofNat count))).length = OCB_NONCE_BYTES := by
          rw [makeNonce, List.length_append, List.length_replicate, SecureChannel.packetPrefix,
            BigEndian.encode_length]
          rfl
        have encrypted := tagging_encrypts key width fragment.encode
        have counter : (channelAfter role key count).nextCounter = some (UInt64.ofNat count) := present
        have cipher : (channelAfter role key count).outboundCipher = key := rfl
        rw [SecureChannel.sealNext, counter] at failed
        simp only [cipher, encrypted] at failed
        cases failed
      · refine ⟨((channelAfter role key count).packetPrefix counter ++ ciphertext) :: others, ?_⟩
        rw [sealAll, succeeded]
        dsimp only
        rw [sealedRest, List.length_cons, Nat.add_assoc, Nat.add_comm 1]

theorem seal_fragments_plain {message : Bytes} (sentTimestamp : UInt16) (peerTimestamp : Option UInt16)
    (stateId : UInt64) (fits : message.length ≤ 2 ^ 15 * MAX_FRAGMENT_BODY_BYTES) :
    ∃ packets next, sealFragments taggingAead (.new .server zeroKey) message sentTimestamp peerTimestamp
      stateId = (.ok packets, next) := by
  have few : chunkCount message ≤ 2 ^ 15 :=
    (Chunks.count_le_iff (by decide) _ _).mpr (Nat.max_le.mpr ⟨fits, by decide⟩)
  have number : (pieces message sentTimestamp (peerTimestamp.getD NO_ECHO_TIMESTAMP) stateId).length ≤
      2 ^ 15 := by
    rw [pieces, List.length_map, List.length_range]
    exact few
  obtain ⟨packets, sealed⟩ := seal_all_plain .server zeroKey
    (pieces message sentTimestamp (peerTimestamp.getD NO_ECHO_TIMESTAMP) stateId) 0 (by omega)
  refine ⟨packets, (sealFragments taggingAead (.new .server zeroKey) message sentTimestamp peerTimestamp
    stateId).2, ?_⟩
  rw [sealFragments, split_eq, if_pos few]
  dsimp only
  rw [← channel_after_zero, sealed]
  rfl

theorem plain_packets_single {update : StateUpdate} (version : update.protocolVersion = PROTOCOL_VERSION)
    (fits : (STORED_HEADER ++ update.encode).length ≤ 2 ^ 15 * MAX_FRAGMENT_BODY_BYTES) :
    encodeCompressedUpdate storedCodec update = .ok (STORED_HEADER ++ update.encode) ∧
      ∃ next, sealFragments taggingAead (channelAfter .server zeroKey 0)
        (STORED_HEADER ++ update.encode) 0 none update.targetState =
          (.ok (plainPackets [update]), next) := by
  have encoded : encodeCompressedUpdate plainLibraries.codec update =
      .ok (STORED_HEADER ++ update.encode) := by
    rw [encodeCompressedUpdate, if_neg (not_not.mpr version)]
    rfl
  obtain ⟨packets, next, sealed⟩ := seal_fragments_plain 0 none update.targetState fits
  have opened : sealFragments plainLibraries.aead (.new .server zeroKey)
      (STORED_HEADER ++ update.encode) 0 none update.targetState = (.ok packets, next) := sealed
  have written : plainPackets [update] = packets := by
    rw [plainPackets, serverPackets, encoded]
    dsimp only
    rw [opened]
    exact List.append_nil packets
  refine ⟨encoded, next, ?_⟩
  rw [written, channel_after_zero]
  exact sealed

end FerrumTty.Session
