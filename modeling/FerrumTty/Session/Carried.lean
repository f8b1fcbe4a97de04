import FerrumTty.Session.Outgoing
import FerrumTty.Wire.MessageRoundTrip

/-!
# What datagrams carry

The update and the instruction batch that the datagrams of one message carry to the server.
Both are determined by the datagrams.
-/

namespace FerrumTty.Session

set_option autoImplicit false

open Crypto Wire State

namespace ClientProtocol

/-- The datagrams open at the server as the fragments of the encoded update, in order, and the
delta of the update is the encoded batch. -/
structure Carries (lib : Libraries) (key : SessionKey) (packets : List Bytes)
    (update : StateUpdate) (batch : InstructionBatch) : Prop where
  written : update.delta = batch.encodeBytes
  fragmented : ∃ compressed sentTimestamp echoedTimestamp stateId fragments,
    encodeCompressedUpdate lib.codec update = .ok compressed ∧
      Fragment.split compressed sentTimestamp echoedTimestamp stateId = .ok fragments ∧
      List.Forall₂ (OpensAs lib.aead (.new .server key)) packets fragments

theorem encoded_stream {codec : Codec} {update : StateUpdate} {compressed : Bytes}
    (encoded : encodeCompressedUpdate codec update = .ok compressed) :
    update.protocolVersion = PROTOCOL_VERSION ∧ codec.compress update.encode = some compressed := by
  unfold encodeCompressedUpdate at encoded
  split_ifs at encoded with other
  cases stream : codec.compress update.encode with
  | none => rw [stream] at encoded; cases encoded
  | some bytes =>
      rw [stream] at encoded
      cases encoded
      exact ⟨not_not.mp other, rfl⟩

section Determined

variable {codec : Codec} (lawful : LawfulCodec codec)

include lawful

theorem encode_compressed_injective {left right : StateUpdate} {compressed : Bytes}
    (first : encodeCompressedUpdate codec left = .ok compressed)
    (second : encodeCompressedUpdate codec right = .ok compressed) : left = right := by
  have longest := lawful.read_compress left.encode compressed
    (max left.encode.length right.encode.length) (encoded_stream first).2
  rw [lawful.read_compress right.encode compressed _ (encoded_stream second).2,
    List.take_of_length_le (Nat.le_max_left _ _), List.take_of_length_le (Nat.le_max_right _ _)]
    at longest
  have same : right.encode = left.encode := Option.some.inj longest
  have decoded := lawful.decode_update left
  rw [← same, lawful.decode_update right] at decoded
  exact (Option.some.inj decoded).symm

theorem batch_encode_injective {left right : InstructionBatch}
    (same : left.encodeBytes = right.encodeBytes) : left = right := by
  have decoded := lawful.decode_batch left
  rw [same, lawful.decode_batch right] at decoded
  exact (Option.some.inj decoded).symm

end Determined

theorem opens_as_encoding {aead : Aead} {reader : SecureChannel} {packets : List Bytes}
    {left right : List Fragment} (first : List.Forall₂ (OpensAs aead reader) packets left)
    (second : List.Forall₂ (OpensAs aead reader) packets right) :
    left.map Fragment.encode = right.map Fragment.encode := by
  induction first generalizing right with
  | nil =>
      cases second
      rfl
  | cons here rest induction =>
      cases second with
      | cons there others =>
          obtain ⟨counter, opened⟩ := here
          obtain ⟨otherCounter, openedAgain⟩ := there
          rw [opened] at openedAgain
          injection openedAgain with same
          injection same with _ plaintext
          rw [List.map_cons, List.map_cons, plaintext, induction others]

theorem pieces_bodies {message : Bytes} (sentTimestamp echoedTimestamp : UInt16) (stateId : UInt64)
    (few : Fragment.chunkCount message ≤ 2 ^ 15) :
    (((Fragment.pieces message sentTimestamp echoedTimestamp stateId).map Fragment.encode).filterMap
      fun plaintext => (Fragment.parse plaintext).toOption.map Fragment.body).flatten = message := by
  have parsed : ((Fragment.pieces message sentTimestamp echoedTimestamp stateId).map
      Fragment.encode).filterMap (fun plaintext => (Fragment.parse plaintext).toOption.map Fragment.body) =
        (List.range (Fragment.chunkCount message)).map
          (Chunks.window MAX_FRAGMENT_BODY_BYTES message) := by
    rw [Fragment.pieces, List.map_map, List.filterMap_map, ← List.filterMap_eq_map]
    apply List.filterMap_congr
    intro index member
    have small : index < 2 ^ 15 := Nat.lt_of_lt_of_le (List.mem_range.mp member) few
    simp only [Function.comp_apply, Fragment.parse_encode_piece message sentTimestamp echoedTimestamp
      stateId index small]
    rfl
  rw [parsed, Fragment.windows_flatten]

theorem split_ok {message : Bytes} {sentTimestamp echoedTimestamp : UInt16} {stateId : UInt64}
    {fragments : List Fragment}
    (split : Fragment.split message sentTimestamp echoedTimestamp stateId = .ok fragments) :
    Fragment.chunkCount message ≤ 2 ^ 15 ∧
      fragments = Fragment.pieces message sentTimestamp echoedTimestamp stateId := by
  rw [Fragment.split_eq] at split
  split_ifs at split with few
  cases split
  exact ⟨few, rfl⟩

theorem Carries.unique {lib : Libraries} (lawful : LawfulCodec lib.codec) {key : SessionKey}
    {packets : List Bytes} {left right : StateUpdate} {leftBatch rightBatch : InstructionBatch}
    (first : Carries lib key packets left leftBatch)
    (second : Carries lib key packets right rightBatch) :
    left = right ∧ leftBatch = rightBatch := by
  obtain ⟨message, sentTimestamp, echoedTimestamp, stateId, fragments, encoded, split, opened⟩ :=
    first.fragmented
  obtain ⟨other, otherSent, otherEchoed, otherId, others, encodedOther, splitOther, openedOther⟩ :=
    second.fragmented
  obtain ⟨few, pieces⟩ := split_ok split
  obtain ⟨fewOther, piecesOther⟩ := split_ok splitOther
  have plaintexts := opens_as_encoding opened openedOther
  rw [pieces, piecesOther] at plaintexts
  have bodies := pieces_bodies sentTimestamp echoedTimestamp stateId few
  rw [plaintexts, pieces_bodies otherSent otherEchoed otherId fewOther] at bodies
  rw [bodies] at encodedOther
  have same := encode_compressed_injective lawful encoded encodedOther
  refine ⟨same, batch_encode_injective lawful ?_⟩
  rw [← first.written, ← second.written, same]

/-- A server that decodes the message within its size limit reads exactly what it carries. -/
theorem Carries.decoded {lib : Libraries} (lawful : LawfulCodec lib.codec) {key : SessionKey}
    {packets : List Bytes} {update : StateUpdate} {batch : InstructionBatch}
    (carries : Carries lib key packets update batch)
    (short : update.encode.length ≤ MAXIMUM_DECOMPRESSED_BYTES) :
    ∃ compressed, encodeCompressedUpdate lib.codec update = .ok compressed ∧
      decodeCompressedUpdate lib.codec compressed = .ok update ∧
      update.decodeInstructions lib.codec = .ok batch := by
  obtain ⟨compressed, _, _, _, _, encoded, _, _⟩ := carries.fragmented
  have decoded := decode_compressed_update lawful (encoded_stream encoded).1 carries.written short encoded
  have fits := update.delta_length_lt short
  rw [carries.written] at fits
  exact ⟨compressed, encoded, decoded, decode_instructions_encode lawful carries.written fits⟩

variable {lib : Libraries} {protocol : ClientProtocol lib.terminal}

theorem sealed_carries {key : SessionKey} (lawful : LawfulAead lib.aead)
    (sealsWith : SealsWith key protocol) {update : StateUpdate} {batch : InstructionBatch}
    (written : update.delta = batch.encodeBytes) {stateId : UInt64} {compressed : Bytes}
    {packets : List Bytes} {channel : SecureChannel}
    (seals : Seals lib protocol update stateId compressed (.ok packets) channel) :
    Carries lib key packets update batch := by
  obtain ⟨sentTimestamp, sealed⟩ := seals.sealed
  obtain ⟨few, opened⟩ := (seal_fragments_opens lawful sealsWith sealed).2 packets rfl
  have split := Fragment.split_eq compressed sentTimestamp
    (protocol.latestPeerTimestamp.getD NO_ECHO_TIMESTAMP) stateId
  rw [if_pos few] at split
  exact ⟨written, compressed, sentTimestamp, _, stateId, _, seals.encoded, split, opened⟩

theorem perform_carries (lawful : LawfulAead lib.aead) {key : SessionKey}
    (sealsWith : SealsWith key protocol) {operation : ProtocolOperation} {packets : List Bytes}
    (performed : (protocol.perform lib operation).1 = .packets (.ok packets)) :
    ∃ update stateId, protocol.outgoing operation = some (update, stateId) ∧
      ∀ batch, update.delta = InstructionBatch.encodeBytes batch →
        Carries lib key packets update batch := by
  have built := perform_built lib protocol operation (.ok packets) performed
  generalize (protocol.perform lib operation).2 = after at built
  cases built with
  | sealed update stateId compressed _ _ out seals =>
      refine ⟨update, stateId, out, ?_⟩
      intro batch written
      exact sealed_carries lawful sealsWith written seals

/-- Every update that is sent acknowledges the newest remote state and carries a batch. -/
theorem outgoing_message {terminal : Terminal} {protocol : ClientProtocol terminal}
    {operation : ProtocolOperation} {update : StateUpdate} {stateId : UInt64}
    (out : protocol.outgoing operation = some (update, stateId)) :
    update.acknowledgedState = protocol.latestRemoteState ∧
      ∃ batch, update.delta = InstructionBatch.encodeBytes batch := by
  cases outgoing_cases out with
  | association | acknowledgement | shutdownAck => exact ⟨rfl, ⟨[]⟩, rfl⟩
  | update | shutdown | retransmission => exact ⟨rfl, _, rfl⟩

theorem perform_message (lawful : LawfulAead lib.aead) {key : SessionKey}
    (sealsWith : SealsWith key protocol) {operation : ProtocolOperation} {packets : List Bytes}
    (performed : (protocol.perform lib operation).1 = .packets (.ok packets)) :
    ∃ update batch, Carries lib key packets update batch ∧
      update.acknowledgedState = protocol.latestRemoteState := by
  obtain ⟨update, stateId, out, carries⟩ := perform_carries lawful sealsWith performed
  obtain ⟨acknowledges, batch, written⟩ := outgoing_message out
  exact ⟨update, batch, carries batch written, acknowledges⟩

theorem Carries.nonempty {key : SessionKey} {packets : List Bytes} {update : StateUpdate}
    {batch : InstructionBatch} (carries : Carries lib key packets update batch) :
    ∃ packet others, packets = packet :: others := by
  obtain ⟨compressed, sentTimestamp, echoedTimestamp, stateId, fragments, _, split, opened⟩ :=
    carries.fragmented
  cases packets with
  | cons packet others => exact ⟨packet, others, rfl⟩
  | nil =>
      cases opened
      obtain ⟨_, pieces⟩ := split_ok split
      have length := congrArg List.length pieces
      rw [Fragment.pieces, List.length_map, List.length_range] at length
      have positive := Fragment.chunk_count_positive compressed
      rw [← length] at positive
      cases positive

end ClientProtocol

end FerrumTty.Session
