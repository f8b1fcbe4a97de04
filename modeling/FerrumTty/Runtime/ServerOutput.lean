import FerrumTty.Runtime.SessionRuntime
import FerrumTty.Session.RemoteUpdates
import FerrumTty.Session.Transport

/-!
# Decoding what was encoded

The wire format as a round trip. The validator reads whatever the encoder writes, and a delta that
the session has built for the host is written by the encoder, so the host's decoding of it
never fails.
-/

namespace FerrumTty.Runtime

set_option autoImplicit false

open Crypto Wire State Session

/-- What a `Vec<u8>` can hold, which is `isize::MAX` bytes. -/
def FitsVector (bytes : Bytes) : Prop := bytes.length < 2 ^ 63

theorem FitsVector.length_lt {bytes : Bytes} (fits : FitsVector bytes) : bytes.length < 2 ^ 64 :=
  Nat.lt_trans fits (by decide)

instance (bytes : Bytes) : Decidable (FitsVector bytes) := inferInstanceAs (Decidable (_ < _))

namespace SessionRuntime

variable {lib : Libraries}

/-- An update that advances the newest remote state carries a delta of the encoder. -/
theorem advance_encoded {protocol : ClientProtocol lib.terminal} {packet : Bytes}
    {delivered : StateUpdate}
    (advanced : receiptAdvance (protocol.ingestPacket lib packet).1 = some delivered) :
    ∃ batch : InstructionBatch, delivered.delta = batch.encodeBytes := by
  cases ClientProtocol.ingest_packet_remote lib protocol packet with
  | unchanged same quiet =>
      rw [quiet] at advanced
      cases advanced
  | accepted middle update before after advance =>
      rw [advance] at advanced
      have acceptance := ClientProtocol.accept_cases lib middle update
      generalize middle.acceptRemoteUpdate lib update = outcome at acceptance advanced
      cases acceptance with
      | ignored quiet =>
          rw [quiet] at advanced
          cases advanced
      | stored base target batch fresh discards forward present decoded applied =>
          have storage := ClientProtocol.store_cases lib middle update target
          generalize middle.storeRemoteState lib update target = outcome at storage advanced
          cases storage with
          | full crowded => cases advanced
          | held room late => cases advanced
          | advanced room newer diff built =>
              rw [advanceOf, Option.some.injEq] at advanced
              rw [← advanced]
              exact ⟨diff, rfl⟩

theorem advance_decodes (lawful : LawfulCodec lib.codec) {protocol : ClientProtocol lib.terminal}
    {packet : Bytes} {delivered : StateUpdate}
    (advanced : receiptAdvance (protocol.ingestPacket lib packet).1 = some delivered)
    (fits : FitsVector delivered.delta) :
    ∃ batch, delivered.decodeInstructions lib.codec = .ok batch := by
  obtain ⟨batch, written⟩ := advance_encoded advanced
  rw [written] at fits
  exact ⟨batch, decode_instructions_encode lawful written fits.length_lt⟩

theorem handle_receipt_fails {received : SessionRuntime lib.terminal} {previousCapabilities : Bytes}
    {receipt : PacketReceipt} {now : MonotonicTime} {error : RuntimeError}
    (failed : (received.handleReceipt lib previousCapabilities receipt now).1 = .error error) :
    ∃ delivered, receiptAdvance (.ok receipt) = some delivered ∧
      ∃ refused, delivered.decodeInstructions lib.codec = .error refused := by
  unfold handleReceipt at failed
  dsimp only at failed
  cases arrived : receipt.state with
  | none =>
      rw [arrived] at failed
      cases failed
  | some state =>
      rw [arrived] at failed
      dsimp only at failed
      split_ifs at failed with unmoved
      refine ⟨state.update, ?_, ?_⟩
      · simp only [Bool.not_eq_true', Bool.not_eq_false] at unmoved
        simp only [receiptAdvance, arrived, Option.bind_some, if_pos unmoved]
      · unfold advanceActions at failed
        cases decoded : state.update.decodeInstructions lib.codec with
        | error refused => exact ⟨refused, rfl⟩
        | ok batch =>
            rw [decoded] at failed
            cases failed

/-- The error branch of `receive_datagram` behind an advance is never taken. -/
theorem receive_datagram_decodes (lawful : LawfulCodec lib.codec) (runtime : SessionRuntime lib.terminal)
    (packet : Bytes) (now : MonotonicTime)
    (fits : ∀ delivered, receiptAdvance (runtime.protocol.ingestPacket lib packet).1 = some delivered →
      FitsVector delivered.delta) {error : RuntimeError}
    (failed : (runtime.receiveDatagram lib packet now).1 = .error error) :
    runtime.ensureRunning = .error error ∨
      ∃ refused, error = .session refused ∧
        (runtime.protocol.ingestPacket lib packet).1 = .error refused := by
  unfold receiveDatagram at failed
  cases ready : runtime.ensureRunning with
  | error refused =>
      rw [ready] at failed
      cases failed
      exact Or.inl rfl
  | ok granted =>
      right
      rw [ready] at failed
      cases ingested : runtime.protocol.ingestPacket lib packet with
      | mk result protocol =>
          rw [ingested] at failed
          cases result with
          | error refused =>
              cases failed
              exact ⟨refused, rfl, rfl⟩
          | ok receipt =>
              obtain ⟨delivered, advanced, refused, unread⟩ := handle_receipt_fails failed
              have here : receiptAdvance (runtime.protocol.ingestPacket lib packet).1 =
                  some delivered := by
                rw [ingested]
                exact advanced
              obtain ⟨batch, decoded⟩ := advance_decodes lawful here (fits delivered here)
              rw [decoded] at unread
              cases unread

/-- The round trips of the wire format, and what they mean for the receiving runtime. -/
structure WireRoundTrip (lib : Libraries) : Prop where
  /-- An update is written unless zlib fails. -/
  writes : ∀ update : StateUpdate, update.protocolVersion = PROTOCOL_VERSION →
    (∃ compressed, encodeCompressedUpdate lib.codec update = .ok compressed) ∨
      lib.codec.compress update.encode = none
  /-- What was written reads back as the update. -/
  updates : ∀ (update : StateUpdate) (batch : InstructionBatch) (compressed : Bytes),
    update.protocolVersion = PROTOCOL_VERSION → update.delta = batch.encodeBytes →
    update.encode.length ≤ MAXIMUM_DECOMPRESSED_BYTES →
    encodeCompressedUpdate lib.codec update = .ok compressed →
    decodeCompressedUpdate lib.codec compressed = .ok update
  batches : ∀ (update : StateUpdate) (batch : InstructionBatch), FitsVector batch.encodeBytes →
    update.delta = batch.encodeBytes → update.decodeInstructions lib.codec = .ok batch
  /-- The validator accepts whatever the encoder writes. -/
  validated : (∀ update : StateUpdate, FitsVector update.encode →
      validateFields update.encode UPDATE_FIELDS = .ok ()) ∧
    ∀ batch : InstructionBatch, FitsVector batch.encodeBytes →
      validateInstructionBatch batch.encodeBytes = .ok ()
  delivered : ∀ (runtime : SessionRuntime lib.terminal) (packet : Bytes) (now : MonotonicTime),
    (∀ delivered, receiptAdvance (runtime.protocol.ingestPacket lib packet).1 = some delivered →
      FitsVector delivered.delta) →
    ∀ error, (runtime.receiveDatagram lib packet now).1 ≠ .error (.message error)

/-- The wire format round-trips. -/
theorem wire_round_trip (lawful : LawfulLibraries lib) : WireRoundTrip lib := by
  constructor
  · intro update version
    rw [encodeCompressedUpdate, if_neg (not_not.mpr version)]
    cases lib.codec.compress update.encode with
    | none => exact Or.inr rfl
    | some compressed => exact Or.inl ⟨compressed, rfl⟩
  · intro update batch compressed version written short encoded
    exact decode_compressed_update lawful.codec version written short encoded
  · intro update batch fits written
    exact decode_instructions_encode lawful.codec written fits.length_lt
  · constructor
    · intro update fits
      exact update.declared.validated fits.length_lt
    · intro batch fits
      exact validate_batch_encode fits.length_lt
  · intro runtime packet now fits error failed
    rcases receive_datagram_decodes lawful.codec runtime packet now fits failed with
      unready | ⟨refused, other, _⟩
    · unfold ensureRunning at unready
      split at unready <;> cases unready
    · cases other

/-- An empty run of bytes, a default viewport, and an instruction without any part. -/
def sparseBatch : InstructionBatch :=
  ⟨[⟨some ⟨[]⟩, some ⟨0, 24⟩, some ⟨0⟩, some ⟨0, []⟩⟩, ⟨none, none, none, none⟩,
    ⟨none, none, some ⟨MAXIMUM_STATE⟩, none⟩]⟩

theorem sparse_update_round_trip :
    decodeCompressedUpdate storedCodec
      (STORED_HEADER ++ { StateUpdate.new 0 0 MAXIMUM_STATE with
        delta := sparseBatch.encodeBytes }.encode) =
      .ok { StateUpdate.new 0 0 MAXIMUM_STATE with delta := sparseBatch.encodeBytes } :=
  (wire_round_trip lawful_plain_libraries).updates _ sparseBatch _ rfl rfl (by decide +kernel) rfl

end SessionRuntime

end FerrumTty.Runtime
