import FerrumTty.Session.Carried
import FerrumTty.Session.ServerStream

/-!
# The server's mail

A server that seals the updates of its stream, each under an identifier of its own. Whatever the
network loses, repeats or reorders, a client that opens nothing else hands over nothing but these
updates.
-/

namespace FerrumTty.Session

set_option autoImplicit false

open Crypto Wire State Runs Fragment

namespace ClientProtocol

variable {lib : Libraries}

/-- The messages of a server by their identifiers, and the update that each of them encodes. -/
structure Mail (lib : Libraries) (server : ServerStream) (initial : ViewportSize) where
  letter : UInt64 → Option StateUpdate
  message : UInt64 → Bytes
  written : ∀ identifier update, letter identifier = some update →
    ∃ batch : InstructionBatch, update.delta = batch.encodeBytes
  encoded : ∀ identifier update, letter identifier = some update →
    encodeCompressedUpdate lib.codec update = .ok (message identifier)
  short : ∀ identifier update, letter identifier = some update →
    update.encode.length ≤ MAXIMUM_DECOMPRESSED_BYTES
  few : ∀ identifier update, letter identifier = some update →
    chunkCount (message identifier) ≤ 2 ^ 15
  sends : ∀ identifier update, letter identifier = some update →
    server.Sends lib.codec initial update

variable {server : ServerStream} {initial : ViewportSize} {mail : Mail lib server initial}

namespace Mail

theorem decodes (lawful : LawfulCodec lib.codec) {identifier : UInt64} {update : StateUpdate}
    (posted : mail.letter identifier = some update) :
    decodeCompressedUpdate lib.codec (mail.message identifier) = .ok update := by
  obtain ⟨batch, written⟩ := mail.written identifier update posted
  have encoded := mail.encoded identifier update posted
  exact decode_compressed_update lawful (encoded_stream encoded).1 written
    (mail.short identifier update posted) encoded

variable (mail) in
/-- A plaintext of the server: a piece of a letter, or timestamps alone. -/
def Writes (plaintext : Bytes) : Prop :=
  plaintext.length < MINIMUM_FRAGMENT_PLAINTEXT_BYTES ∨
    ∃ identifier update sentTimestamp echoedTimestamp index,
      mail.letter identifier = some update ∧ index < chunkCount (mail.message identifier) ∧
      plaintext =
        (pieceAt (mail.message identifier) sentTimestamp echoedTimestamp identifier index).encode

variable (mail) in
/-- A datagram that the client opens, if at all, as one of the server: no one else has the key. -/
def Authentic (key : SessionKey) (packet : Bytes) : Prop :=
  ∀ authenticated, (SecureChannel.new .client key).openPacket lib.aead packet = .ok authenticated →
    mail.Writes authenticated.plaintext

end Mail

/-- The client opens what the server seals, and every assembly belongs to one letter. -/
structure Mailed (mail : Mail lib server initial) (key : SessionKey)
    (protocol : ClientProtocol lib.terminal) : Prop where
  cipher : protocol.secureChannel.inboundCipher = key
  direction : protocol.secureChannel.inboundDirection = .serverToClient
  assembling : ∀ identifier assembly, protocol.assemblies.lookup identifier = some assembly →
    ∃ update, mail.letter identifier = some update ∧
      assembly.BelongsTo identifier (mail.message identifier)

/-- A received packet leaves the remote states alone or passes one letter to
`accept_remote_update`. -/
inductive MailStep (mail : Mail lib server initial) (protocol : ClientProtocol lib.terminal)
    (outcome : Except SessionError PacketReceipt × ClientProtocol lib.terminal) : Prop
  | unchanged (same : SameRemote protocol outcome.2) (quiet : receiptAdvance outcome.1 = none)
  | accepted (middle : ClientProtocol lib.terminal) (identifier : UInt64) (update : StateUpdate)
      (posted : mail.letter identifier = some update) (before : SameRemote protocol middle)
      (after : SameRemote (middle.acceptRemoteUpdate lib update).2 outcome.2)
      (advance : receiptAdvance outcome.1 = advanceOf (middle.acceptRemoteUpdate lib update).1)

section Steps

variable {key : SessionKey} {protocol other : ClientProtocol lib.terminal}

theorem new_mailed (mail : Mail lib server initial) (key : SessionKey) :
    Mailed mail key (new lib.terminal key) where
  cipher := rfl
  direction := rfl
  assembling := by
    intro identifier assembly found
    cases found

theorem Mailed.of_inbound (mailed : Mailed mail key protocol) (same : SameInbound protocol other) :
    Mailed mail key other := by
  obtain ⟨counter, channel⟩ := same.channel
  refine ⟨?_, ?_, ?_⟩
  · rw [channel]
    exact mailed.cipher
  · rw [channel]
    exact mailed.direction
  · rw [same.assemblies]
    exact mailed.assembling

theorem set_initial_viewport_inbound (protocol : ClientProtocol lib.terminal) (columns rows : UInt16) :
    (protocol.setInitialRemoteViewport columns rows).assemblies = protocol.assemblies ∧
      (protocol.setInitialRemoteViewport columns rows).secureChannel = protocol.secureChannel := by
  unfold setInitialRemoteViewport
  split_ifs
  · exact ⟨rfl, rfl⟩
  · split <;> exact ⟨rfl, rfl⟩

theorem Mailed.set_initial_viewport (mailed : Mailed mail key protocol) (columns rows : UInt16) :
    Mailed mail key (protocol.setInitialRemoteViewport columns rows) := by
  obtain ⟨assemblies, channel⟩ := set_initial_viewport_inbound protocol columns rows
  refine ⟨?_, ?_, ?_⟩
  · rw [channel]
    exact mailed.cipher
  · rw [channel]
    exact mailed.direction
  · rw [assemblies]
    exact mailed.assembling

theorem Mailed.insert (mailed : Mailed mail key protocol) {identifier : UInt64}
    {update : StateUpdate} (posted : mail.letter identifier = some update)
    {assembly : FragmentAccumulator}
    (belongs : assembly.BelongsTo identifier (mail.message identifier)) :
    Mailed mail key { protocol with assemblies := protocol.assemblies.insert identifier assembly } where
  cipher := mailed.cipher
  direction := mailed.direction
  assembling := by
    intro named held found
    dsimp only at found
    rw [AList.lookup_insert_cases] at found
    split_ifs at found with same
    · cases found
      subst same
      exact ⟨update, posted, belongs⟩
    · exact mailed.assembling named held found

theorem Mailed.erase (mailed : Mailed mail key protocol) (identifier : UInt64) :
    Mailed mail key { protocol with assemblies := protocol.assemblies.erase identifier } where
  cipher := mailed.cipher
  direction := mailed.direction
  assembling := by
    intro named held found
    dsimp only at found
    rw [AList.lookup_erase_cases] at found
    split_ifs at found
    exact mailed.assembling named held found

theorem Mailed.belongs (mailed : Mailed mail key protocol) (identifier : UInt64) :
    ((protocol.assemblies.lookup identifier).getD
      (.new identifier MAXIMUM_REASSEMBLED_BYTES)).BelongsTo identifier (mail.message identifier) := by
  cases found : protocol.assemblies.lookup identifier with
  | none => exact FragmentAccumulator.new_belongs _ _ _
  | some assembly =>
      obtain ⟨update, posted, belongs⟩ := mailed.assembling identifier assembly found
      exact belongs

theorem MailStep.of_same (same : SameRemote protocol other)
    {outcome : Except SessionError PacketReceipt × ClientProtocol lib.terminal}
    (step : MailStep mail other outcome) : MailStep mail protocol outcome := by
  cases step with
  | unchanged kept quiet => exact .unchanged (same.trans kept) quiet
  | accepted middle identifier update posted before after advance =>
      exact .accepted middle identifier update posted (same.trans before) after advance

theorem accept_assemblies (protocol : ClientProtocol lib.terminal) (update : StateUpdate) :
    (protocol.acceptRemoteUpdate lib update).2.assemblies = protocol.assemblies ∧
      (protocol.acceptRemoteUpdate lib update).2.secureChannel = protocol.secureChannel := by
  have acceptance := accept_cases lib protocol update
  generalize protocol.acceptRemoteUpdate lib update = outcome at acceptance
  cases acceptance with
  | ignored quiet => exact ⟨rfl, rfl⟩
  | stored base target batch fresh discards forward present decoded applied =>
      have storage := store_cases lib protocol update target
      generalize protocol.storeRemoteState lib update target = outcome at storage
      cases storage with
      | full crowded => exact ⟨rfl, rfl⟩
      | held room late => exact ⟨rfl, rfl⟩
      | advanced room newer diff built => exact ⟨rfl, rfl⟩

theorem handle_update_mailed (mailed : Mailed mail key protocol) (update : StateUpdate) :
    Mailed mail key (protocol.handleUpdate lib update).2 := by
  have acknowledged := mailed.of_inbound
    (process_acknowledgement_inbound protocol update.acknowledgedState)
  obtain ⟨assemblies, channel⟩ := accept_assemblies
    (protocol.processAcknowledgement update.acknowledgedState) update
  have accepted : Mailed mail key ((protocol.processAcknowledgement
      update.acknowledgedState).acceptRemoteUpdate lib update).2 :=
    ⟨by rw [channel]; exact acknowledged.cipher, by rw [channel]; exact acknowledged.direction,
      by rw [assemblies]; exact acknowledged.assembling⟩
  unfold handleUpdate
  rcases outcome : (protocol.processAcknowledgement update.acknowledgedState).acceptRemoteUpdate lib
    update with ⟨result, next⟩
  rw [outcome] at accepted
  cases result with
  | error error => exact accepted
  | ok value =>
      dsimp only
      split_ifs
      · exact accepted
      · exact ⟨accepted.cipher, accepted.direction, accepted.assembling⟩

theorem handle_letter (lawful : LawfulCodec lib.codec) (mailed : Mailed mail key protocol)
    (authenticated : AuthenticatedPacket) (header : FragmentHeader) {identifier : UInt64}
    {update : StateUpdate} (posted : mail.letter identifier = some update) :
    MailStep mail protocol
        (protocol.handleMessage lib authenticated header (mail.message identifier)) ∧
      Mailed mail key
        (protocol.handleMessage lib authenticated header (mail.message identifier)).2 := by
  have decoded := mail.decodes lawful posted
  obtain ⟨sameResult, sameRemote⟩ := handle_update_accepts lib protocol update
  refine ⟨?_, ?_⟩
  · apply MailStep.accepted _ identifier update posted
      (process_acknowledgement_inbound protocol update.acknowledgedState).toSameRemote
    · rw [handle_message_eq authenticated header decoded]
      exact sameRemote
    · rw [← sameResult]
      unfold handleMessage
      rw [decoded]
      dsimp only
      rcases protocol.handleUpdate lib update with ⟨result, next⟩
      cases result with
      | error error => rfl
      | ok value =>
          obtain ⟨advances, delivered⟩ := value
          cases advances <;> rfl
  · rw [handle_message_eq authenticated header decoded]
    exact handle_update_mailed mailed update

theorem handle_piece (lawful : LawfulCodec lib.codec) (mailed : Mailed mail key protocol)
    (authenticated : AuthenticatedPacket) {identifier : UInt64} {update : StateUpdate}
    (posted : mail.letter identifier = some update) (sentTimestamp echoedTimestamp : UInt16)
    {index : Nat} (inside : index < chunkCount (mail.message identifier)) :
    MailStep mail protocol (protocol.handleFragment lib authenticated
        (pieceAt (mail.message identifier) sentTimestamp echoedTimestamp identifier index)) ∧
      Mailed mail key (protocol.handleFragment lib authenticated
        (pieceAt (mail.message identifier) sentTimestamp echoedTimestamp identifier index)).2 := by
  have few := mail.few identifier update posted
  unfold handleFragment
  dsimp only [pieceAt]
  split_ifs
  · exact ⟨.unchanged (.refl protocol) rfl, mailed⟩
  · rcases outcome : ((protocol.assemblies.lookup identifier).getD
      (.new identifier MAXIMUM_REASSEMBLED_BYTES)).push (pieceAt (mail.message identifier)
        sentTimestamp echoedTimestamp identifier index) with ⟨pushed, assembly⟩
    obtain ⟨belongs, answer⟩ := (mailed.belongs identifier).push_piece sentTimestamp echoedTimestamp
      inside few outcome
    have held := mailed.insert posted belongs
    dsimp only [pieceAt] at outcome
    rw [outcome]
    rcases answer with incomplete | complete | large
    · rw [incomplete]
      exact ⟨.unchanged ⟨rfl, rfl, rfl, rfl⟩ rfl, held⟩
    · rw [complete]
      dsimp only
      have handled := handle_letter lawful (held.erase identifier) authenticated
        { sentTimestamp, echoedTimestamp, stateId := identifier, index := UInt16.ofNat index,
          isFinal := decide (index + 1 = chunkCount (mail.message identifier)) } posted
      have erased : SameRemote protocol
          { protocol with
            assemblies := (protocol.assemblies.insert identifier assembly).erase identifier } :=
        ⟨rfl, rfl, rfl, rfl⟩
      exact ⟨handled.1.of_same erased, handled.2⟩
    · rw [large]
      exact ⟨.unchanged ⟨rfl, rfl, rfl, rfl⟩ rfl, held⟩

/-- Only the inbound side of a channel opens packets. -/
theorem open_of_inbound (aead : Aead) {first second : SecureChannel}
    (cipher : first.inboundCipher = second.inboundCipher)
    (direction : first.inboundDirection = second.inboundDirection) (packet : Bytes) :
    first.openPacket aead packet = second.openPacket aead packet := by
  unfold SecureChannel.openPacket
  rw [cipher, direction]

theorem handle_plaintext_short (authenticated : AuthenticatedPacket)
    (short : authenticated.plaintext.length < MINIMUM_FRAGMENT_PLAINTEXT_BYTES) :
    receiptAdvance (protocol.handlePlaintext lib authenticated).1 = none ∧
      SameInbound protocol (protocol.handlePlaintext lib authenticated).2 := by
  unfold handlePlaintext
  dsimp only
  split_ifs
  · exact ⟨rfl, .refl protocol⟩
  · exact ⟨rfl, ⟨rfl, rfl, rfl, rfl⟩, rfl, rfl, _, rfl⟩

theorem handle_plaintext_mail (lawful : LawfulCodec lib.codec) (mailed : Mailed mail key protocol)
    (authenticated : AuthenticatedPacket) (writes : mail.Writes authenticated.plaintext) :
    MailStep mail protocol (protocol.handlePlaintext lib authenticated) ∧
      Mailed mail key (protocol.handlePlaintext lib authenticated).2 := by
  rcases writes with short | ⟨identifier, update, sentTimestamp, echoedTimestamp, index, posted,
    inside, plaintext⟩
  · obtain ⟨quiet, inbound⟩ : receiptAdvance (protocol.handlePlaintext lib authenticated).1 =
        none ∧ SameInbound protocol (protocol.handlePlaintext lib authenticated).2 :=
      handle_plaintext_short authenticated short
    exact ⟨.unchanged inbound.toSameRemote quiet, mailed.of_inbound inbound⟩
  · have few := mail.few identifier update posted
    rw [handle_plaintext_piece authenticated (Nat.lt_of_lt_of_le inside few) plaintext]
    have stamped : Mailed mail key
        ({ protocol with latestPeerTimestamp := some sentTimestamp } : ClientProtocol lib.terminal) :=
      ⟨mailed.cipher, mailed.direction, mailed.assembling⟩
    have handled := handle_piece lawful stamped authenticated posted sentTimestamp echoedTimestamp
      inside
    have same : SameRemote protocol
        { protocol with latestPeerTimestamp := some sentTimestamp } := ⟨rfl, rfl, rfl, rfl⟩
    exact ⟨handled.1.of_same same, handled.2⟩

/-- An authentic datagram hands over a letter of the server, or nothing. -/
theorem ingest_mail (lawful : LawfulCodec lib.codec) (mailed : Mailed mail key protocol)
    {packet : Bytes} (authentic : mail.Authentic key packet) :
    MailStep mail protocol (protocol.ingestPacket lib packet) ∧
      Mailed mail key (protocol.ingestPacket lib packet).2 := by
  have same : protocol.secureChannel.openPacket lib.aead packet =
      (SecureChannel.new .client key).openPacket lib.aead packet :=
    open_of_inbound lib.aead mailed.cipher mailed.direction packet
  unfold ingestPacket
  rw [same]
  rcases opened : (SecureChannel.new .client key).openPacket lib.aead packet with error | authenticated
  · exact ⟨.unchanged (.refl protocol) rfl, mailed⟩
  · dsimp only
    have seen : Mailed mail key
        ({ protocol with
          replayWindow := (protocol.replayWindow.accept authenticated.counter).2 } :
            ClientProtocol lib.terminal) :=
      ⟨mailed.cipher, mailed.direction, mailed.assembling⟩
    cases (protocol.replayWindow.accept authenticated.counter).1 with
    | false => exact ⟨.unchanged ⟨rfl, rfl, rfl, rfl⟩ rfl, seen⟩
    | true =>
        have handled := handle_plaintext_mail lawful seen authenticated
          (authentic authenticated opened)
        have window : SameRemote protocol
            { protocol with
              replayWindow := (protocol.replayWindow.accept authenticated.counter).2 } :=
          ⟨rfl, rfl, rfl, rfl⟩
        exact ⟨handled.1.of_same window, handled.2⟩

/-- No letter on top of a retained state outgrows the limits of a history. -/
def HasRoom (mail : Mail lib server initial) (protocol : ClientProtocol lib.terminal) : Prop :=
  ∀ identifier update, mail.letter identifier = some update → ∀ base batch,
    protocol.receivedStates.lookup update.baseState = some base →
    update.decodeInstructions lib.codec = .ok batch → base.validateHistoryGrowth batch = .ok ()

/-- What the host reads from the delivery of a receipt. -/
def receiptStream (codec : Codec) (receipt : Except SessionError PacketReceipt) : List StreamItem :=
  ((receiptAdvance receipt).map fun update =>
    instructionsStream (deliveredInstructions codec update)).getD []

/-- A letter keeps the correspondence with the server and delivers what its content has more. -/
theorem MailStep.follows (lawful : LawfulLibraries lib)
    {outcome : Except SessionError PacketReceipt × ClientProtocol lib.terminal}
    (step : MailStep mail protocol outcome) (invariant : RemoteInvariant protocol)
    (follows : Follows server initial protocol) (room : HasRoom mail protocol) :
    RemoteInvariant outcome.2 ∧ Follows server initial outcome.2 ∧
      server.content outcome.2.latestRemoteState =
        server.content protocol.latestRemoteState ++ receiptStream lib.codec outcome.1 := by
  cases step with
  | unchanged same quiet =>
      refine ⟨invariant.of_same same, follows.of_same same, ?_⟩
      rw [receiptStream, quiet, same.latest]
      exact (List.append_nil _).symm
  | accepted middle identifier update posted before after advance =>
      have accepted := accept_follows lawful (invariant.of_same before) (follows.of_same before)
        (mail.sends identifier update posted) (by
          rw [before.received]
          exact room identifier update posted)
      refine ⟨?_, accepted.1.of_same after, ?_⟩
      · exact ((invariant.of_same before).accept lawful.terminal.toLawfulParser update).of_same after
      · rw [after.latest, accepted.2, before.latest, receiptStream, advance]
        rfl

end Steps

end ClientProtocol

end FerrumTty.Session
