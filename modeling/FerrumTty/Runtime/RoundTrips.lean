import FerrumTty.Runtime.Bursts
import FerrumTty.Runtime.Drives
import FerrumTty.Session.Stamps

/-!
# Round trips

All datagrams of a poll carry the time of the poll, cut to 16 bits, and a peer echoes that time.
The difference to the time of the receipt is exact across the wrap. One of the 16-bit times is
also the mark of no echo, and what was sent at such a time is never measured.
-/

namespace FerrumTty.Runtime

set_option autoImplicit false

open Crypto Wire State Session Runs

theorem elapsed_exact {sent received : MonotonicTime}
    (ordered : sent.milliseconds.toNat ≤ received.milliseconds.toNat)
    (near : received.milliseconds.toNat - sent.milliseconds.toNat ≤ 30000) :
    (timestamp received - timestamp sent).toNat =
      received.milliseconds.toNat - sent.milliseconds.toNat := by
  rw [UInt16.toNat_sub]
  change (2 ^ 16 - sent.milliseconds.toNat % 2 ^ 16 + received.milliseconds.toNat % 2 ^ 16) % 2 ^ 16 = _
  omega

namespace SessionRuntime

/-- The sample went into the smoothed round trip and is the newest estimate. -/
structure RecordsSample {terminal : Terminal} (before after : SessionRuntime terminal)
    (milliseconds : Nat) : Prop where
  sample : after.roundTripMilliseconds.map UInt16.toNat = some milliseconds
  smoothed : after.smoothedRoundTripMilliseconds =
    (before.updateRetransmitTimeout milliseconds).smoothedRoundTripMilliseconds
  variation : after.roundTripVariationMilliseconds =
    (before.updateRetransmitTimeout milliseconds).roundTripVariationMilliseconds
  timeout : after.retransmitMilliseconds =
    (before.updateRetransmitTimeout milliseconds).retransmitMilliseconds

section Receipts

variable {lib : Libraries} {runtime : SessionRuntime lib.terminal} {now : MonotonicTime}

theorem update_timeout_of_same {terminal : Terminal} {left right : SessionRuntime terminal}
    (smoothed : left.smoothedRoundTripMilliseconds = right.smoothedRoundTripMilliseconds)
    (variation : left.roundTripVariationMilliseconds = right.roundTripVariationMilliseconds)
    (milliseconds : Nat) :
    (left.updateRetransmitTimeout milliseconds).smoothedRoundTripMilliseconds =
        (right.updateRetransmitTimeout milliseconds).smoothedRoundTripMilliseconds ∧
      (left.updateRetransmitTimeout milliseconds).roundTripVariationMilliseconds =
        (right.updateRetransmitTimeout milliseconds).roundTripVariationMilliseconds ∧
      (left.updateRetransmitTimeout milliseconds).retransmitMilliseconds =
        (right.updateRetransmitTimeout milliseconds).retransmitMilliseconds := by
  unfold updateRetransmitTimeout
  rw [smoothed, variation]
  exact ⟨rfl, rfl, rfl⟩

theorem record_sample_records {terminal : Terminal} (runtime : SessionRuntime terminal)
    (milliseconds : UInt16) :
    RecordsSample runtime (runtime.recordRoundTripSample milliseconds).2 milliseconds.toNat := by
  unfold recordRoundTripSample
  dsimp only
  split_ifs with known
  · exact ⟨congrArg (Option.map UInt16.toNat) known, rfl, rfl, rfl⟩
  · exact ⟨rfl, rfl, rfl, rfl⟩

theorem note_state_sample (state : ReceivedState) :
    (runtime.noteState state).roundTripMilliseconds = runtime.roundTripMilliseconds ∧
      (runtime.noteState state).smoothedRoundTripMilliseconds =
        runtime.smoothedRoundTripMilliseconds ∧
      (runtime.noteState state).roundTripVariationMilliseconds =
        runtime.roundTripVariationMilliseconds ∧
      (runtime.noteState state).retransmitMilliseconds = runtime.retransmitMilliseconds := by
  unfold noteState
  dsimp only
  split_ifs <;> exact ⟨rfl, rfl, rfl, rfl⟩

theorem handle_receipt_sample (previousCapabilities : Bytes) (receipt : PacketReceipt) :
    ∃ noted : SessionRuntime lib.terminal,
      noted.roundTripMilliseconds = runtime.roundTripMilliseconds ∧
      noted.smoothedRoundTripMilliseconds = runtime.smoothedRoundTripMilliseconds ∧
      noted.roundTripVariationMilliseconds = runtime.roundTripVariationMilliseconds ∧
      (runtime.handleReceipt lib previousCapabilities receipt now).2.roundTripMilliseconds =
        (noted.noteEcho receipt.echoedTimestamp now).2.roundTripMilliseconds ∧
      (runtime.handleReceipt lib previousCapabilities receipt now).2.smoothedRoundTripMilliseconds =
        (noted.noteEcho receipt.echoedTimestamp now).2.smoothedRoundTripMilliseconds ∧
      (runtime.handleReceipt lib previousCapabilities receipt now).2.roundTripVariationMilliseconds =
        (noted.noteEcho receipt.echoedTimestamp now).2.roundTripVariationMilliseconds ∧
      (runtime.handleReceipt lib previousCapabilities receipt now).2.retransmitMilliseconds =
        (noted.noteEcho receipt.echoedTimestamp now).2.retransmitMilliseconds := by
  have connected (arrived : SessionRuntime lib.terminal) :
      arrived.noteConnected.2.roundTripMilliseconds = arrived.roundTripMilliseconds ∧
        arrived.noteConnected.2.smoothedRoundTripMilliseconds =
          arrived.smoothedRoundTripMilliseconds ∧
        arrived.noteConnected.2.roundTripVariationMilliseconds =
          arrived.roundTripVariationMilliseconds := by
    unfold noteConnected
    split_ifs <;> exact ⟨rfl, rfl, rfl⟩
  obtain ⟨sample, smoothed, variation⟩ := connected { runtime with lastReceive := now }
  refine ⟨(noteConnected { runtime with lastReceive := now }).2, sample, smoothed, variation, ?_⟩
  unfold handleReceipt
  dsimp only
  cases receipt.state with
  | none => exact ⟨rfl, rfl, rfl, rfl⟩
  | some state =>
      dsimp only
      split_ifs
      · exact note_state_sample state
      · exact note_state_sample state

theorem note_echo_records {terminal : Terminal} {runtime : SessionRuntime terminal}
    {echoedTimestamp : UInt16} {milliseconds : Nat} (marked : echoedTimestamp ≠ 0xffff)
    (elapsed : (timestamp now - echoedTimestamp).toNat = milliseconds) (near : milliseconds ≤ 30000) :
    RecordsSample runtime (runtime.noteEcho echoedTimestamp now).2 milliseconds := by
  have within : timestamp now - echoedTimestamp ≤ 30000 := by
    rw [UInt16.le_iff_toNat_le, elapsed]
    exact near
  rw [noteEcho, if_pos marked]
  dsimp only
  rw [if_pos within, ← elapsed]
  exact record_sample_records runtime _

theorem receive_records_sample {packet : Bytes} {receipt : PacketReceipt} {milliseconds : Nat}
    (running : runtime.lifecycle = .running)
    (accepted : (runtime.protocol.ingestPacket lib packet).1 = .ok receipt)
    (marked : receipt.echoedTimestamp ≠ 0xffff)
    (elapsed : (timestamp now - receipt.echoedTimestamp).toNat = milliseconds)
    (near : milliseconds ≤ 30000) :
    RecordsSample runtime (runtime.receiveDatagram lib packet now).2 milliseconds := by
  have ready : runtime.ensureRunning = .ok () := by
    rw [ensureRunning, running]
  rw [receiveDatagram, ready]
  dsimp only
  rw [accepted]
  dsimp only
  obtain ⟨noted, _, smoothed, variation, sample, newSmoothed, newVariation, timeout⟩ :=
    @handle_receipt_sample lib
      { runtime with protocol := (runtime.protocol.ingestPacket lib packet).2 } now
      runtime.protocol.remoteCapabilities receipt
  have records : RecordsSample noted (noted.noteEcho receipt.echoedTimestamp now).2 milliseconds :=
    note_echo_records marked elapsed near
  obtain ⟨first, second, third⟩ := @update_timeout_of_same _ noted runtime smoothed variation milliseconds
  exact ⟨(congrArg (Option.map UInt16.toNat) sample).trans records.sample,
    newSmoothed.trans (records.smoothed.trans first), newVariation.trans (records.variation.trans second),
    timeout.trans (records.timeout.trans third)⟩

theorem receive_unmarked {packet : Bytes} {receipt : PacketReceipt} (running : runtime.lifecycle = .running)
    (accepted : (runtime.protocol.ingestPacket lib packet).1 = .ok receipt)
    (unmarked : receipt.echoedTimestamp = 0xffff) :
    (runtime.receiveDatagram lib packet now).2.roundTripMilliseconds = runtime.roundTripMilliseconds := by
  have ready : runtime.ensureRunning = .ok () := by
    rw [ensureRunning, running]
  rw [receiveDatagram, ready]
  dsimp only
  rw [accepted]
  dsimp only
  obtain ⟨noted, same, _, _, sample, _⟩ :=
    @handle_receipt_sample lib
      { runtime with protocol := (runtime.protocol.ingestPacket lib packet).2 } now
      runtime.protocol.remoteCapabilities receipt
  rw [sample, unmarked, noteEcho, if_neg (not_not.mpr rfl)]
  exact same

end Receipts

section Sending

variable {lib : Libraries} {key : SessionKey} {runtime after : SessionRuntime lib.terminal}
  {now : MonotonicTime} {actions : List SessionAction}

def Stamped (lib : Libraries) (key : SessionKey) (stamp : UInt16) (actions : List SessionAction) : Prop :=
  ∀ packet, .sendDatagram packet ∈ actions → CarriesStamp lib.aead key packet stamp

theorem silent_stamped {quiet : List SessionAction} (silent : Silent quiet) {stamp : UInt16} :
    Stamped lib key stamp quiet := by
  intro packet member
  have never := silent _ member
  cases never

theorem Stamped.append {stamp : UInt16} {first second : List SessionAction}
    (early : Stamped lib key stamp first) (late : Stamped lib key stamp second) :
    Stamped lib key stamp (first ++ second) := by
  intro packet member
  rcases List.mem_append.mp member with here | there
  · exact early packet here
  · exact late packet there

theorem send_actions_stamped {stamp : UInt16} {packets : List Bytes}
    (carries : ∀ packet ∈ packets, CarriesStamp lib.aead key packet stamp) :
    Stamped lib key stamp (sendActions packets) := by
  intro packet member
  obtain ⟨other, inside, same⟩ := List.mem_map.mp member
  cases same
  exact carries packet inside

theorem diagnostic_silent (event : DiagnosticEvent) : Silent [.diagnostic event] := by
  simp [Silent, isDatagram]

theorem completion_silent {terminal : Terminal} (sent : SessionRuntime terminal) :
    Silent sent.completePeerShutdownAfterAck.1 := by
  unfold completePeerShutdownAfterAck
  split_ifs
  · exact complete_silent _ _
  · exact silent_nil

theorem message_stamped {stamp : UInt16} {packets : List Bytes}
    (carries : ∀ packet ∈ packets, CarriesStamp lib.aead key packet stamp) (event : DiagnosticEvent)
    {completion : List SessionAction} (silent : Silent completion) :
    Stamped lib key stamp (sendActions packets ++ [.diagnostic event] ++ completion) :=
  ((send_actions_stamped carries).append (silent_stamped (diagnostic_silent event))).append
    (silent_stamped silent)

theorem build_queued_stamped (lawful : LawfulAead lib.aead)
    (seals : ClientProtocol.SealsWith key runtime.protocol) {packets : List Bytes}
    {event : DiagnosticEvent}
    (built : runtime.buildQueuedUpdate lib now = (.ok (packets, event), after)) :
    ∀ packet ∈ packets, CarriesStamp lib.aead key packet (timestamp now) := by
  have sealed := (build_queued_built built).1
  unfold buildQueuedPackets at sealed
  split_ifs at sealed
  · exact ClientProtocol.build_shutdown_ack_stamped lawful seals sealed
  · exact ClientProtocol.build_shutdown_stamped lawful seals sealed
  · exact ClientProtocol.build_update_stamped lawful seals sealed

theorem poll_send_stamped (lawful : LawfulAead lib.aead)
    (seals : ClientProtocol.SealsWith key runtime.protocol)
    (polled : runtime.pollSend lib now = (.ok actions, after)) :
    Stamped lib key (timestamp now) actions := by
  unfold pollSend at polled
  dsimp only at polled
  split_ifs at polled
  · unfold pollQueued at polled
    cases built : runtime.buildQueuedUpdate lib now with
    | mk result sent =>
        rw [built] at polled
        cases result with
        | error error => cases polled
        | ok update =>
            cases polled
            exact message_stamped (build_queued_stamped lawful seals built) _ (completion_silent _)
  · unfold pollPending at polled
    split_ifs at polled
    · cases polled
      exact silent_stamped silent_nil
    · cases built : runtime.protocol.retransmitPending lib (timestamp now) with
      | mk result protocol =>
          rw [built] at polled
          cases result with
          | error error => cases polled
          | ok packets =>
              cases congrArg Prod.fst polled
              exact message_stamped (ClientProtocol.retransmit_pending_stamped lawful seals built) _
                (completion_silent _)
  · unfold pollHeartbeat at polled
    split_ifs at polled
    · cases polled
      exact silent_stamped silent_nil
    · cases built : runtime.protocol.buildAcknowledgement lib (timestamp now) with
      | mk result protocol =>
          rw [built] at polled
          cases result with
          | error error => cases polled
          | ok packets =>
              cases congrArg Prod.fst polled
              exact message_stamped (ClientProtocol.build_acknowledgement_stamped lawful seals built) _
                (completion_silent _)

theorem association_stamped (lawful : LawfulAead lib.aead)
    (seals : ClientProtocol.SealsWith key runtime.protocol)
    (opened : runtime.pollAssociation lib now = (.ok actions, after)) :
    Stamped lib key (timestamp now) actions ∧ ClientProtocol.SealsWith key after.protocol := by
  have association := poll_association_cases runtime now
  rw [opened] at association
  cases association with
  | kept _ => exact ⟨silent_stamped silent_nil, seals⟩
  | opened packets protocol event due performed =>
      have kept := seals.perform lawful (.buildAssociation (timestamp now))
      rw [performed] at kept
      have built : runtime.protocol.buildAcknowledgement lib (timestamp now) =
          (.ok packets, protocol) := by
        simp only [ClientProtocol.perform, Prod.mk.injEq, ProtocolOutput.packets.injEq] at performed
        exact Prod.ext performed.1 performed.2
      have carries := ClientProtocol.build_acknowledgement_stamped lawful seals built
      exact ⟨(send_actions_stamped carries).append (silent_stamped (diagnostic_silent event)), kept⟩

theorem poll_stamped (lawful : LawfulAead lib.aead)
    (seals : ClientProtocol.SealsWith key runtime.protocol)
    (polled : runtime.poll lib now = (.ok actions, after)) :
    Stamped lib key (timestamp now) actions := by
  rcases poll_parts polled with silent | ⟨opening, middle, sent, opened, sending, parts⟩
  · exact silent_stamped silent
  · obtain ⟨early, keeps⟩ := association_stamped lawful seals opened
    have noted : ClientProtocol.SealsWith key (middle.connectionStateAction now).2.protocol := by
      obtain ⟨state, same⟩ := connection_frame middle now
      rw [same]
      exact keeps
    have late := poll_send_stamped lawful noted sending
    have notes := (connection_notes_plain middle now).silent
    rw [parts]
    exact (early.append (silent_stamped notes)).append late

end Sending

/-- A poll returned a datagram, and later a datagram that echoes its time is accepted. -/
structure RoundTrip (lib : Libraries) (key : SessionKey) (before after : SessionRuntime lib.terminal)
    (sent : MonotonicTime) (datagram packet : Bytes) (stamp : UInt16) : Prop where
  leaves : .sendDatagram datagram ∈ (stepAt (perform lib) before (.poll sent)).output.actions
  carries : CarriesStamp lib.aead key datagram stamp
  running : after.lifecycle = .running
  echoes : ∃ authenticated, after.protocol.secureChannel.openPacket lib.aead packet = .ok authenticated ∧
    echoedStamp authenticated = stamp
  accepted : ∃ receipt, (after.protocol.ingestPacket lib packet).1 = .ok receipt

/-- In every run each round trip between the two times is recorded as the time between them. -/
def MeasuresRoundTrips (sent received : MonotonicTime) : Prop :=
  ∀ lib : Libraries, LawfulAead lib.aead → ∀ key start operations between datagram packet stamp,
    RoundTrip lib key (final (perform lib) (new lib.terminal key start) operations)
        (final (perform lib) (new lib.terminal key start) (operations ++ .poll sent :: between))
        sent datagram packet stamp →
      RecordsSample
        (final (perform lib) (new lib.terminal key start) (operations ++ .poll sent :: between))
        ((final (perform lib) (new lib.terminal key start)
          (operations ++ .poll sent :: between)).receiveDatagram lib packet received).2
        (received.milliseconds.toNat - sent.milliseconds.toNat)

section Measuring

theorem marked_times_measured {sent received : MonotonicTime}
    (ordered : sent.milliseconds.toNat ≤ received.milliseconds.toNat)
    (near : received.milliseconds.toNat - sent.milliseconds.toNat ≤ 30000)
    (marked : timestamp sent ≠ 0xffff) : MeasuresRoundTrips sent received := by
  intro lib lawful key start operations between datagram packet stamp trip
  have seals := run_seals_with lawful key start operations
  have same : stamp = timestamp sent := by
    have leaves := trip.leaves
    rw [stepAt, perform] at leaves
    cases polled : (final (perform lib) (new lib.terminal key start) operations).poll lib sent with
    | mk result after =>
        rw [polled] at leaves
        cases result with
        | error error => cases leaves
        | ok actions => exact trip.carries.unique (poll_stamped lawful seals polled datagram leaves)
  obtain ⟨authenticated, opened, echo⟩ := trip.echoes
  obtain ⟨receipt, accepted⟩ := trip.accepted
  have echoed : receipt.echoedTimestamp = timestamp sent :=
    (ClientProtocol.ingest_echo opened accepted).trans (echo.trans same)
  apply receive_records_sample trip.running accepted
  · rw [echoed]
    exact marked
  · rw [echoed]
    exact elapsed_exact ordered near
  · exact near

/-- The first message of a client whose clock shows the mark. -/
def reservedOpening : Except SessionError (List Bytes) × ClientProtocol lineTerminal :=
  (ClientProtocol.new lineTerminal zeroKey).buildAssociation plainLibraries 0xffff

def reservedDatagram : Bytes := (reservedOpening.1.toOption.getD []).headD []

/-- The answer of a server that echoes the mark. -/
def echoingPacket : Bytes :=
  ((SecureChannel.new .server zeroKey).sealNext taggingAead
    (Fragment.pieceAt (STORED_HEADER ++ (StateUpdate.new 0 0 0).encode) 7 0xffff 0 0).encode
    ).1.toOption.getD []

/-- The client behind its first message. -/
def reservedRuntime (now : MonotonicTime) : SessionRuntime plainLibraries.terminal :=
  { new plainLibraries.terminal zeroKey ⟨0⟩ with
    protocol := reservedOpening.2
    association := .sent
    lastSend := some now }

theorem reserved_runtime_waits (now : MonotonicTime) : (reservedRuntime now).sendsAt now = false := by
  have unchosen : (reservedRuntime now).sendsQueued = false := rfl
  have settled : (reservedRuntime now).protocol.hasPendingUpdate = false := by
    change reservedOpening.2.hasPendingUpdate = false
    decide +kernel
  have early : (reservedRuntime now).heartbeatDue now = false := by
    change decide (now.elapsedSince now ≥ 1000) = false
    rw [MonotonicTime.elapsedSince, Nat.sub_self]
    rfl
  rw [sendsAt, unchosen, settled, early]
  rfl

theorem reserved_opening_polled {now : MonotonicTime} (reserved : timestamp now = 0xffff) :
    (new plainLibraries.terminal zeroKey ⟨0⟩).poll plainLibraries now =
      (.ok (.sendDatagram reservedDatagram ::
        [.diagnostic (freshUpdateDiagnostic 0 [reservedDatagram] 0 0)]), reservedRuntime now) := by
  have built : (new plainLibraries.terminal zeroKey ⟨0⟩).protocol.buildAssociation plainLibraries (timestamp now) =
      (.ok [reservedDatagram], reservedOpening.2) := by
    rw [reserved]
    exact Prod.ext (by decide +kernel) rfl
  have unanswered : (reservedRuntime now).protocol.localShutdownAcknowledged = false := by
    change reservedOpening.2.localShutdownAcknowledged = false
    decide +kernel
  have quiet : (reservedRuntime now).connectionStateAction now = (none, reservedRuntime now) :=
    if_neg fun both => nomatch both.1
  have running : (new plainLibraries.terminal zeroKey ⟨0⟩).lifecycle = .running := rfl
  have incomplete : ¬ (new plainLibraries.terminal zeroKey ⟨0⟩).shutdownIsComplete = true :=
    Bool.false_ne_true
  have due : (new plainLibraries.terminal zeroKey ⟨0⟩).association = .due := rfl
  rw [SessionRuntime.poll, if_neg (not_not.mpr running), if_neg incomplete, pollAssociation, if_pos due,
    built]
  change (reservedRuntime now).pollSession plainLibraries now _ = _
  have onTime : (reservedRuntime now).shutdownTimedOut now = false := rfl
  rw [pollSession, unanswered, onTime, Bool.false_and, Bool.and_false, if_neg Bool.false_ne_true,
    if_neg Bool.false_ne_true, quiet]
  dsimp only
  rw [poll_send_waits (reserved_runtime_waits now)]
  rfl

theorem ok_of_some {Problem Item Reading : Type} {result : Except Problem Item} {read : Item → Reading}
    {reading : Reading} (found : result.toOption.map read = some reading) :
    ∃ item, result = .ok item ∧ read item = reading := by
  cases result with
  | error problem => cases found
  | ok item => exact ⟨item, rfl, Option.some.inj found⟩

theorem reserved_time_unmeasured {sent received : MonotonicTime} (reserved : timestamp sent = 0xffff) :
    ¬ MeasuresRoundTrips sent received := by
  intro measures
  have polled := reserved_opening_polled reserved
  have after : final (perform plainLibraries) (new plainLibraries.terminal zeroKey ⟨0⟩) ([] ++ .poll sent :: []) =
      reservedRuntime sent := by
    change (perform plainLibraries (new plainLibraries.terminal zeroKey ⟨0⟩) (.poll sent)).2 = _
    rw [perform, polled]
  have leaves : .sendDatagram reservedDatagram ∈ (stepAt (perform plainLibraries)
      (new plainLibraries.terminal zeroKey ⟨0⟩) (.poll sent)).output.actions := by
    rw [stepAt, perform, polled]
    exact List.mem_cons_self
  have carries : CarriesStamp taggingAead zeroKey reservedDatagram (timestamp sent) :=
    poll_stamped lawful_tagging_aead (ClientProtocol.new_seals_with plainLibraries.terminal zeroKey) polled
      reservedDatagram List.mem_cons_self
  obtain ⟨authenticated, opened, echo⟩ := ok_of_some
    (show (reservedOpening.2.secureChannel.openPacket taggingAead echoingPacket).toOption.map
      echoedStamp = some 0xffff by decide +kernel)
  obtain ⟨receipt, accepted, _⟩ := ok_of_some
    (show ((@ClientProtocol.ingestPacket plainLibraries reservedOpening.2 echoingPacket).1.toOption.map
      PacketReceipt.sentTimestamp) = some 7 by decide +kernel)
  have trip : RoundTrip plainLibraries zeroKey (new plainLibraries.terminal zeroKey ⟨0⟩) (reservedRuntime sent)
      sent reservedDatagram echoingPacket (timestamp sent) :=
    ⟨leaves, carries, rfl, ⟨authenticated, opened, echo.trans reserved.symm⟩, receipt, accepted⟩
  have records := measures plainLibraries lawful_tagging_aead zeroKey ⟨0⟩ [] [] reservedDatagram
    echoingPacket (timestamp sent)
  rw [after] at records
  have sample := (records trip).sample
  have unmarked : receipt.echoedTimestamp = 0xffff :=
    (ClientProtocol.ingest_echo opened accepted).trans echo
  rw [@receive_unmarked plainLibraries (reservedRuntime sent) received _ _ rfl accepted unmarked] at sample
  cases sample

/-- Round trips of up to 30 seconds are measured exactly unless the send time shows the mark. -/
theorem round_trips_exact_iff {sent received : MonotonicTime}
    (ordered : sent.milliseconds.toNat ≤ received.milliseconds.toNat)
    (near : received.milliseconds.toNat - sent.milliseconds.toNat ≤ 30000) :
    MeasuresRoundTrips sent received ↔ timestamp sent ≠ 0xffff := by
  constructor
  · intro measures reserved
    exact reserved_time_unmeasured reserved measures
  · exact marked_times_measured ordered near

/-- A round trip over the wrap of the 16-bit clock. -/
theorem wrapped_round_trip :
    MeasuresRoundTrips ⟨65530⟩ ⟨65600⟩ ↔ timestamp ⟨65530⟩ ≠ 0xffff :=
  round_trips_exact_iff (by decide) (by decide)

/-- What leaves at 65,535 ms and is answered 100 ms later is never measured. -/
theorem reserved_round_trip_lost :
    ¬ ∀ sent received : MonotonicTime,
      sent.milliseconds.toNat ≤ received.milliseconds.toNat →
      received.milliseconds.toNat - sent.milliseconds.toNat ≤ 30000 →
      MeasuresRoundTrips sent received := by
  intro measures
  have reserved : timestamp ⟨65535⟩ = 0xffff := by decide
  exact reserved_time_unmeasured reserved (measures ⟨65535⟩ ⟨65635⟩ (by decide) (by decide))

end Measuring

end SessionRuntime

end FerrumTty.Runtime
