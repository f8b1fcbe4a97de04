import FerrumTty.Runtime.Operations

/-!
# What a poll does

A poll opens the association once, then ends the session, waits, or sends one message. The
outcomes below say so once; the results about runs read them instead of the branches.
-/

namespace FerrumTty.Runtime

set_option autoImplicit false

open Crypto Wire State Session Runs

namespace SessionRuntime

section Choices

variable {terminal : Terminal} (runtime : SessionRuntime terminal)

/-- The choice of `poll` that a queued or a shutdown state goes out. -/
def sendsQueued : Bool :=
  (!runtime.queuedInstructions.isEmpty || runtime.localShutdownUnsent) &&
    !runtime.protocol.hasPendingUpdate

/-- The poll does not wait. -/
def sendsAt (now : MonotonicTime) : Bool :=
  if runtime.sendsQueued then true
  else if runtime.protocol.hasPendingUpdate then !runtime.retransmitWaits now
  else runtime.acknowledgementDue || runtime.heartbeatDue now

variable {runtime} in
/-- The queue waits behind a state in flight. -/
theorem drained_of_pending (pending : runtime.protocol.hasPendingUpdate = true) :
    runtime.sendsQueued = false := by
  rw [sendsQueued, pending, Bool.not_true, Bool.and_false]

theorem sends_queued_of_same {left right : SessionRuntime terminal}
    (queue : left.queuedInstructions = right.queuedInstructions)
    (shutdown : left.shutdown = right.shutdown)
    (states : left.protocol.sentStates = right.protocol.sentStates) :
    left.sendsQueued = right.sendsQueued := by
  simp only [sendsQueued, localShutdownUnsent, shutdownIsRequested, ClientProtocol.hasPendingUpdate,
    ClientProtocol.localShutdownSent, queue, shutdown, states]

/-- What a sending poll reports when the peer's shutdown waits for its acknowledgement. -/
def peerCompletion : List SessionAction :=
  if runtime.peerShutdownAcknowledgementDue then
    [.shutdownComplete .peerRequested, .diagnostic (.shutdownComplete .peerRequested)]
  else []

/-- What ends the session before a poll sends. -/
def endsAt (now : MonotonicTime) : Option ShutdownOutcome :=
  if runtime.peerShutdownAcknowledgementDue then none
  else if runtime.protocol.localShutdownAcknowledged then some .acknowledged
  else if runtime.shutdownTimedOut now then some .timedOut
  else none

theorem ends_cases {now : MonotonicTime} {outcome : ShutdownOutcome}
    (ends : runtime.endsAt now = some outcome) :
    runtime.peerShutdownAcknowledgementDue = false ∧
      (outcome = .acknowledged ∧ runtime.protocol.localShutdownAcknowledged = true ∨
        outcome = .timedOut ∧ runtime.shutdownTimedOut now = true) := by
  unfold endsAt at ends
  split_ifs at ends with due acknowledged timedOut
  · cases ends
    exact ⟨Bool.eq_false_iff.mpr due, Or.inl ⟨rfl, acknowledged⟩⟩
  · cases ends
    exact ⟨Bool.eq_false_iff.mpr due, Or.inr ⟨rfl, timedOut⟩⟩

/-- All messages but acknowledgements count as transmissions. -/
def countedShutdown : ProtocolOperation → ShutdownState
  | .buildAcknowledgement _ => runtime.shutdown
  | _ => runtime.recordShutdownTransmission.shutdown

/-- The shutdown state behind a message, which answers the peer's shutdown if that is due. -/
def shutdownAfter (operation : ProtocolOperation) : ShutdownState :=
  if runtime.peerShutdownAcknowledgementDue then .complete .peerRequested
  else runtime.countedShutdown operation

/-- The method of the protocol that a poll sends with, and the queue it leaves. -/
inductive SendChoice : ProtocolOperation → List Instruction → Prop
  | acknowledgement (sentTimestamp : UInt16) :
      SendChoice (.buildAcknowledgement sentTimestamp) runtime.queuedInstructions
  | retransmission (sentTimestamp : UInt16) :
      SendChoice (.retransmitPending sentTimestamp) runtime.queuedInstructions
  | update (sentTimestamp : UInt16) (settled : runtime.protocol.hasPendingUpdate = false)
      (waiting : runtime.queuedInstructions ≠ []) (requested : runtime.localShutdownUnsent = false) :
      SendChoice (.buildUpdate sentTimestamp ⟨runtime.queuedInstructions⟩) []
  | shutdown (sentTimestamp : UInt16) (settled : runtime.protocol.hasPendingUpdate = false)
      (requested : runtime.localShutdownUnsent = true) :
      SendChoice (.buildShutdown sentTimestamp ⟨runtime.queuedInstructions⟩) []
  | shutdownAck (sentTimestamp : UInt16) (settled : runtime.protocol.hasPendingUpdate = false)
      (answered : runtime.protocol.localShutdownAcknowledged = true)
      (waiting : runtime.queuedInstructions ≠ [] ∨ runtime.localShutdownUnsent = true) :
      SendChoice (.buildShutdownAck sentTimestamp) []

end Choices

variable (lib : Libraries) (runtime : SessionRuntime lib.terminal) (now : MonotonicTime)

inductive AssociationOutcome :
    Except RuntimeError (List SessionAction) × SessionRuntime lib.terminal → Prop
  | kept (opened : runtime.association ≠ .due) : AssociationOutcome (.ok [], runtime)
  | failed (error : RuntimeError) (after : SessionRuntime lib.terminal) :
      AssociationOutcome (.error error, after)
  | opened (packets : List Bytes) (protocol : ClientProtocol lib.terminal)
      (event : DiagnosticEvent) (due : runtime.association = .due)
      (performed : runtime.protocol.perform lib (.buildAssociation (timestamp now)) =
        (.packets (.ok packets), protocol)) :
      AssociationOutcome (.ok (sendActions packets ++ [.diagnostic event]),
        { runtime with protocol, association := .sent, lastSend := some now })

inductive SendOutcome :
    Except RuntimeError (List SessionAction) × SessionRuntime lib.terminal → Prop
  | waited (waits : runtime.sendsAt now = false) : SendOutcome (.ok [], runtime)
  | failed (error : RuntimeError) (after : SessionRuntime lib.terminal) :
      SendOutcome (.error error, after)
  | sent (operation : ProtocolOperation) (queue : List Instruction) (packets : List Bytes)
      (event : DiagnosticEvent) (after : SessionRuntime lib.terminal)
      (sends : runtime.sendsAt now = true) (choice : SendChoice runtime operation queue)
      (performed : runtime.protocol.perform lib operation =
        (.packets (.ok packets), after.protocol))
      (queued : after.queuedInstructions = queue)
      (shutdown : after.shutdown = runtime.shutdownAfter operation)
      (answered : after.peerShutdownAcknowledgementDue = false) :
      SendOutcome (.ok (sendActions packets ++ .diagnostic event :: runtime.peerCompletion), after)

inductive PollOutcome :
    Except RuntimeError (List SessionAction) × SessionRuntime lib.terminal → Prop
  | idle (stopped : runtime.lifecycle ≠ .running ∨ runtime.shutdownIsComplete = true) :
      PollOutcome (.ok [], runtime)
  | failed (error : RuntimeError) (after : SessionRuntime lib.terminal) :
      PollOutcome (.error error, after)
  | ended (opening : List SessionAction) (middle : SessionRuntime lib.terminal)
      (outcome : ShutdownOutcome) (running : runtime.lifecycle = .running)
      (incomplete : runtime.shutdownIsComplete = false)
      (association : AssociationOutcome lib runtime now (.ok opening, middle))
      (ends : middle.endsAt now = some outcome) :
      PollOutcome (middle.completeShutdown outcome |>.map .ok id)
  | went (opening sent : List SessionAction) (middle after : SessionRuntime lib.terminal)
      (running : runtime.lifecycle = .running) (incomplete : runtime.shutdownIsComplete = false)
      (association : AssociationOutcome lib runtime now (.ok opening, middle))
      (goesOn : middle.endsAt now = none)
      (sending : SendOutcome lib (middle.connectionStateAction now).2 now (.ok sent, after)) :
      PollOutcome (.ok (opening ++
        (middle.connectionStateAction now).1.toList.flatMap connectionActions ++ sent), after)

variable {lib} {runtime} {now}

variable (runtime now) in
theorem poll_association_cases : AssociationOutcome lib runtime now (runtime.pollAssociation lib now) := by
  unfold pollAssociation
  split_ifs with due
  · cases built : runtime.protocol.buildAssociation lib (timestamp now) with
    | mk result protocol =>
        cases result with
        | error error => exact .failed _ _
        | ok packets =>
            apply AssociationOutcome.opened _ _ _ due
            rw [ClientProtocol.perform, built]
  · exact .kept due

/-- The end of every sending branch answers the peer's shutdown. -/
theorem completion_cases (counted : SessionRuntime lib.terminal) :
    counted.completePeerShutdownAfterAck.1 = counted.peerCompletion ∧
      counted.completePeerShutdownAfterAck.2.protocol = counted.protocol ∧
      counted.completePeerShutdownAfterAck.2.queuedInstructions = counted.queuedInstructions ∧
      counted.completePeerShutdownAfterAck.2.shutdown =
        (if counted.peerShutdownAcknowledgementDue then .complete .peerRequested
        else counted.shutdown) ∧
      counted.completePeerShutdownAfterAck.2.peerShutdownAcknowledgementDue = false := by
  unfold completePeerShutdownAfterAck peerCompletion
  split_ifs with due
  · exact ⟨rfl, rfl, rfl, rfl, rfl⟩
  · exact ⟨rfl, rfl, rfl, rfl, Bool.eq_false_iff.mpr due⟩

theorem record_transmission_cases (sent : SessionRuntime lib.terminal) :
    sent.recordShutdownTransmission.protocol = sent.protocol ∧
      sent.recordShutdownTransmission.queuedInstructions = sent.queuedInstructions ∧
      sent.recordShutdownTransmission.peerShutdownAcknowledgementDue =
        sent.peerShutdownAcknowledgementDue := by
  unfold recordShutdownTransmission
  split <;> exact ⟨rfl, rfl, rfl⟩

theorem record_transmission_of_shutdown {left right : SessionRuntime lib.terminal}
    (same : left.shutdown = right.shutdown) :
    left.recordShutdownTransmission.shutdown = right.recordShutdownTransmission.shutdown := by
  unfold recordShutdownTransmission
  rw [same]
  cases right.shutdown <;> first | rfl | exact same

theorem completed_shutdown {counted : SessionRuntime lib.terminal} {operation : ProtocolOperation}
    (records : counted.shutdown = runtime.countedShutdown operation)
    (due : counted.peerShutdownAcknowledgementDue = runtime.peerShutdownAcknowledgementDue) :
    counted.completePeerShutdownAfterAck.2.shutdown = runtime.shutdownAfter operation := by
  rw [(completion_cases counted).2.2.2.1, due, records, shutdownAfter]

theorem peer_completion_of_due {left right : SessionRuntime lib.terminal}
    (same : left.peerShutdownAcknowledgementDue = right.peerShutdownAcknowledgementDue) :
    left.peerCompletion = right.peerCompletion := by
  rw [peerCompletion, peerCompletion, same]

theorem build_queued_built {packets : List Bytes} {event : DiagnosticEvent}
    {after : SessionRuntime lib.terminal}
    (built : runtime.buildQueuedUpdate lib now = (.ok (packets, event), after)) :
    runtime.buildQueuedPackets lib ⟨runtime.queuedInstructions⟩ now = (.ok packets, after.protocol) ∧
      after.queuedInstructions = [] ∧ after.shutdown = runtime.shutdown ∧
      after.peerShutdownAcknowledgementDue = runtime.peerShutdownAcknowledgementDue := by
  unfold buildQueuedUpdate at built
  dsimp only at built
  split at built
  · cases built
  · rename_i written protocol sealed
    cases built
    exact ⟨sealed, rfl, rfl, rfl⟩

theorem build_queued_cases {packets : List Bytes} {event : DiagnosticEvent}
    {after : SessionRuntime lib.terminal}
    (built : runtime.buildQueuedUpdate lib now = (.ok (packets, event), after))
    (chosen : runtime.sendsQueued = true) :
    (∃ operation, SendChoice runtime operation [] ∧
      runtime.countedShutdown operation = runtime.recordShutdownTransmission.shutdown ∧
      runtime.protocol.perform lib operation = (.packets (.ok packets), after.protocol)) ∧
      after.queuedInstructions = [] ∧ after.shutdown = runtime.shutdown ∧
      after.peerShutdownAcknowledgementDue = runtime.peerShutdownAcknowledgementDue := by
  have settled : runtime.protocol.hasPendingUpdate = false := by
    simp only [sendsQueued, Bool.and_eq_true, Bool.not_eq_true'] at chosen
    exact chosen.2
  have waiting : runtime.queuedInstructions ≠ [] ∨ runtime.localShutdownUnsent = true := by
    simp only [sendsQueued, Bool.and_eq_true, Bool.or_eq_true, Bool.not_eq_true',
      List.isEmpty_eq_false_iff] at chosen
    exact chosen.1
  rcases build_queued_built built with ⟨sealed, left⟩
  refine ⟨?_, left⟩
  unfold buildQueuedPackets at sealed
  split_ifs at sealed with ackDue unsent
  · have answered : runtime.protocol.localShutdownAcknowledged = true := by
      simp only [shutdownAckDue, Bool.and_eq_true] at ackDue
      exact ackDue.2
    refine ⟨_, .shutdownAck (timestamp now) settled answered waiting, rfl, ?_⟩
    rw [ClientProtocol.perform, sealed]
  · refine ⟨_, .shutdown (timestamp now) settled unsent, rfl, ?_⟩
    rw [ClientProtocol.perform, sealed]
  · have requested : runtime.localShutdownUnsent = false := Bool.eq_false_iff.mpr unsent
    have nonempty : runtime.queuedInstructions ≠ [] := by
      rcases waiting with present | due
      · exact present
      · exact absurd due unsent
    refine ⟨_, .update (timestamp now) settled nonempty requested, rfl, ?_⟩
    rw [ClientProtocol.perform, sealed]

theorem poll_queued_cases (chosen : runtime.sendsQueued = true) :
    SendOutcome lib runtime now (runtime.pollQueued lib now) := by
  have sends : runtime.sendsAt now = true := by rw [sendsAt, if_pos chosen]
  unfold pollQueued
  cases built : runtime.buildQueuedUpdate lib now with
  | mk result after =>
      cases result with
      | error error => exact .failed _ _
      | ok sent =>
          obtain ⟨packets, event⟩ := sent
          obtain ⟨⟨operation, choice, counts, performed⟩, emptied, shutdown, due⟩ :=
            build_queued_cases built chosen
          obtain ⟨kept, queue, answered⟩ := record_transmission_cases after
          obtain ⟨completion, protocol, sameQueue, _, answersPeer⟩ :=
            completion_cases after.recordShutdownTransmission
          have report : after.recordShutdownTransmission.completePeerShutdownAfterAck.1 =
              runtime.peerCompletion := by
            rw [completion]
            exact peer_completion_of_due (answered.trans due)
          dsimp only
          rw [report, List.append_assoc]
          apply SendOutcome.sent operation [] packets event _ sends choice
          · rw [protocol, kept]
            exact performed
          · rw [sameQueue, queue, emptied]
          · apply completed_shutdown _ (answered.trans due)
            rw [counts]
            exact record_transmission_of_shutdown shutdown
          · exact answersPeer

theorem poll_pending_cases (unchosen : runtime.sendsQueued = false)
    (pending : runtime.protocol.hasPendingUpdate = true) :
    SendOutcome lib runtime now (runtime.pollPending lib now) := by
  have choice : runtime.sendsAt now = !runtime.retransmitWaits now := by
    rw [sendsAt, if_neg (by rw [unchosen]; decide), if_pos pending]
  unfold pollPending
  cases waits : runtime.retransmitWaits now with
  | true =>
      apply SendOutcome.waited
      rw [choice, waits]
      rfl
  | false =>
      rw [waits] at choice
      cases built : runtime.protocol.retransmitPending lib (timestamp now) with
      | mk result protocol =>
          cases result with
          | error error => exact .failed _ _
          | ok packets =>
              simp only [Bool.false_eq_true, if_false]
              rw [List.append_assoc]
              have counted := record_transmission_cases
                { runtime with protocol, lastSend := some now, acknowledgementDue := false }
              have completed := completion_cases (recordShutdownTransmission
                { runtime with protocol, lastSend := some now, acknowledgementDue := false })
              rw [completed.1, peer_completion_of_due counted.2.2]
              apply SendOutcome.sent (.retransmitPending (timestamp now)) runtime.queuedInstructions
                packets _ _ choice (.retransmission _)
              · rw [completed.2.1, counted.1, ClientProtocol.perform, built]
              · rw [completed.2.2.1, counted.2.1]
              · refine completed_shutdown ?_ ?_
                · exact record_transmission_of_shutdown rfl
                · exact counted.2.2
              · exact completed.2.2.2.2

theorem poll_heartbeat_cases (unchosen : runtime.sendsQueued = false)
    (settled : runtime.protocol.hasPendingUpdate = false) :
    SendOutcome lib runtime now (runtime.pollHeartbeat lib now) := by
  have choice : runtime.sendsAt now = (runtime.acknowledgementDue || runtime.heartbeatDue now) := by
    rw [sendsAt, if_neg (by rw [unchosen]; decide), if_neg (by rw [settled]; decide)]
  unfold pollHeartbeat
  split_ifs with waits
  · apply SendOutcome.waited
    rw [choice]
    simpa using waits
  · have sends : runtime.sendsAt now = true := by
      rw [choice]
      simpa [Decidable.or_iff_not_imp_left] using waits
    cases built : runtime.protocol.buildAcknowledgement lib (timestamp now) with
    | mk result protocol =>
        cases result with
        | error error => exact .failed _ _
        | ok packets =>
            simp only
            rw [List.append_assoc]
            have completed := completion_cases
              { runtime with protocol, lastSend := some now, acknowledgementDue := false }
            rw [completed.1]
            apply SendOutcome.sent (.buildAcknowledgement (timestamp now)) runtime.queuedInstructions
              packets _ _ sends (.acknowledgement _)
            · rw [completed.2.1, ClientProtocol.perform, built]
            · rw [completed.2.2.1]
            · exact completed_shutdown rfl rfl
            · exact completed.2.2.2.2

variable (runtime now) in
theorem poll_send_eq :
    runtime.pollSend lib now =
      if runtime.sendsQueued then runtime.pollQueued lib now
      else if runtime.protocol.hasPendingUpdate then runtime.pollPending lib now
      else runtime.pollHeartbeat lib now := rfl

theorem poll_send_waits (waits : runtime.sendsAt now = false) :
    runtime.pollSend lib now = (.ok [], runtime) := by
  rw [poll_send_eq]
  rw [sendsAt] at waits
  split_ifs at waits ⊢ with chosen pending
  · rw [Bool.not_eq_false'] at waits
    rw [pollPending, if_pos waits]
  · rw [pollHeartbeat, ← Bool.not_or, waits]
    rfl

variable (runtime now) in
theorem poll_send_cases : SendOutcome lib runtime now (runtime.pollSend lib now) := by
  rw [poll_send_eq]
  split_ifs with chosen pending
  · exact poll_queued_cases chosen
  · exact poll_pending_cases (Bool.eq_false_iff.mpr chosen) pending
  · exact poll_heartbeat_cases (Bool.eq_false_iff.mpr chosen) (Bool.eq_false_iff.mpr pending)

variable (lib runtime now) in
theorem poll_cases : PollOutcome lib runtime now (runtime.poll lib now) := by
  unfold poll
  split_ifs with stopped complete
  · exact .idle (Or.inl stopped)
  · exact .idle (Or.inr complete)
  · have association := poll_association_cases runtime now
    cases opened : runtime.pollAssociation lib now with
    | mk result middle =>
        rw [opened] at association
        cases result with
        | error error => exact .failed _ _
        | ok opening =>
            dsimp only
            unfold pollSession
            have running := not_not.mp stopped
            have incomplete := Bool.eq_false_iff.mpr complete
            split_ifs with acknowledged timedOut
            · simp only [Bool.and_eq_true, Bool.not_eq_true'] at acknowledged
              apply PollOutcome.ended opening middle .acknowledged running incomplete association
              simp [endsAt, acknowledged]
            · apply PollOutcome.ended opening middle .timedOut running incomplete association
              simp only [Bool.and_eq_true, Bool.not_eq_true', not_and, Bool.not_eq_false] at *
              grind [endsAt]
            · have sending := poll_send_cases (middle.connectionStateAction now).2 now
              dsimp only
              cases sent : (middle.connectionStateAction now).2.pollSend lib now with
              | mk outcome after =>
                  rw [sent] at sending
                  cases outcome with
                  | error error => exact .failed _ _
                  | ok actions =>
                      refine .went opening actions middle after running incomplete association ?_
                        sending
                      grind [endsAt]

theorem complete_silent {terminal : Terminal} (runtime : SessionRuntime terminal)
    (outcome : ShutdownOutcome) : Silent (runtime.completeShutdown outcome).1 := by
  simp [Silent, completeShutdown, isDatagram]

/-- A poll with a datagram in its actions goes on to send behind the association. -/
theorem poll_parts {actions : List SessionAction} {after : SessionRuntime lib.terminal}
    (polled : runtime.poll lib now = (.ok actions, after)) :
    Silent actions ∨ ∃ opening middle sent,
      runtime.pollAssociation lib now = (.ok opening, middle) ∧
      (middle.connectionStateAction now).2.pollSend lib now = (.ok sent, after) ∧
      actions =
        opening ++ (middle.connectionStateAction now).1.toList.flatMap connectionActions ++ sent := by
  unfold poll at polled
  split_ifs at polled
  · cases polled
    exact Or.inl silent_nil
  · cases polled
    exact Or.inl silent_nil
  · cases opened : runtime.pollAssociation lib now with
    | mk result middle =>
        rw [opened] at polled
        cases result with
        | error error => cases polled
        | ok opening =>
            dsimp only at polled
            unfold pollSession at polled
            split_ifs at polled
            · cases polled
              exact Or.inl (complete_silent middle _)
            · cases polled
              exact Or.inl (complete_silent middle _)
            · dsimp only at polled
              cases sending : (middle.connectionStateAction now).2.pollSend lib now with
              | mk outcome last =>
                  rw [sending] at polled
                  cases outcome with
                  | error error => cases polled
                  | ok sent =>
                      cases polled
                      exact Or.inr ⟨opening, middle, sent, rfl, sending, rfl⟩

theorem poll_succeeds {before : SessionRuntime lib.terminal}
    (fine : (stepAt (perform lib) before (.poll now)).output.isError = false) :
    ∃ actions, (stepAt (perform lib) before (.poll now)).output = .acted (.ok actions) ∧
      PollOutcome lib before now (.ok actions, (stepAt (perform lib) before (.poll now)).after) := by
  have polled := poll_cases lib before now
  cases outcome : before.poll lib now with
  | mk result after =>
      simp only [stepAt, perform, outcome] at fine ⊢
      rw [outcome] at polled
      cases result with
      | error error => cases fine
      | ok actions => exact ⟨actions, rfl, polled⟩

theorem event_poll {start : SessionRuntime lib.terminal} {operations : List SessionOperation}
    {event : RuntimeStep lib} (member : event ∈ trace (perform lib) start operations)
    (polls : event.input = .poll now) (fine : event.output.isError = false) :
    ∃ actions, event.output = .acted (.ok actions) ∧
      PollOutcome lib event.before now (.ok actions, event.after) := by
  obtain ⟨earlier, input, later, _, same⟩ := (mem_trace_iff _ _ _ _).mp member
  rw [same] at polls fine ⊢
  change input = .poll now at polls
  rw [polls] at fine ⊢
  exact poll_succeeds fine

theorem poll_cancelled (cancelled : runtime.lifecycle = .cancelled) :
    perform lib runtime (.poll now) = (.acted (.ok []), runtime) := by
  rw [perform, poll, if_pos (by rw [cancelled]; decide)]

end SessionRuntime

end FerrumTty.Runtime
