import FerrumTty.Runtime.Ledger

/-!
# The shutdown handshake

The moves of the shutdown state, and what a step reports about them. An ordinary state may be
in flight when the shutdown is requested, and the peer may ask for a shutdown of its own.
-/

namespace FerrumTty.Runtime

set_option autoImplicit false

open Crypto Wire State Session Runs

/-- Open, then requested by one side, then complete. -/
inductive ShutdownMove : ShutdownState → ShutdownState → Prop
  | stays (state : ShutdownState) : ShutdownMove state state
  | requested (now : MonotonicTime) : ShutdownMove .open (.localRequested now 0)
  | peerRequested : ShutdownMove .open .peerRequested
  | transmitted (startedAt : MonotonicTime) (transmissions : UInt8)
      (room : transmissions < SHUTDOWN_RETRY_LIMIT) :
      ShutdownMove (.localRequested startedAt transmissions)
        (.localRequested startedAt (transmissions + 1))
  | completed (startedAt : MonotonicTime) (transmissions : UInt8) (outcome : ShutdownOutcome) :
      ShutdownMove (.localRequested startedAt transmissions) (.complete outcome)
  | answered : ShutdownMove .peerRequested (.complete .peerRequested)

namespace SessionRuntime

variable {lib : Libraries}

/-- A peer's shutdown that waits for its answer is known to the shutdown state. -/
structure Handshake {terminal : Terminal} (runtime : SessionRuntime terminal) : Prop where
  due : runtime.peerShutdownAcknowledgementDue = true → runtime.shutdown ≠ .open
  asked : runtime.shutdown = .peerRequested → runtime.peerShutdownAcknowledgementDue = true

/-- What the actions of a step say about the end of the session. -/
inductive ShutdownReport {terminal : Terminal} (before after : SessionRuntime terminal)
    (actions : List SessionAction) : Prop
  | plain (plain : Plain actions)
  | ongoing (incomplete : before.shutdownIsComplete = false)
      (absent : ∀ action ∈ actions, isShutdownComplete action = false)
  | completed (incomplete : before.shutdownIsComplete = false) (left : List SessionAction)
      (outcome : ShutdownOutcome)
      (reported : actions =
        left ++ [.shutdownComplete outcome, .diagnostic (.shutdownComplete outcome)])
      (absent : ∀ action ∈ left, isShutdownComplete action = false)
      (complete : after.shutdown = .complete outcome)

/-- One step of the handshake, which only `request_shutdown` starts on this side. -/
structure HandshakeStep {terminal : Terminal} (operation : SessionOperation)
    (before after : SessionRuntime terminal) (actions : List SessionAction) : Prop where
  move : ShutdownMove before.shutdown after.shutdown
  handshake : Handshake after
  report : ShutdownReport before after actions
  quiet : operation.isPoll = false → Plain actions
  ends : ∀ outcome, after.shutdown = .complete outcome →
    before.shutdown = .complete outcome ∨ .shutdownComplete outcome ∈ actions
  starts : before.shutdown = .open → (∃ startedAt transmissions,
    after.shutdown = .localRequested startedAt transmissions) →
      before.lifecycle = .running ∧ ∃ now, operation = .requestShutdown now

theorem new_handshake (terminal : Terminal) (key : SessionKey) (now : MonotonicTime) :
    Handshake (new terminal key now) where
  due := by
    intro due
    cases due
  asked := by
    intro asked
    cases asked

section Acknowledged

variable {terminal : Terminal} {protocol : ClientProtocol terminal} {sent : List Instruction}
  {content : UInt64 → List Instruction}

theorem acknowledged_settled (outbox : protocol.Outbox content sent)
    (acknowledged : protocol.localShutdownAcknowledged = true) :
    protocol.sentStates = [⟨MAXIMUM_STATE, 0⟩] ∧ protocol.localInstructions = [] ∧
      content MAXIMUM_STATE = sent := by
  cases outbox.inFlight with
  | settled confirmed states drained all =>
      rw [ClientProtocol.localShutdownAcknowledged, states] at acknowledged
      have last : confirmed = MAXIMUM_STATE := of_decide_eq_true acknowledged
      rw [last] at states all
      exact ⟨states, drained, all⟩
  | waiting confirmed latest states newer grown all =>
      rw [ClientProtocol.localShutdownAcknowledged, states] at acknowledged
      have last : confirmed = MAXIMUM_STATE := of_decide_eq_true acknowledged
      rw [last] at newer
      exact absurd newer (UInt64.not_lt.mpr (ClientProtocol.le_maximum_state latest))

theorem sent_of_acknowledged (outbox : protocol.Outbox content sent)
    (acknowledged : protocol.localShutdownAcknowledged = true) : protocol.localShutdownSent = true := by
  rw [ClientProtocol.localShutdownSent, (acknowledged_settled outbox acknowledged).1]
  rfl

end Acknowledged

section Poll

variable {key : SessionKey} {runtime middle after : SessionRuntime lib.terminal} {now : MonotonicTime}

theorem message_ongoing (packets : List Bytes) (event : DiagnosticEvent) :
    ∀ action ∈ sendActions packets ++ [.diagnostic event], isShutdownComplete action = false := by
  intro action member
  simp only [sendActions, List.mem_append, List.mem_map, List.mem_singleton] at member
  rcases member with ⟨packet, _, same⟩ | same
  · rw [← same]
    rfl
  · rw [same]
    rfl

theorem AssociationOutcome.handshake_fields {opening : List SessionAction}
    (association : AssociationOutcome lib runtime now (.ok opening, middle)) :
    middle.shutdown = runtime.shutdown ∧
      middle.peerShutdownAcknowledgementDue = runtime.peerShutdownAcknowledgementDue ∧
      (∃ channel, middle.protocol = runtime.protocol.withChannel channel) ∧
      ∀ action ∈ opening, isShutdownComplete action = false := by
  cases association with
  | kept opened =>
      refine ⟨rfl, rfl, ⟨runtime.protocol.secureChannel, rfl⟩, ?_⟩
      intro action member
      cases member
  | opened packets protocol event due performed =>
      exact ⟨rfl, rfl, ClientProtocol.perform_keeps rfl performed, message_ongoing packets event⟩

theorem connection_handshake_fields (runtime : SessionRuntime lib.terminal) (now : MonotonicTime) :
    (runtime.connectionStateAction now).2.shutdown = runtime.shutdown ∧
      (runtime.connectionStateAction now).2.peerShutdownAcknowledgementDue =
        runtime.peerShutdownAcknowledgementDue ∧
      (runtime.connectionStateAction now).2.protocol = runtime.protocol := by
  unfold connectionStateAction
  split_ifs <;> exact ⟨rfl, rfl, rfl⟩

theorem ends_of_same {left right : SessionRuntime lib.terminal}
    (shutdown : left.shutdown = right.shutdown)
    (due : left.peerShutdownAcknowledgementDue = right.peerShutdownAcknowledgementDue)
    (protocol : ∃ channel, left.protocol = right.protocol.withChannel channel) :
    left.endsAt now = right.endsAt now := by
  rcases protocol with ⟨channel, same⟩
  unfold endsAt shutdownTimedOut
  rw [shutdown, due, same]
  rfl

/-- Where a poll comes to what it sends, nothing of the handshake has moved. -/
structure Reached (runtime reached : SessionRuntime lib.terminal) (now : MonotonicTime)
    (early : List SessionAction) : Prop where
  shutdown : reached.shutdown = runtime.shutdown
  due : reached.peerShutdownAcknowledgementDue = runtime.peerShutdownAcknowledgementDue
  protocol : ∃ channel, reached.protocol = runtime.protocol.withChannel channel
  goesOn : runtime.endsAt now = none
  ongoing : ∀ action ∈ early, isShutdownComplete action = false

theorem AssociationOutcome.reached {opening : List SessionAction}
    (association : AssociationOutcome lib runtime now (.ok opening, middle))
    (goesOn : middle.endsAt now = none) :
    Reached runtime (middle.connectionStateAction now).2 now
      (opening ++ (middle.connectionStateAction now).1.toList.flatMap connectionActions) := by
  rcases association.handshake_fields with ⟨shutdown, due, protocol, ongoing⟩
  rcases connection_handshake_fields middle now with ⟨sameShutdown, sameDue, sameProtocol⟩
  constructor
  · exact sameShutdown.trans shutdown
  · exact sameDue.trans due
  · rw [sameProtocol]
    exact protocol
  · rw [← goesOn]
    exact (ends_of_same shutdown due protocol).symm
  · intro action member
    rcases List.mem_append.mp member with first | later
    · exact ongoing action first
    · exact (connection_notes_plain middle now action later).2

theorem Reached.goes_on {early : List SessionAction} (reached : Reached runtime middle now early) :
    middle.endsAt now = none := by
  rw [← reached.goesOn]
  exact ends_of_same reached.shutdown reached.due reached.protocol

theorem record_transmission_requested {startedAt : MonotonicTime} {transmissions : UInt8}
    (requested : runtime.shutdown = .localRequested startedAt transmissions)
    (room : transmissions < SHUTDOWN_RETRY_LIMIT) :
    runtime.recordShutdownTransmission.shutdown = .localRequested startedAt (transmissions + 1) := by
  have below : transmissions ≠ 0xff := by
    intro full
    rw [full] at room
    exact absurd room (by decide)
  unfold recordShutdownTransmission
  rw [requested]
  dsimp only
  rw [if_neg below]

theorem record_transmission_other
    (other : ∀ startedAt transmissions, runtime.shutdown ≠ .localRequested startedAt transmissions) :
    runtime.recordShutdownTransmission.shutdown = runtime.shutdown := by
  unfold recordShutdownTransmission
  split
  · rename_i startedAt transmissions requested
    exact absurd requested (other startedAt transmissions)
  · rfl

/-- A poll that goes on has transmissions left, unless the peer's shutdown is due. -/
theorem goes_on_room {startedAt : MonotonicTime} {transmissions : UInt8}
    (goesOn : runtime.endsAt now = none) (undue : runtime.peerShutdownAcknowledgementDue = false)
    (requested : runtime.shutdown = .localRequested startedAt transmissions) :
    transmissions < SHUTDOWN_RETRY_LIMIT := by
  have waiting : runtime.shutdownTimedOut now = false := by
    unfold endsAt at goesOn
    rw [undue] at goesOn
    simp only [Bool.false_eq_true, if_false] at goesOn
    split_ifs at goesOn with acknowledged timedOut
    exact Bool.eq_false_iff.mpr timedOut
  unfold shutdownTimedOut at waiting
  rw [requested] at waiting
  simp only [decide_eq_false_iff_not, not_or] at waiting
  exact UInt8.not_le.mp waiting.1

theorem shutdown_after_move {operation : ProtocolOperation} (handshake : Handshake runtime)
    (incomplete : runtime.shutdownIsComplete = false) (goesOn : runtime.endsAt now = none) :
    ShutdownMove runtime.shutdown (runtime.shutdownAfter operation) ∧
      runtime.shutdownAfter operation ≠ .peerRequested ∧
      (runtime.shutdown = .open → runtime.shutdownAfter operation = .open) := by
  unfold shutdownAfter
  cases due : runtime.peerShutdownAcknowledgementDue with
  | true =>
      rw [if_pos rfl]
      refine ⟨?_, by simp, fun opened => absurd opened (handshake.due due)⟩
      cases state : runtime.shutdown with
      | «open» => exact absurd state (handshake.due due)
      | localRequested startedAt transmissions => exact .completed _ _ _
      | peerRequested => exact .answered
      | complete outcome => simp [shutdownIsComplete, state] at incomplete
  | false =>
      rw [if_neg (by decide)]
      have unasked : runtime.shutdown ≠ .peerRequested := by
        intro asked
        rw [handshake.asked asked] at due
        cases due
      have counted : ShutdownMove runtime.shutdown runtime.recordShutdownTransmission.shutdown ∧
          runtime.recordShutdownTransmission.shutdown ≠ .peerRequested ∧
          (runtime.shutdown = .open → runtime.recordShutdownTransmission.shutdown = .open) := by
        cases state : runtime.shutdown with
        | localRequested startedAt transmissions =>
            have room := goes_on_room goesOn due state
            rw [record_transmission_requested state room]
            exact ⟨.transmitted startedAt transmissions room, by simp, by simp⟩
        | _ =>
            have same : runtime.recordShutdownTransmission.shutdown = runtime.shutdown :=
              record_transmission_other (by simp [state])
            rw [same, state]
            exact ⟨.stays _, state ▸ unasked, id⟩
      unfold countedShutdown
      split
      · exact ⟨.stays _, unasked, id⟩
      · exact counted

theorem shutdown_after_complete {operation : ProtocolOperation} {outcome : ShutdownOutcome}
    (complete : runtime.shutdownAfter operation = .complete outcome) :
    runtime.shutdown = .complete outcome ∨
      runtime.peerShutdownAcknowledgementDue = true ∧ outcome = .peerRequested := by
  have counted : runtime.recordShutdownTransmission.shutdown = .complete outcome →
      runtime.shutdown = .complete outcome := by
    unfold recordShutdownTransmission
    split
    · intro never
      cases never
    · exact id
  unfold shutdownAfter at complete
  split_ifs at complete with due
  · cases complete
    exact Or.inr ⟨due, rfl⟩
  · left
    unfold countedShutdown at complete
    split at complete
    · exact complete
    · exact counted complete

theorem Handshake.unmoved {before after : SessionRuntime lib.terminal} {actions : List SessionAction} {operation : SessionOperation}
    (handshake : Handshake before) (shutdown : after.shutdown = before.shutdown)
    (due : after.peerShutdownAcknowledgementDue = before.peerShutdownAcknowledgementDue)
    (plain : Plain actions) : HandshakeStep operation before after actions := by
  constructor
  · rw [shutdown]
    exact .stays _
  · constructor
    · rw [shutdown, due]
      exact handshake.due
    · rw [shutdown, due]
      exact handshake.asked
  · exact .plain plain
  · exact fun _ => plain
  · intro outcome complete
    exact Or.inl (shutdown ▸ complete)
  · intro opened requested
    obtain ⟨startedAt, transmissions, state⟩ := requested
    rw [shutdown, opened] at state
    cases state

theorem AssociationOutcome.ended_handshake {opening : List SessionAction} {log : InputLog}
    {content : UInt64 → List Instruction} (ledger : Ledger key runtime log content)
    (handshake : Handshake runtime) {outcome : ShutdownOutcome}
    (incomplete : runtime.shutdownIsComplete = false)
    (association : AssociationOutcome lib runtime now (.ok opening, middle))
    (ends : middle.endsAt now = some outcome) :
    HandshakeStep (.poll now) runtime (middle.completeShutdown outcome).2
      (middle.completeShutdown outcome).1 := by
  obtain ⟨shutdown, due, ⟨channel, protocol⟩, _⟩ := association.handshake_fields
  rcases ends_cases middle ends with ⟨undue, reason⟩
  rw [due] at undue
  constructor
  · change ShutdownMove runtime.shutdown (.complete outcome)
    cases state : runtime.shutdown with
    | «open» =>
        rcases reason with ⟨_, acknowledged⟩ | ⟨_, timedOut⟩
        · rw [protocol] at acknowledged
          have sent := sent_of_acknowledged ledger.outbox acknowledged
          exact absurd state (ledger.closed sent).2
        · rw [shutdownTimedOut, shutdown, state] at timedOut
          cases timedOut
    | localRequested startedAt transmissions => exact .completed _ _ _
    | peerRequested =>
        rw [handshake.asked state] at undue
        cases undue
    | complete outcome => simp [shutdownIsComplete, state] at incomplete
  · constructor
    · intro _ opened
      cases opened
    · intro asked
      cases asked
  · apply ShutdownReport.completed incomplete [] outcome rfl
    · intro action member
      cases member
    · rfl
  · intro notPoll
    cases notPoll
  · intro other complete
    cases complete
    exact Or.inr List.mem_cons_self
  · intro _ requested
    obtain ⟨startedAt, transmissions, state⟩ := requested
    cases state

section Reached

variable {early : List SessionAction}

theorem Reached.handshake (reached : Reached runtime middle now early) (handshake : Handshake runtime) :
    Handshake middle := by
  constructor
  · rw [reached.shutdown, reached.due]
    exact handshake.due
  · rw [reached.shutdown, reached.due]
    exact handshake.asked

theorem Reached.waited_handshake (reached : Reached runtime middle now early)
    (handshake : Handshake runtime) (incomplete : runtime.shutdownIsComplete = false) :
    HandshakeStep (.poll now) runtime middle early := by
  constructor
  · rw [reached.shutdown]
    exact .stays _
  · exact reached.handshake handshake
  · exact .ongoing incomplete reached.ongoing
  · intro notPoll
    cases notPoll
  · intro outcome complete
    exact Or.inl (reached.shutdown ▸ complete)
  · intro opened requested
    obtain ⟨startedAt, transmissions, state⟩ := requested
    rw [reached.shutdown, opened] at state
    cases state

theorem Reached.sent_ongoing (reached : Reached runtime middle now early) (packets : List Bytes)
    (event : DiagnosticEvent) :
    ∀ action ∈ early ++ (sendActions packets ++ [.diagnostic event]),
      isShutdownComplete action = false := by
  intro action member
  rcases List.mem_append.mp member with first | later
  · exact reached.ongoing action first
  · exact message_ongoing packets event action later

theorem Reached.sent_report (reached : Reached runtime middle now early)
    (incomplete : runtime.shutdownIsComplete = false) {operation : ProtocolOperation}
    (packets : List Bytes) (event : DiagnosticEvent)
    (moved : after.shutdown = middle.shutdownAfter operation) :
    ShutdownReport runtime after
      (early ++ (sendActions packets ++ .diagnostic event :: middle.peerCompletion)) := by
  cases waiting : middle.peerShutdownAcknowledgementDue with
  | false =>
      rw [peerCompletion, waiting]
      exact .ongoing incomplete (reached.sent_ongoing packets event)
  | true =>
      rw [peerCompletion, waiting, if_pos rfl]
      apply ShutdownReport.completed incomplete (early ++ (sendActions packets ++ [.diagnostic event]))
        .peerRequested
      · simp
      · exact reached.sent_ongoing packets event
      · rw [moved, shutdownAfter, if_pos waiting]

theorem Reached.sent_handshake (reached : Reached runtime middle now early)
    (handshake : Handshake runtime) (incomplete : runtime.shutdownIsComplete = false)
    {operation : ProtocolOperation} (packets : List Bytes) (event : DiagnosticEvent)
    (moved : after.shutdown = middle.shutdownAfter operation)
    (answered : after.peerShutdownAcknowledgementDue = false) :
    HandshakeStep (.poll now) runtime after
      (early ++ (sendActions packets ++ .diagnostic event :: middle.peerCompletion)) := by
  have incompleteHere : middle.shutdownIsComplete = false := by
    rw [← incomplete]
    unfold shutdownIsComplete
    rw [reached.shutdown]
  rcases shutdown_after_move (reached.handshake handshake) incompleteHere reached.goes_on with
    ⟨move, unasked, stillOpen⟩
  rw [reached.shutdown, ← moved] at move stillOpen
  constructor
  · exact move
  · constructor
    · intro waiting
      rw [answered] at waiting
      cases waiting
    · intro asked
      exact absurd (moved ▸ asked) unasked
  · exact reached.sent_report incomplete packets event moved
  · intro notPoll
    cases notPoll
  · intro outcome complete
    rw [moved] at complete
    rcases shutdown_after_complete complete with already | ⟨waiting, answers⟩
    · exact Or.inl (reached.shutdown ▸ already)
    · right
      rw [answers, peerCompletion, if_pos waiting]
      simp
  · intro opened requested
    obtain ⟨startedAt, transmissions, state⟩ := requested
    rw [stillOpen opened] at state
    cases state

end Reached

theorem PollOutcome.handshake {actions : List SessionAction} {log : InputLog}
    {content : UInt64 → List Instruction} (ledger : Ledger key runtime log content)
    (handshake : Handshake runtime) (polled : PollOutcome lib runtime now (.ok actions, after)) :
    HandshakeStep (.poll now) runtime after actions := by
  cases polled with
  | idle stopped => exact handshake.unmoved rfl rfl no_actions_plain
  | ended opening middle outcome running incomplete association ends =>
      exact association.ended_handshake ledger handshake incomplete ends
  | went opening sent middle after running incomplete association goesOn sending =>
      have reached := association.reached goesOn
      cases sending with
      | waited waits =>
          rw [List.append_nil]
          exact reached.waited_handshake handshake incomplete
      | sent operation queue packets event after sends choice performed queued moved answered =>
          exact reached.sent_handshake handshake incomplete packets event moved answered

end Poll

section Step

variable {key : SessionKey} {before after : SessionRuntime lib.terminal}

theorem Receives.unstarted (receives : Receives before after) (opened : before.shutdown = .open) :
    ¬ ∃ startedAt transmissions, after.shutdown = .localRequested startedAt transmissions := by
  rintro ⟨startedAt, transmissions, state⟩
  rcases receives.shutdown with same | ⟨_, peers, _⟩
  · rw [same, opened] at state
    cases state
  · rw [peers] at state
    cases state

theorem Receives.unended (receives : Receives before after) (outcome : ShutdownOutcome)
    (complete : after.shutdown = .complete outcome) : before.shutdown = .complete outcome := by
  rcases receives.shutdown with same | ⟨_, peers, _⟩
  · exact same ▸ complete
  · rw [peers] at complete
    cases complete

theorem note_state_handshake {terminal : Terminal} {runtime : SessionRuntime terminal}
    (handshake : Handshake runtime) (state : ReceivedState) :
    ShutdownMove runtime.shutdown (runtime.noteState state).shutdown ∧
      Handshake (runtime.noteState state) := by
  unfold noteState
  dsimp only
  split_ifs with last opened
  · rw [opened]
    refine ⟨.peerRequested, ?_, ?_⟩
    · intro _ stillOpen
      cases stillOpen
    · intro _
      rfl
  · refine ⟨.stays _, ?_, ?_⟩
    · intro _
      exact opened
    · intro _
      rfl
  · exact ⟨.stays _, handshake.due, handshake.asked⟩

theorem handle_receipt_handshake (handshake : Handshake before) (previousCapabilities : Bytes)
    (receipt : PacketReceipt) (now : MonotonicTime) :
    ShutdownMove before.shutdown
        (before.handleReceipt lib previousCapabilities receipt now).2.shutdown ∧
      Handshake (before.handleReceipt lib previousCapabilities receipt now).2 := by
  have connected : ∀ runtime : SessionRuntime lib.terminal,
      runtime.noteConnected.2.shutdown = runtime.shutdown ∧
        runtime.noteConnected.2.peerShutdownAcknowledgementDue =
          runtime.peerShutdownAcknowledgementDue := by
    intro runtime
    unfold noteConnected
    split_ifs <;> exact ⟨rfl, rfl⟩
  have echoed : ∀ runtime : SessionRuntime lib.terminal,
      (runtime.noteEcho receipt.echoedTimestamp now).2.shutdown = runtime.shutdown ∧
        (runtime.noteEcho receipt.echoedTimestamp now).2.peerShutdownAcknowledgementDue =
          runtime.peerShutdownAcknowledgementDue := by
    intro runtime
    unfold noteEcho recordRoundTripSample
    dsimp only
    split_ifs <;> exact ⟨rfl, rfl⟩
  unfold handleReceipt
  dsimp only
  generalize stamped : ({ before with lastReceive := now } : SessionRuntime lib.terminal) = runtime
  have shutdown : runtime.shutdown = before.shutdown := by rw [← stamped]
  have due : runtime.peerShutdownAcknowledgementDue = before.peerShutdownAcknowledgementDue := by
    rw [← stamped]
  have noted := echoed runtime.noteConnected.2
  rw [(connected runtime).1, (connected runtime).2, shutdown, due] at noted
  have kept : Handshake (runtime.noteConnected.2.noteEcho receipt.echoedTimestamp now).2 := by
    constructor
    · rw [noted.1, noted.2]
      exact handshake.due
    · rw [noted.1, noted.2]
      exact handshake.asked
  cases receipt.state with
  | none =>
      rw [noted.1]
      exact ⟨.stays _, kept⟩
  | some state =>
      have moved := note_state_handshake kept state
      rw [noted.1] at moved
      dsimp only
      split_ifs
      · exact moved
      · exact moved

theorem receive_datagram_handshake (handshake : Handshake before) (packet : Bytes)
    (now : MonotonicTime) :
    ShutdownMove before.shutdown (before.receiveDatagram lib packet now).2.shutdown ∧
      Handshake (before.receiveDatagram lib packet now).2 := by
  unfold receiveDatagram
  split
  · exact ⟨.stays _, handshake⟩
  · dsimp only
    split
    · exact ⟨.stays _, handshake.due, handshake.asked⟩
    · rename_i receipt _
      have ingested : Handshake
          { before with protocol := (before.protocol.ingestPacket lib packet).2 } :=
        ⟨handshake.due, handshake.asked⟩
      exact handle_receipt_handshake ingested before.protocol.remoteCapabilities receipt now

theorem step_handshake (handshake : Handshake before)
    (ledger : before.lifecycle = .cancelled ∨ ∃ log content, Ledger key before log content)
    {operation : SessionOperation}
    (succeeds : operation.isPoll = true →
      (stepAt (perform lib) before operation).output.isError = false) :
    HandshakeStep operation before (stepAt (perform lib) before operation).after
      (stepAt (perform lib) before operation).output.actions := by
  rcases step_cases lib before operation with ⟨output, after, outcome, kind⟩
  rw [outcome] at succeeds ⊢
  cases kind with
  | poll now =>
      rcases ledger with cancelled | ⟨log, content, ledger⟩
      · rw [← outcome, stepAt, poll_cancelled cancelled]
        exact handshake.unmoved rfl rfl no_actions_plain
      · obtain ⟨actions, output, polled⟩ := poll_succeeds (outcome ▸ succeeds rfl)
        rw [← outcome, output]
        exact polled.handshake ledger handshake
  | receive packet now asked plain =>
      rcases receive_datagram_handshake handshake packet now with ⟨move, kept⟩
      have receives := receive_datagram_receives lib before packet now
      exact ⟨move, kept, .plain plain, fun _ => plain,
        fun outcome complete => Or.inl (receives.unended outcome complete),
        fun opened started => absurd started (receives.unstarted opened)⟩
  | request now running opened =>
      have started : Plain [.diagnostic .shutdownStarted] := by
        simp [Plain, isDatagram, isShutdownComplete]
      constructor
      · rw [opened]
        exact .requested now
      · constructor
        · intro _ stillOpen
          cases stillOpen
        · intro asked
          cases asked
      · exact .plain started
      · exact fun _ => started
      · intro outcome complete
        cases complete
      · intro _ _
        exact ⟨running, now, rfl⟩
  | host other step => exact handshake.unmoved step.shutdown step.due step.plain

end Step

section Cancelled

variable {runtime : SessionRuntime lib.terminal}

/-- Nothing but the capabilities of the protocol moves behind a cancellation. -/
theorem cancelled_stays (cancelled : runtime.lifecycle = .cancelled) (operation : SessionOperation) :
    (runtime.perform lib operation).2.lifecycle = .cancelled := by
  have stopped : runtime.ensureRunning = .error .sessionCancelled := by rw [ensureRunning, cancelled]
  have closed : runtime.ensureAcceptingInput = .error .sessionCancelled := by
    rw [ensureAcceptingInput, stopped]
  have paused : runtime.lifecycle ≠ .running := by
    rw [cancelled]
    decide
  cases operation with
  | queueTerminalEvent event =>
      simp only [perform, queueTerminalEvent, closed]
      exact cancelled
  | queueInput bytes =>
      simp only [perform, queueInput, closed]
      exact cancelled
  | queueResize columns rows =>
      simp only [perform, queueResize, if_pos (Or.inl paused : _ ∨ runtime.shutdown ≠ .open)]
      exact cancelled
  | queueSessionControl kind payload =>
      simp only [perform, queueSessionControl, closed]
      exact cancelled
  | setLocalCapabilities capabilities => exact cancelled
  | pause =>
      simp only [perform, pause, if_pos paused]
      exact cancelled
  | cancel =>
      simp only [perform, cancel, if_pos cancelled]
      exact cancelled
  | requestShutdown now =>
      simp only [perform, requestShutdown, stopped]
      exact cancelled
  | notifyUdpRebound =>
      simp only [perform, notifyUdpRebound, if_pos cancelled]
      exact cancelled
  | resume now =>
      simp only [perform, resume, resumeState, if_pos cancelled]
      exact cancelled
  | resumeWithActions now =>
      simp only [perform, resumeWithActions, if_pos cancelled]
      exact cancelled
  | receiveDatagram packet now =>
      simp only [perform, receiveDatagram, stopped]
      exact cancelled
  | receiveDatagramLossy packet now =>
      simp only [perform, receiveDatagramLossy, receiveDatagram, stopped]
      exact cancelled
  | poll now =>
      simp only [perform, poll, if_pos paused]
      exact cancelled

theorem cancelled_of_mem {operations : List SessionOperation} (member : .cancel ∈ operations) :
    (final (perform lib) runtime operations).lifecycle = .cancelled := by
  obtain ⟨earlier, later, split⟩ := List.append_of_mem member
  rw [split, final_append, final_cons]
  have ended : (perform lib (final (perform lib) runtime earlier) .cancel).2.lifecycle =
      .cancelled := by
    change (cancel _).2.lifecycle = _
    unfold cancel
    split_ifs with already
    · exact already
    · rfl
  exact invariant_final _ (fun state : SessionRuntime lib.terminal => state.lifecycle = .cancelled)
    (fun _ operation cancelled => cancelled_stays cancelled operation) ended later

end Cancelled

section Run

variable {key : SessionKey} {start : MonotonicTime}

theorem polls_succeed_append {runtime : SessionRuntime lib.terminal}
    {earlier later : List SessionOperation}
    (succeed : PollsSucceed (trace (perform lib) runtime (earlier ++ later))) :
    PollsSucceed (trace (perform lib) runtime earlier) ∧
      PollsSucceed (trace (perform lib) (final (perform lib) runtime earlier) later) := by
  rw [trace_append] at succeed
  constructor
  · intro event member
    exact succeed event (List.mem_append_left _ member)
  · intro event member
    exact succeed event (List.mem_append_right _ member)

theorem run_ledger (lawful : LawfulAead lib.aead) {operations : List SessionOperation}
    (succeed : PollsSucceed (trace (perform lib) (new lib.terminal key start) operations)) :
    (final (perform lib) (new lib.terminal key start) operations).lifecycle = .cancelled ∨
      ∃ log content, Ledger key (final (perform lib) (new lib.terminal key start) operations) log
        content := by
  by_cases cancels : .cancel ∈ operations
  · exact Or.inl (cancelled_of_mem cancels)
  · obtain ⟨content, advance⟩ := run_advance lawful (new_ledger lib key start) cancels succeed
    exact Or.inr ⟨_, content, advance.ledger⟩

theorem run_handshake (lawful : LawfulAead lib.aead) {operations : List SessionOperation}
    (succeed : PollsSucceed (trace (perform lib) (new lib.terminal key start) operations)) :
    Handshake (final (perform lib) (new lib.terminal key start) operations) := by
  induction operations using List.reverseRecOn with
  | nil => exact new_handshake lib.terminal key start
  | append_singleton operations operation induction =>
      obtain ⟨earlier, last⟩ := polls_succeed_append succeed
      rw [final_concat]
      exact (step_handshake (induction earlier) (run_ledger lawful earlier)
        (last _ List.mem_cons_self)).handshake

theorem event_handshake (lawful : LawfulAead lib.aead) {operations : List SessionOperation}
    (succeed : PollsSucceed (trace (perform lib) (new lib.terminal key start) operations))
    {event : RuntimeStep lib}
    (member : event ∈ trace (perform lib) (new lib.terminal key start) operations) :
    Handshake event.before ∧
      HandshakeStep event.input event.before event.after event.output.actions := by
  obtain ⟨earlier, input, later, split, same⟩ := (mem_trace_iff _ _ _ _).mp member
  rw [split] at succeed
  obtain ⟨first, rest⟩ := polls_succeed_append succeed
  have handshake := run_handshake lawful first
  rw [same]
  exact ⟨handshake, step_handshake handshake (run_ledger lawful first) (rest _ List.mem_cons_self)⟩

end Run

end SessionRuntime

end FerrumTty.Runtime
