import FerrumTty.Runtime.FailedPolls
import FerrumTty.Runtime.LocalShutdown

/-!
# Shutdowns that time out

The transmissions that a requested shutdown counts. A transmission of the shutdown state is
counted, but so is a retransmission of an ordinary state that was in flight at the request, and
one that is made only because server output waits for its acknowledgement. A run without these
gives up only behind the time limit or behind enough transmissions of the shutdown state.
-/

namespace FerrumTty.Runtime

set_option autoImplicit false

open Crypto Wire State Session Runs

namespace SessionRuntime

variable {lib : Libraries}

/-- The step sends an update to the shutdown state. -/
def TransmitsShutdown (lib : Libraries) (key : SessionKey) (event : RuntimeStep lib) : Prop :=
  ∃ packets ∈ messages event.output.actions, ∃ update batch,
    ClientProtocol.Carries lib key packets update batch ∧ update.targetState = MAXIMUM_STATE

/-- A poll in this state sends the state in flight again. -/
def repeatsPending {terminal : Terminal} (runtime : SessionRuntime terminal) (now : MonotonicTime) :
    Bool :=
  runtime.lifecycle = .running && (runtime.endsAt now).isNone &&
    !runtime.peerShutdownAcknowledgementDue && runtime.protocol.hasPendingUpdate &&
    !(runtime.associated now).retransmitWaits now

def resendsOrdinary {terminal : Terminal} (runtime : SessionRuntime terminal) (now : MonotonicTime) :
    Bool :=
  runtime.repeatsPending now && !runtime.protocol.localShutdownSent

/-- A poll in this state sends the state in flight again only because an acknowledgement is due:
the time since the last transmission does not call for it. -/
def repeatsToAcknowledge {terminal : Terminal} (runtime : SessionRuntime terminal)
    (now : MonotonicTime) : Bool :=
  runtime.repeatsPending now && runtime.acknowledgementDue && !(runtime.associated now).heartbeatDue now

/-- The transmission of the step is not made merely to acknowledge. -/
def OnItsOwn (event : RuntimeStep lib) : Prop :=
  ∀ now ∈ event.input.pollTime, event.before.repeatsToAcknowledge now = false

instance (event : RuntimeStep lib) : Decidable (OnItsOwn event) :=
  inferInstanceAs (Decidable (∀ now ∈ event.input.pollTime,
    event.before.repeatsToAcknowledge now = false))

/-- No poll under a requested shutdown sends an ordinary state again, or repeats the shutdown
state merely to acknowledge. -/
def CountsProperly (events : List (RuntimeStep lib)) : Prop :=
  ∀ event ∈ events, ∀ now ∈ event.input.pollTime, event.before.shutdownIsRequested = true →
    event.before.resendsOrdinary now = false ∧ event.before.repeatsToAcknowledge now = false

instance (events : List (RuntimeStep lib)) : Decidable (CountsProperly events) :=
  inferInstanceAs (Decidable (∀ event ∈ events, ∀ now ∈ event.input.pollTime,
    event.before.shutdownIsRequested = true →
      event.before.resendsOrdinary now = false ∧ event.before.repeatsToAcknowledge now = false))

section Poll

variable {key : SessionKey} {runtime middle after : SessionRuntime lib.terminal} {now : MonotonicTime}

theorem acknowledged_of_settled {terminal : Terminal} {protocol : ClientProtocol terminal}
    (settled : protocol.hasPendingUpdate = false) (sent : protocol.localShutdownSent = true) :
    protocol.localShutdownAcknowledged = true := by
  rw [ClientProtocol.hasPendingUpdate, decide_eq_false_iff_not, Nat.not_lt] at settled
  rw [ClientProtocol.localShutdownSent] at sent
  rw [ClientProtocol.localShutdownAcknowledged]
  cases states : protocol.sentStates with
  | nil =>
      rw [states] at sent
      cases sent
  | cons front others =>
      rw [states] at settled sent
      have alone : others = [] := List.length_eq_zero_iff.mp (by simpa using settled)
      rw [alone] at sent ⊢
      exact sent

/-- What is transmitted while the shutdown state is not confirmed leads to that state, unless it
is an ordinary state in flight. -/
theorem counted_target {operation : ProtocolOperation} {queue : List Instruction}
    {update : StateUpdate} {stateId : UInt64}
    (requested : runtime.shutdownIsRequested = true)
    (unanswered : runtime.protocol.localShutdownAcknowledged = false)
    (spares : runtime.protocol.hasPendingUpdate = true → runtime.protocol.localShutdownSent = true)
    (choice : SendChoice runtime operation queue)
    (counts : ∀ sentTimestamp, operation ≠ .buildAcknowledgement sentTimestamp)
    (out : runtime.protocol.outgoing operation = some (update, stateId)) :
    update.targetState = MAXIMUM_STATE := by
  cases choice with
  | acknowledgement sentTimestamp => exact absurd rfl (counts sentTimestamp)
  | retransmission sentTimestamp =>
      cases ClientProtocol.outgoing_cases out with
      | retransmission _ first last pending =>
          have sent := spares pending
          rw [ClientProtocol.localShutdownSent, last] at sent
          exact of_decide_eq_true sent
  | update sentTimestamp settled waiting unsent =>
      rw [localShutdownUnsent, requested, Bool.true_and, Bool.not_eq_false'] at unsent
      rw [acknowledged_of_settled settled unsent] at unanswered
      cases unanswered
  | shutdown sentTimestamp settled unsent =>
      cases ClientProtocol.outgoing_cases out with
      | shutdown _ _ first last => rfl
  | shutdownAck sentTimestamp settled answered waiting =>
      rw [answered] at unanswered
      cases unanswered

theorem AssociationOutcome.waits {opening : List SessionAction}
    (association : AssociationOutcome lib runtime now (.ok opening, middle)) :
    (middle.connectionStateAction now).2.retransmitWaits now =
      (runtime.associated now).retransmitWaits now := by
  obtain ⟨state, noted⟩ := connection_frame middle now
  rw [noted]
  change middle.retransmitWaits now = _
  cases association with
  | kept opened => rw [associated, if_neg opened]
  | opened packets protocol event due performed =>
      rw [associated, if_pos due]
      rfl

theorem waited_of_pending {terminal : Terminal} {runtime : SessionRuntime terminal}
    (pending : runtime.protocol.hasPendingUpdate = true) (sends : runtime.sendsAt now = true) :
    runtime.retransmitWaits now = false := by
  rw [sendsAt, drained_of_pending pending, if_neg (by decide), if_pos pending] at sends
  exact Bool.not_eq_true' _ |>.mp sends

theorem counted_of_message {operation : ProtocolOperation}
    (message : ¬ ∃ sentTimestamp, operation = .buildAcknowledgement sentTimestamp) :
    runtime.countedShutdown operation = runtime.recordShutdownTransmission.shutdown := by
  unfold countedShutdown
  split
  · exact absurd ⟨_, rfl⟩ message
  · rfl

theorem Reached.unacknowledged {early : List SessionAction} (reached : Reached runtime middle now early)
    (undue : middle.peerShutdownAcknowledgementDue = false) :
    middle.protocol.localShutdownAcknowledged = false := by
  have goesOn := reached.goes_on
  rw [endsAt, undue, if_neg (by decide)] at goesOn
  split_ifs at goesOn with acknowledged
  exact Bool.eq_false_iff.mpr acknowledged

/-- A state in flight where a poll sends is the shutdown state when the poll spares the others. -/
theorem Reached.spares_ordinary {early : List SessionAction}
    (reached : Reached runtime middle now early) (running : runtime.lifecycle = .running)
    (spares : runtime.resendsOrdinary now = false)
    (undue : middle.peerShutdownAcknowledgementDue = false)
    (waits : middle.retransmitWaits now = (runtime.associated now).retransmitWaits now)
    (sends : middle.sendsAt now = true) (pending : middle.protocol.hasPendingUpdate = true) :
    middle.protocol.localShutdownSent = true := by
  have early := waited_of_pending pending sends
  rw [waits] at early
  rw [reached.due] at undue
  rcases reached.protocol with ⟨channel, same⟩
  rw [same] at pending ⊢
  have pendingBefore : runtime.protocol.hasPendingUpdate = true := pending
  have sentBefore : runtime.protocol.localShutdownSent = true := by
    simpa [resendsOrdinary, repeatsPending, running, reached.goesOn, undue, pendingBefore, early]
      using spares
  exact sentBefore

/-- A poll under a requested shutdown counts at most one transmission, and only one of the
shutdown state when it spares the ordinary states. -/
theorem PollOutcome.counts_shutdown (lawful : LawfulAead lib.aead) {actions : List SessionAction}
    {startedAt laterStart : MonotonicTime} {transmissions count : UInt8}
    (seals : ClientProtocol.SealsWith key runtime.protocol)
    (requested : runtime.shutdown = .localRequested startedAt transmissions)
    (spares : runtime.resendsOrdinary now = false)
    (polled : PollOutcome lib runtime now (.ok actions, after))
    (counted : after.shutdown = .localRequested laterStart count) :
    laterStart = startedAt ∧ (count = transmissions ∨ count.toNat = transmissions.toNat + 1 ∧
      ∃ packets ∈ messages actions, ∃ update batch,
        ClientProtocol.Carries lib key packets update batch ∧ update.targetState = MAXIMUM_STATE) := by
  have stays (same : after.shutdown = runtime.shutdown) : laterStart = startedAt ∧
      count = transmissions := by
    rw [same, requested] at counted
    injection counted with sameStart sameCount
    exact ⟨sameStart.symm, sameCount.symm⟩
  cases polled with
  | idle stopped => exact ⟨(stays rfl).1, Or.inl (stays rfl).2⟩
  | ended opening middle outcome running incomplete association ends => cases counted
  | went opening sent middle after running incomplete association goesOn sending =>
      have waits := association.waits
      have messagesApart := association.messages_apart lawful seals
      have sealsHere := association.seals_reached lawful seals
      have reached := association.reached goesOn
      generalize (middle.connectionStateAction now).1.toList.flatMap connectionActions = notes at *
      generalize (middle.connectionStateAction now).2 = here at *
      have requestedHere := reached.shutdown.trans requested
      cases sending with
      | waited unsent => exact ⟨(stays reached.shutdown).1, Or.inl (stays reached.shutdown).2⟩
      | sent operation queue packets event after sends choice performed queued moved answered =>
          rw [moved, shutdownAfter] at counted
          split_ifs at counted with answers
          have undue := Bool.eq_false_iff.mpr answers
          by_cases acknowledges : ∃ sentTimestamp, operation = .buildAcknowledgement sentTimestamp
          · obtain ⟨sentTimestamp, same⟩ := acknowledges
            rw [same, countedShutdown, requestedHere] at counted
            injection counted with sameStart sameCount
            exact ⟨sameStart.symm, Or.inl sameCount.symm⟩
          · have room := goes_on_room reached.goes_on undue requestedHere
            rw [counted_of_message acknowledges, record_transmission_requested requestedHere room]
              at counted
            injection counted with sameStart sameCount
            have output := congrArg Prod.fst performed
            obtain ⟨update, stateId, out, carried⟩ :=
              ClientProtocol.perform_carries lawful sealsHere output
            rcases ClientProtocol.perform_message lawful sealsHere output with ⟨_, _, opens, _⟩
            obtain ⟨packet, others, listed⟩ := opens.nonempty
            rcases ClientProtocol.outgoing_message out with ⟨_, batch, written⟩
            have target := counted_target (by rw [shutdownIsRequested, requestedHere])
              (reached.unacknowledged undue) (reached.spares_ordinary running spares undue waits sends)
              choice (fun sentTimestamp same => acknowledges ⟨sentTimestamp, same⟩) out
            refine ⟨sameStart.symm, Or.inr ⟨?_, packets, ?_, update, batch, carried batch written,
              target⟩⟩
            · rw [← sameCount]
              exact next_transmission room
            · rw [messagesApart, listed, messages_send]
              exact List.mem_append_right _ List.mem_cons_self

end Poll

section Step

variable {key : SessionKey} {startedAt : MonotonicTime} {count : UInt8}

theorem PollOutcome.requested_before {runtime after : SessionRuntime lib.terminal} {now : MonotonicTime}
    {actions : List SessionAction} (polled : PollOutcome lib runtime now (.ok actions, after))
    (requested : after.shutdown = .localRequested startedAt count) :
    ∃ transmissions, runtime.shutdown = .localRequested startedAt transmissions := by
  cases polled with
  | idle stopped => exact ⟨count, requested⟩
  | ended opening middle outcome running incomplete association ends => cases requested
  | went opening sent middle after running incomplete association goesOn sending =>
      have same := (association.reached goesOn).shutdown
      cases sending with
      | waited unsent => exact ⟨count, same.symm.trans requested⟩
      | sent operation queue packets event after sends choice performed queued moved answered =>
          rw [moved, shutdownAfter] at requested
          split_ifs at requested
          rw [← same]
          generalize (middle.connectionStateAction now).2 = reached at *
          have recorded (kept : reached.recordShutdownTransmission.shutdown =
              .localRequested startedAt count) :
              ∃ transmissions, reached.shutdown = .localRequested startedAt transmissions := by
            unfold recordShutdownTransmission at kept
            split at kept
            · rename_i start transmissions state
              injection kept with sameStart _
              exact ⟨transmissions, sameStart ▸ state⟩
            · exact ⟨count, kept⟩
          unfold countedShutdown at requested
          split at requested
          · exact ⟨count, requested⟩
          · exact recorded requested

/-- How a step comes to a requested shutdown that has counted so many transmissions. -/
inductive RequestedStep (key : SessionKey) (startedAt : MonotonicTime) (count : UInt8)
    (event : RuntimeStep lib) : Prop
  | stays (same : event.before.shutdown = .localRequested startedAt count)
  | request (asked : event.input = .requestShutdown startedAt)
      (running : event.before.lifecycle = .running) (opened : event.before.shutdown = .open)
      (fresh : count = 0)
  | counted (transmissions : UInt8)
      (same : event.before.shutdown = .localRequested startedAt transmissions)
      (next : count.toNat = transmissions.toNat + 1) (polls : event.input.isPoll = true)
      (transmits : TransmitsShutdown lib key event) (own : OnItsOwn event)

theorem poll_requested (lawful : LawfulAead lib.aead) {before : SessionRuntime lib.terminal}
    {now : MonotonicTime} (seals : ClientProtocol.SealsWith key before.protocol)
    (proper : before.shutdownIsRequested = true →
      before.resendsOrdinary now = false ∧ before.repeatsToAcknowledge now = false)
    (requested : (perform lib before (.poll now)).2.shutdown = .localRequested startedAt count) :
    RequestedStep key startedAt count (stepAt (perform lib) before (.poll now)) := by
  cases fine : (stepAt (perform lib) before (.poll now)).output.isError with
  | true =>
      apply RequestedStep.stays
      cases outcome : before.poll lib now with
      | mk result after =>
          simp only [stepAt, perform, outcome] at fine requested ⊢
          cases result with
          | error error => exact (poll_failed_shutdown outcome).symm.trans requested
          | ok actions => cases fine
  | false =>
      obtain ⟨actions, output, polled⟩ := poll_succeeds fine
      have reached : (stepAt (perform lib) before (.poll now)).after.shutdown =
          .localRequested startedAt count := requested
      obtain ⟨transmissions, earlier⟩ := polled.requested_before reached
      have asked : before.shutdownIsRequested = true := by rw [shutdownIsRequested, earlier]
      obtain ⟨spares, own⟩ := proper asked
      rcases (polled.counts_shutdown lawful seals earlier spares reached).2 with
        same | ⟨next, transmits⟩
      · exact .stays (same ▸ earlier)
      · apply RequestedStep.counted transmissions earlier next rfl
        · rw [TransmitsShutdown, output]
          exact transmits
        · intro time polls
          rw [← Option.some.inj polls]
          exact own

theorem step_requested (lawful : LawfulAead lib.aead) {before : SessionRuntime lib.terminal}
    {operation : SessionOperation} (seals : ClientProtocol.SealsWith key before.protocol)
    (proper : ∀ now, operation = .poll now → before.shutdownIsRequested = true →
      before.resendsOrdinary now = false ∧ before.repeatsToAcknowledge now = false)
    (requested : (perform lib before operation).2.shutdown = .localRequested startedAt count) :
    RequestedStep key startedAt count (stepAt (perform lib) before operation) := by
  rcases step_cases lib before operation with ⟨output, after, outcome, kind⟩
  have reached : (perform lib before operation).2 = after := congrArg Step.after outcome
  rw [reached] at requested
  rw [outcome]
  cases kind with
  | poll now =>
      have step := poll_requested lawful seals (proper now rfl) requested
      rw [outcome] at step
      exact step
  | receive packet now asked plain =>
      rcases (receive_datagram_receives lib before packet now).shutdown with same | ⟨_, peers, _⟩
      · exact .stays (same ▸ requested)
      · rw [peers] at requested
        cases requested
  | request now running opened =>
      injection requested with sameStart fresh
      exact .request (congrArg _ sameStart) running opened fresh.symm
  | host other step => exact .stays (step.shutdown.symm.trans requested)

end Step

section Messages

variable {key : SessionKey} {runtime after : SessionRuntime lib.terminal} {now : MonotonicTime}

/-- The shutdown state was sent before this poll, or is its queued update. -/
def knowsShutdown {terminal : Terminal} (runtime : SessionRuntime terminal) : Bool :=
  runtime.protocol.localShutdownSent || runtime.protocol.localShutdownAcknowledged ||
    runtime.localShutdownUnsent && !runtime.protocol.hasPendingUpdate

theorem PollOutcome.message_built (lawful : LawfulAead lib.aead) {actions : List SessionAction}
    (seals : ClientProtocol.SealsWith key runtime.protocol)
    (polled : PollOutcome lib runtime now (.ok actions, after)) {packets : List Bytes}
    (member : packets ∈ messages actions) :
    ∃ (reached : SessionRuntime lib.terminal) (operation : ProtocolOperation),
      (∃ channel, reached.protocol = runtime.protocol.withChannel channel) ∧
        reached.shutdown = runtime.shutdown ∧ ClientProtocol.SealsWith key reached.protocol ∧
        (reached.protocol.perform lib operation).1 = .packets (.ok packets) ∧
        (operation = .buildAssociation (timestamp now) ∨ ∃ queue, SendChoice reached operation queue) := by
  cases polled with
  | idle stopped => cases member
  | ended opening middle outcome running incomplete association ends => cases member
  | went opening sent middle after running incomplete association goesOn sending =>
      have reached := association.reached goesOn
      have sealsHere := association.seals_reached lawful seals
      rw [association.messages_apart lawful seals] at member
      rcases List.mem_append.mp member with early | here
      · cases association with
        | kept opened => cases early
        | opened packets' protocol event due performed =>
            have output := congrArg Prod.fst performed
            rcases ClientProtocol.perform_message lawful seals output with ⟨_, _, opens, _⟩
            obtain ⟨packet, others, listed⟩ := opens.nonempty
            rw [listed, messages_send, ← listed] at early
            rw [List.mem_singleton.mp early]
            exact ⟨runtime, _, ⟨runtime.protocol.secureChannel, rfl⟩, rfl, seals, output, Or.inl rfl⟩
      · cases sending with
        | waited waits => cases here
        | sent operation queue packets' event after sends choice performed queued moved answered =>
            have output := congrArg Prod.fst performed
            rcases ClientProtocol.perform_message lawful sealsHere output with ⟨_, _, opens, _⟩
            obtain ⟨packet, others, listed⟩ := opens.nonempty
            have completion : messages (middle.connectionStateAction now).2.peerCompletion = [] := by
              unfold peerCompletion
              split_ifs <;> rfl
            rw [listed, messages_send, completion, ← listed] at here
            rw [List.mem_singleton.mp here]
            exact ⟨_, operation, reached.protocol, reached.shutdown, sealsHere, output,
              Or.inr ⟨queue, choice⟩⟩

theorem stays_known {reached : SessionRuntime lib.terminal} {channel : SecureChannel}
    (protocol : reached.protocol = runtime.protocol.withChannel channel)
    (shutdown : reached.shutdown = runtime.shutdown) : reached.knowsShutdown = runtime.knowsShutdown := by
  simp only [knowsShutdown, localShutdownUnsent, shutdownIsRequested]
  rw [protocol, shutdown]
  rfl

/-- An update to the shutdown state is sent only when that state is in the history or queued. -/
theorem known_of_target {operation : ProtocolOperation} {update : StateUpdate} {stateId : UInt64}
    (choice : operation = .buildAssociation (timestamp now) ∨ ∃ queue, SendChoice runtime operation queue)
    (out : runtime.protocol.outgoing operation = some (update, stateId))
    (target : update.targetState = MAXIMUM_STATE) : runtime.knowsShutdown = true := by
  have newest {back : SentState} (last : runtime.protocol.sentStates.getLast? = some back)
      (maximum : back.stateId = MAXIMUM_STATE) : runtime.knowsShutdown = true := by
    have sent : runtime.protocol.localShutdownSent = true := by
      rw [ClientProtocol.localShutdownSent, last]
      exact decide_eq_true maximum
    rw [knowsShutdown, sent, Bool.true_or, Bool.true_or]
  rcases choice with association | ⟨queue, choice⟩
  · rw [association] at out
    cases ClientProtocol.outgoing_cases out with
    | association _ first last => exact newest last target
  · cases choice with
    | acknowledgement sentTimestamp =>
        cases ClientProtocol.outgoing_cases out with
        | acknowledgement _ first last => exact newest last target
    | retransmission sentTimestamp =>
        cases ClientProtocol.outgoing_cases out with
        | retransmission _ first last pending => exact newest last target
    | update sentTimestamp settled waiting unsent =>
        cases ClientProtocol.outgoing_cases out with
        | update _ _ first last room => exact absurd target room
    | shutdown sentTimestamp settled unsent =>
        rw [knowsShutdown, unsent, settled]
        simp
    | shutdownAck sentTimestamp settled answered waiting =>
        rw [knowsShutdown, answered]
        simp

theorem known_of_transmits (lawful : LawfulAead lib.aead) (codec : LawfulCodec lib.codec)
    {start : MonotonicTime} {operations : List SessionOperation} {event : RuntimeStep lib}
    (member : event ∈ trace (perform lib) (new lib.terminal key start) operations)
    (polls : event.input.isPoll = true) (transmits : TransmitsShutdown lib key event) :
    event.before.knowsShutdown = true := by
  obtain ⟨packets, listed, update, batch, carries, target⟩ := transmits
  have seals := seals_with_run lawful member
  cases input : event.input with
  | poll now =>
      cases fine : event.output.isError with
      | true =>
          rw [error_without_actions fine] at listed
          cases listed
      | false =>
          obtain ⟨actions, output, polled⟩ := event_poll member input fine
          rw [output] at listed
          obtain ⟨reached, operation, ⟨channel, protocol⟩, shutdown, sealsHere, performed, choice⟩ :=
            polled.message_built lawful seals listed
          obtain ⟨sent, stateId, out, carried⟩ :=
            ClientProtocol.perform_carries lawful sealsHere performed
          rcases ClientProtocol.outgoing_message out with ⟨_, sentBatch, written⟩
          rw [(carries.unique codec (carried sentBatch written)).1] at target
          rw [← stays_known protocol shutdown]
          exact known_of_target choice out target
  | _ =>
      rw [input] at polls
      cases polls

end Messages

section Run

variable {key : SessionKey} {start : MonotonicTime} {operations : List SessionOperation}

/-- So many polls have sent the shutdown state since the request that was accepted, none of them
merely to acknowledge server output. -/
def CountsTransmissions (lib : Libraries) (key : SessionKey) (start : MonotonicTime)
    (operations : List SessionOperation) (requestedAt : MonotonicTime) (count : Nat) : Prop :=
  ∃ earlier between, operations = earlier ++ .requestShutdown requestedAt :: between ∧
    (final (perform lib) (new lib.terminal key start) earlier).lifecycle = .running ∧
    (final (perform lib) (new lib.terminal key start) earlier).shutdown = .open ∧
    ∃ polls : List (RuntimeStep lib), List.Sublist polls (trace (perform lib)
        (final (perform lib) (new lib.terminal key start) (earlier ++ [.requestShutdown requestedAt]))
        between) ∧
      polls.length = count ∧
      ∀ event ∈ polls, event.input.isPoll = true ∧ TransmitsShutdown lib key event ∧ OnItsOwn event

theorem CountsTransmissions.behind {requestedAt : MonotonicTime} {count : Nat}
    (counts : CountsTransmissions lib key start operations requestedAt count)
    (operation : SessionOperation) :
    CountsTransmissions lib key start (operations ++ [operation]) requestedAt count := by
  obtain ⟨earlier, between, split, running, opened, polls, among, length, transmit⟩ := counts
  refine ⟨earlier, between ++ [operation], by rw [split]; simp, running, opened, polls, ?_, length,
    transmit⟩
  rw [trace_concat]
  exact among.trans (List.sublist_append_left _ _)

theorem CountsTransmissions.next {requestedAt : MonotonicTime} {count : Nat}
    (counts : CountsTransmissions lib key start operations requestedAt count)
    {operation : SessionOperation} (polls : operation.isPoll = true)
    (transmits : TransmitsShutdown lib key
      (stepAt (perform lib) (final (perform lib) (new lib.terminal key start) operations) operation))
    (own : OnItsOwn
      (stepAt (perform lib) (final (perform lib) (new lib.terminal key start) operations) operation)) :
    CountsTransmissions lib key start (operations ++ [operation]) requestedAt (count + 1) := by
  obtain ⟨earlier, between, split, running, opened, others, among, length, transmit⟩ := counts
  have reached : final (perform lib) (new lib.terminal key start) operations =
      final (perform lib)
        (final (perform lib) (new lib.terminal key start) (earlier ++ [.requestShutdown requestedAt]))
        between := by
    rw [← final_append, split, List.append_assoc]
    rfl
  refine ⟨earlier, between ++ [operation], by rw [split]; simp, running, opened, others ++ [stepAt
    (perform lib) (final (perform lib) (new lib.terminal key start) operations) operation], ?_, ?_, ?_⟩
  · rw [trace_concat, ← reached]
    exact among.append (List.Sublist.refl _)
  · rw [List.length_append, length]
    rfl
  · intro event member
    rcases List.mem_append.mp member with before | here
    · exact transmit event before
    · rw [List.mem_singleton.mp here]
      exact ⟨polls, transmits, own⟩

/-- A run that counts properly counts the polls that sent the shutdown state. -/
theorem run_counts (lawful : LawfulAead lib.aead)
    (proper : CountsProperly (trace (perform lib) (new lib.terminal key start) operations))
    {startedAt : MonotonicTime} {count : UInt8}
    (requested : (final (perform lib) (new lib.terminal key start) operations).shutdown =
      .localRequested startedAt count) :
    CountsTransmissions lib key start operations startedAt count.toNat := by
  induction operations using List.reverseRecOn generalizing count with
  | nil => cases requested
  | append_singleton operations operation induction =>
      have among : stepAt (perform lib) (final (perform lib) (new lib.terminal key start) operations)
          operation ∈ trace (perform lib) (new lib.terminal key start) (operations ++ [operation]) :=
        (mem_trace_concat _ _ _ _ _).mpr (Or.inr rfl)
      have earlier : CountsProperly (trace (perform lib) (new lib.terminal key start) operations) :=
        fun event member => proper event ((mem_trace_concat _ _ _ _ _).mpr (Or.inl member))
      have seals := seals_with_run lawful among
      rw [final_concat] at requested
      cases step_requested lawful seals (fun now polls => proper _ among now (congrArg _ polls))
        requested with
      | stays same => exact (induction earlier same).behind operation
      | request asked running opened fresh =>
          change operation = .requestShutdown startedAt at asked
          rw [asked, fresh]
          exact ⟨operations, [], rfl, running, opened, [], List.Sublist.refl _, rfl,
            fun event member => nomatch member⟩
      | counted transmissions same next polls transmits own =>
          rw [next]
          exact (induction earlier same).next polls transmits own

def WentUnanswered (lib : Libraries) (key : SessionKey) (start : MonotonicTime)
    (operations : List SessionOperation) (now : MonotonicTime) : Prop :=
  ∃ requestedAt count, CountsTransmissions lib key start operations requestedAt count ∧
    (SHUTDOWN_TIMEOUT_MILLISECONDS ≤ now.elapsedSince requestedAt ∨
      SHUTDOWN_RETRY_LIMIT.toNat ≤ count)

/-- Every time-out of the run went unanswered. -/
def TimeoutsUnanswered (lib : Libraries) (key : SessionKey) (start : MonotonicTime)
    (operations : List SessionOperation) : Prop :=
  ∀ earlier now later, operations = earlier ++ .poll now :: later →
    .shutdownComplete .timedOut ∈ (perform lib
      (final (perform lib) (new lib.terminal key start) earlier) (.poll now)).1.actions →
    WentUnanswered lib key start earlier now

/-- A run that sends no ordinary state again under a requested shutdown, and repeats no state
merely to acknowledge, times out only when the shutdown went unanswered. -/
theorem timed_out_unanswered (lawful : LawfulAead lib.aead) (key : SessionKey) (start : MonotonicTime)
    (operations : List SessionOperation)
    (proper : CountsProperly (trace (perform lib) (new lib.terminal key start) operations)) :
    TimeoutsUnanswered lib key start operations := by
  intro earlier now later split timedOut
  have first : CountsProperly (trace (perform lib) (new lib.terminal key start) earlier) := by
    intro event member
    apply proper event
    rw [split, trace_append]
    exact List.mem_append_left _ member
  have polled := poll_cases lib (final (perform lib) (new lib.terminal key start) earlier) now
  cases outcome : (final (perform lib) (new lib.terminal key start) earlier).poll lib now with
  | mk result after =>
      simp only [perform, outcome] at timedOut
      rw [outcome] at polled
      cases result with
      | error error => cases timedOut
      | ok actions =>
          rcases polled.completion timedOut with
            answers | ⟨_, _, _, opening, middle, association, ends⟩
          · cases answers
          · rcases ends_cases middle ends with ⟨_, ⟨other, _⟩ | ⟨_, expired⟩⟩
            · cases other
            · unfold shutdownTimedOut at expired
              rw [association.handshake_fields.1] at expired
              cases state : (final (perform lib) (new lib.terminal key start) earlier).shutdown with
              | localRequested startedAt count =>
                  rw [state] at expired
                  refine ⟨startedAt, count.toNat, run_counts lawful first state, ?_⟩
                  rcases of_decide_eq_true expired with limit | waited
                  · exact Or.inr (UInt8.le_iff_toNat_le.mp limit)
                  · exact Or.inl waited
              | _ =>
                  rw [state] at expired
                  cases expired

end Run

/-- The shutdown state is sent sixteen times, because every new binding lets a poll send at once. -/
def reboundRun : List SessionOperation :=
  [.poll ⟨0⟩, .requestShutdown ⟨100⟩] ++
    (List.replicate 16 [.notifyUdpRebound, .poll ⟨200⟩]).flatten ++ [.poll ⟨300⟩]

theorem rebound_run_unanswered :
    .shutdownComplete .timedOut ∈
      allActions (trace (perform plainLibraries) (new lineTerminal zeroKey ⟨0⟩) reboundRun) ∧
    TimeoutsUnanswered plainLibraries zeroKey ⟨0⟩ reboundRun := by
  constructor
  · decide +kernel
  · apply timed_out_unanswered lawful_tagging_aead zeroKey ⟨0⟩ reboundRun
    decide +kernel

/-- A poll whose transmission may count for the shutdown. -/
def mayCount (event : RuntimeStep plainLibraries) : Bool :=
  event.input.isPoll && event.before.knowsShutdown && decide (OnItsOwn event)

/-- A time-out 200 ms behind the request, with too few transmissions of the shutdown state. -/
theorem early_time_out {operations : List SessionOperation}
    (asked : ∀ requestedAt, .requestShutdown requestedAt ∈ operations → requestedAt = ⟨100⟩)
    (few : ((trace (perform plainLibraries) (new plainLibraries.terminal zeroKey ⟨0⟩)
      operations).filter mayCount).length < SHUTDOWN_RETRY_LIMIT.toNat)
    (timedOut : .shutdownComplete .timedOut ∈ (perform plainLibraries (final (perform plainLibraries)
      (new plainLibraries.terminal zeroKey ⟨0⟩) operations) (.poll ⟨300⟩)).1.actions) :
    ¬ TimeoutsUnanswered plainLibraries zeroKey ⟨0⟩ (operations ++ [.poll ⟨300⟩]) := by
  intro unanswered
  obtain ⟨requestedAt, count, counts, reason⟩ := unanswered operations ⟨300⟩ [] rfl timedOut
  obtain ⟨earlier, between, split, _, _, polls, among, length, transmit⟩ := counts
  rcases reason with waited | limit
  · have inside : .requestShutdown requestedAt ∈ operations := by
      rw [split]
      exact List.mem_append_right _ List.mem_cons_self
    rw [asked requestedAt inside] at waited
    exact absurd waited (by decide)
  · have whole : operations = (earlier ++ [.requestShutdown requestedAt]) ++ between := by
      rw [split, List.append_assoc]
      rfl
    have inside : List.Sublist polls
        (trace (perform plainLibraries) (new plainLibraries.terminal zeroKey ⟨0⟩) operations) := by
      rw [whole, trace_append]
      exact among.trans (List.sublist_append_right _ _)
    have counting : polls.filter mayCount = polls := by
      apply List.filter_eq_self.mpr
      intro event member
      obtain ⟨isPoll, transmits, own⟩ := transmit event member
      have known := known_of_transmits lawful_tagging_aead lawful_stored_codec
        (inside.subset member) isPoll transmits
      rw [mayCount, isPoll, known, decide_eq_true own]
      rfl
    have bound := (inside.filter mayCount).length_le
    rw [counting, length] at bound
    exact absurd limit (Nat.not_le_of_lt (Nat.lt_of_le_of_lt bound few))

/-- Server output that acknowledges none of the input. -/
def floodPackets : List Bytes :=
  plainPackets ((List.range 16).map fun number =>
    hostBytesUpdate (UInt64.ofNat number) (UInt64.ofNat (number + 1)) [0x24])

/-- Every datagram of the server makes the next poll transmit. -/
def flood (packets : List Bytes) : List SessionOperation :=
  packets.flatMap fun packet => [.receiveDatagram packet ⟨200⟩, .poll ⟨200⟩]

theorem flood_requests {packets : List Bytes} {requestedAt : MonotonicTime} :
    .requestShutdown requestedAt ∉ flood packets := by
  intro member
  obtain ⟨packet, _, here⟩ := List.mem_flatMap.mp member
  simp at here

/-- A letter is in flight when the shutdown is requested, and is sent again sixteen times. -/
def floodedRun : List SessionOperation :=
  [.queueInput [0x6c], .poll ⟨0⟩, .requestShutdown ⟨100⟩] ++ flood floodPackets

/-- The shutdown state is sent once, and then fifteen times merely to acknowledge. -/
def acknowledgingRun : List SessionOperation :=
  [.poll ⟨0⟩, .requestShutdown ⟨100⟩, .poll ⟨100⟩] ++ flood (floodPackets.take 15)

/-- Two hundred milliseconds behind the request the shutdown times out: with its state not sent
once, and with its state sent once and then repeated to acknowledge server output. -/
theorem flooded_shutdown_times_out :
    ¬ TimeoutsUnanswered plainLibraries zeroKey ⟨0⟩ (floodedRun ++ [.poll ⟨300⟩]) ∧
      ¬ TimeoutsUnanswered plainLibraries zeroKey ⟨0⟩ (acknowledgingRun ++ [.poll ⟨300⟩]) := by
  have asked {opening : List SessionOperation} {packets : List Bytes} {requestedAt : MonotonicTime}
      (early : .requestShutdown requestedAt ∈ opening → requestedAt = ⟨100⟩)
      (member : .requestShutdown requestedAt ∈ opening ++ flood packets) : requestedAt = ⟨100⟩ := by
    rcases List.mem_append.mp member with opens | floods
    · exact early opens
    · exact absurd floods flood_requests
  constructor
  · apply early_time_out
    · intro requestedAt member
      exact asked (fun opens => by simpa using opens) member
    · decide +kernel
    · decide +kernel
  · apply early_time_out
    · intro requestedAt member
      exact asked (fun opens => by simpa using opens) member
    · decide +kernel
    · decide +kernel

end SessionRuntime

end FerrumTty.Runtime
