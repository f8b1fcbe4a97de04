import FerrumTty.Runtime.Pauses

/-!
# The poll deadline

`milliseconds_until_next_poll` decides anew what `poll` would do. The two agree on every timer
and on everything that waits to be sent. They part where the local shutdown is confirmed, which
the deadline does not look at, and where the peer's shutdown waits for its answer, which keeps a
poll from timing out.
-/

namespace FerrumTty.Runtime

set_option autoImplicit false

open Crypto Wire State Session Runs

/-- The actions send a datagram or end the session. -/
def acts (actions : List SessionAction) : Bool :=
  actions.any fun action => isDatagram action || isShutdownComplete action

@[simp] theorem acts_append (first second : List SessionAction) :
    acts (first ++ second) = (acts first || acts second) := List.any_append

namespace SessionRuntime

variable {lib : Libraries}

section Deadline

variable {terminal : Terminal} (runtime : SessionRuntime terminal) (now : MonotonicTime)

/-- A poll has something to send: the association is to be opened, an acknowledgement is due, the
queue or the shutdown waits behind no state in flight, or the send timer has run out. -/
def WorkDue : Prop :=
  runtime.association = .due ∨ runtime.acknowledgementDue = true
    ∨ (runtime.protocol.hasPendingUpdate = false
        ∧ (runtime.queuedInstructions ≠ [] ∨ runtime.localShutdownUnsent = true))
    ∨ ∀ lastSend, runtime.lastSend = some lastSend →
        runtime.retransmitMilliseconds ≤ now.elapsedSince lastSend

/-- Deadline and poll part: nothing is to be sent, and either the local shutdown is confirmed with
its time still running, or its time is over while the peer's shutdown waits for the answer. -/
structure DeadlineParts : Prop where
  idle : ¬ runtime.WorkDue now
  parts : runtime.peerShutdownAcknowledgementDue = false
        ∧ runtime.protocol.localShutdownAcknowledged = true ∧ runtime.shutdownTimedOut now = false
    ∨ runtime.peerShutdownAcknowledgementDue = true ∧ runtime.shutdownTimedOut now = true

theorem work_due_iff :
    runtime.WorkDue now ↔ runtime.association = .due ∨ runtime.sendsAt now = true := by
  unfold WorkDue sendsAt sendsQueued retransmitWaits heartbeatDue
  cases runtime.lastSend with
  | none => cases runtime.protocol.hasPendingUpdate <;> simp
  | some lastSend =>
      cases runtime.protocol.hasPendingUpdate <;> cases runtime.acknowledgementDue <;>
        cases runtime.localShutdownUnsent <;> simp

/-- The wait of the deadline for the send timer. -/
def protocolWait : Nat :=
  if runtime.association = .due ∨ runtime.acknowledgementDue ∨
      (runtime.protocol.hasPendingUpdate = false ∧ runtime.queuedInstructions ≠ []) ∨
      (runtime.localShutdownUnsent ∧ runtime.protocol.hasPendingUpdate = false) then 0
  else
    (runtime.lastSend.map fun lastSend =>
      runtime.retransmitMilliseconds - now.elapsedSince lastSend).getD 0

theorem protocol_wait_zero_iff : runtime.protocolWait now = 0 ↔ runtime.WorkDue now := by
  unfold protocolWait WorkDue
  split_ifs with due
  · simp only [true_iff]
    tauto
  · cases sent : runtime.lastSend with
    | none => simp
    | some lastSend =>
        simp only [Option.map_some, Option.getD_some, Nat.sub_eq_zero_iff_le, Option.some.injEq,
          forall_eq']
        tauto

variable {runtime now} {later : MonotonicTime}

theorem work_undue_before (reached : now.milliseconds.toNat ≤ later.milliseconds.toNat)
    (before : later.milliseconds.toNat < now.milliseconds.toNat + runtime.protocolWait now) :
    ¬ runtime.WorkDue later := by
  unfold protocolWait at before
  unfold WorkDue
  split_ifs at before with due
  · omega
  · cases sent : runtime.lastSend with
    | none => simp [sent] at before; omega
    | some lastSend =>
        simp only [sent, Option.map_some, Option.getD_some, MonotonicTime.elapsedSince] at before
        have early : ¬ runtime.retransmitMilliseconds ≤ later.elapsedSince lastSend := by
          unfold MonotonicTime.elapsedSince
          omega
        simp only [Option.some.injEq, forall_eq']
        tauto

/-- The deadline is the earlier one of the send timer and of the shutdown clock. -/
theorem milliseconds_eq (running : runtime.lifecycle = .running)
    (incomplete : runtime.shutdownIsComplete = false) :
    runtime.millisecondsUntilNextPoll now =
      match runtime.shutdown with
      | .localRequested startedAt transmissions =>
          min (runtime.protocolWait now)
            (if transmissions ≥ SHUTDOWN_RETRY_LIMIT then 0
            else SHUTDOWN_TIMEOUT_MILLISECONDS - now.elapsedSince startedAt)
      | _ => runtime.protocolWait now := by
  have awake : ¬ (runtime.lifecycle ≠ .running ∨ runtime.shutdownIsComplete = true) := by
    simp [running, incomplete]
  unfold millisecondsUntilNextPoll protocolWait
  rw [if_neg awake]
  cases runtime.shutdown <;> simp

theorem deadline_zero_iff (running : runtime.lifecycle = .running)
    (incomplete : runtime.shutdownIsComplete = false) :
    runtime.millisecondsUntilNextPoll now = 0 ↔
      runtime.WorkDue now ∨ runtime.shutdownTimedOut now = true := by
  rw [milliseconds_eq running incomplete, ← protocol_wait_zero_iff, shutdownTimedOut]
  cases runtime.shutdown with
  | localRequested startedAt transmissions =>
      simp only [Nat.min_eq_zero_iff, decide_eq_true_eq]
      split_ifs with many
      · simp [many]
      · simp [many, Nat.sub_eq_zero_iff_le]
  | _ => simp

/-- Before the deadline there is nothing to send and no clock has run out. -/
theorem undue_before_deadline (running : runtime.lifecycle = .running)
    (incomplete : runtime.shutdownIsComplete = false)
    (reached : now.milliseconds.toNat ≤ later.milliseconds.toNat)
    (before : later.milliseconds.toNat <
      now.milliseconds.toNat + runtime.millisecondsUntilNextPoll now) :
    ¬ runtime.WorkDue later ∧ runtime.shutdownTimedOut later = false := by
  rw [milliseconds_eq running incomplete] at before
  rw [shutdownTimedOut]
  cases shutdown : runtime.shutdown with
  | localRequested startedAt transmissions =>
      rw [shutdown] at before
      simp only at before
      split_ifs at before with many
      · omega
      · apply And.intro (work_undue_before reached (by omega))
        simp only [many, false_or, decide_eq_false_iff_not, Nat.not_le]
        unfold MonotonicTime.elapsedSince at *
        omega
  | _ =>
      rw [shutdown] at before
      exact ⟨work_undue_before reached before, rfl⟩

end Deadline

section Poll

variable {key : SessionKey} {runtime middle after : SessionRuntime lib.terminal} {now : MonotonicTime}
  {actions : List SessionAction}

theorem message_acts (lawful : LawfulAead lib.aead) {operation : ProtocolOperation}
    {packets : List Bytes} (seals : ClientProtocol.SealsWith key runtime.protocol)
    (performed : (runtime.protocol.perform lib operation).1 = .packets (.ok packets))
    (rest : List SessionAction) : acts (sendActions packets ++ rest) = true := by
  rcases ClientProtocol.perform_message lawful seals performed with ⟨update, batch, carries, _⟩
  rcases carries.nonempty with ⟨packet, others, listed⟩
  rw [listed]
  rfl

theorem connection_silent (runtime : SessionRuntime lib.terminal) (now : MonotonicTime) :
    acts ((runtime.connectionStateAction now).1.toList.flatMap connectionActions) = false := by
  unfold connectionStateAction
  split_ifs <;> rfl

/-- A poll that succeeds acts exactly when there is something to send or the session ends. -/
theorem poll_acts_iff (lawful : LawfulAead lib.aead)
    (seals : ClientProtocol.SealsWith key runtime.protocol) (running : runtime.lifecycle = .running)
    (incomplete : runtime.shutdownIsComplete = false)
    (polled : PollOutcome lib runtime now (.ok actions, after)) :
    acts actions = true ↔ runtime.WorkDue now ∨ runtime.endsAt now ≠ none := by
  cases polled with
  | idle stopped => simp [running, incomplete] at stopped
  | ended opening middle outcome _ _ association ends =>
      rcases association.handshake_fields with ⟨shutdown, due, protocol, _⟩
      rw [ends_of_same shutdown due protocol] at ends
      simp [acts, isShutdownComplete, ends]
  | went opening sent middle after _ _ association goesOn sending =>
      rcases association.handshake_fields with ⟨shutdown, answers, protocol, _⟩
      rw [ends_of_same shutdown answers protocol] at goesOn
      rw [acts_append, acts_append, connection_silent, Bool.or_false, work_due_iff]
      simp only [goesOn, ne_eq, not_true_eq_false, or_false, Bool.or_eq_true]
      have sealsMiddle := association.seals_reached lawful seals
      cases association with
      | opened packets protocol event due performed =>
          have sends := message_acts lawful seals (congrArg Prod.fst performed) [.diagnostic event]
          simp [sends, due]
      | kept opened =>
          rw [← (connection_fields runtime now).1]
          cases sending with
          | waited waits => simp [acts, opened, waits]
          | sent operation queue packets event _ sends _ performed =>
              have acted := message_acts lawful sealsMiddle (congrArg Prod.fst performed)
                (.diagnostic event :: (runtime.connectionStateAction now).2.peerCompletion)
              rw [acted]
              simp [sends]

theorem ends_iff {terminal : Terminal} (runtime : SessionRuntime terminal) (now : MonotonicTime) :
    runtime.endsAt now ≠ none ↔ runtime.peerShutdownAcknowledgementDue = false
      ∧ (runtime.protocol.localShutdownAcknowledged = true ∨ runtime.shutdownTimedOut now = true) := by
  unfold endsAt
  split_ifs <;> simp_all

/-- The deadline is now exactly if a poll that succeeds acts, and until a later deadline no poll
does. -/
structure DeadlineAgrees (lib : Libraries) (runtime : SessionRuntime lib.terminal)
    (now : MonotonicTime) : Prop where
  due : ∀ actions, (runtime.poll lib now).1 = .ok actions →
    (runtime.millisecondsUntilNextPoll now = 0 ↔ acts actions = true)
  waits : ∀ later, now.milliseconds.toNat ≤ later.milliseconds.toNat →
    later.milliseconds.toNat < now.milliseconds.toNat + runtime.millisecondsUntilNextPoll now →
    ∀ actions, (runtime.poll lib later).1 = .ok actions → acts actions = false

theorem idle_poll_succeeds (running : runtime.lifecycle = .running)
    (incomplete : runtime.shutdownIsComplete = false) (idle : ¬ runtime.WorkDue now) :
    ∃ actions, (runtime.poll lib now).1 = .ok actions := by
  rw [work_due_iff, not_or, Bool.not_eq_true] at idle
  rcases idle with ⟨opened, waits⟩
  have connection := (connection_fields runtime now).1.trans waits
  rw [poll, if_neg (not_not.mpr running), if_neg (by simp [incomplete]), pollAssociation,
    if_neg opened]
  change ∃ actions, (runtime.pollSession lib now []).1 = .ok actions
  unfold pollSession
  split_ifs
  · exact ⟨_, rfl⟩
  · exact ⟨_, rfl⟩
  · simp [poll_send_waits connection, Except.map]

theorem agrees_iff (lawful : LawfulAead lib.aead)
    (seals : ClientProtocol.SealsWith key runtime.protocol) (running : runtime.lifecycle = .running)
    (incomplete : runtime.shutdownIsComplete = false) :
    DeadlineAgrees lib runtime now ↔ ¬ runtime.DeadlineParts now := by
  have acting : ∀ time actions, (runtime.poll lib time).1 = .ok actions →
      (acts actions = true ↔ runtime.WorkDue time ∨ runtime.endsAt time ≠ none) := by
    intro time actions succeeds
    have polled : PollOutcome lib runtime time (.ok actions, (runtime.poll lib time).2) := by
      rw [← succeeds]
      exact poll_cases lib runtime time
    exact poll_acts_iff lawful seals running incomplete polled
  constructor
  · intro agrees parts
    rcases idle_poll_succeeds running incomplete parts.idle with ⟨actions, succeeds⟩
    have same := agrees.due actions succeeds
    rw [deadline_zero_iff running incomplete, acting now actions succeeds, ends_iff] at same
    rcases parts.parts with ⟨undue, confirmed, early⟩ | ⟨due, late⟩
    · have acted := same.mpr (Or.inr ⟨undue, Or.inl confirmed⟩)
      simp [parts.idle, early] at acted
    · have acted := same.mp (Or.inr late)
      simp [parts.idle, due] at acted
  · intro together
    constructor
    · intro actions succeeds
      rw [deadline_zero_iff running incomplete, acting now actions succeeds, ends_iff]
      by_cases work : runtime.WorkDue now
      · simp [work]
      · have alike := fun parts => together ⟨work, parts⟩
        simp only [work, false_or]
        cases due : runtime.peerShutdownAcknowledgementDue <;>
          cases late : runtime.shutdownTimedOut now <;> simp_all
    · intro later reached before actions succeeds
      have wait : ¬ runtime.millisecondsUntilNextPoll now = 0 := by omega
      rw [deadline_zero_iff running incomplete, not_or, Bool.not_eq_true] at wait
      rcases undue_before_deadline running incomplete reached before with ⟨idle, early⟩
      rw [← Bool.not_eq_true, acting later actions succeeds, ends_iff]
      rintro (work | ⟨undue, confirmed | late⟩)
      · exact idle work
      · exact together ⟨wait.1, Or.inl ⟨undue, confirmed, wait.2⟩⟩
      · rw [early] at late
        cases late

end Poll

/-- In every state of a running session, deadline and poll agree at all times but those at which
they part. -/
theorem deadline_agrees_iff (lawful : LawfulAead lib.aead) (key : SessionKey)
    (start now : MonotonicTime) (operations : List SessionOperation)
    (running : (final (perform lib) (new lib.terminal key start) operations).lifecycle = .running)
    (incomplete :
      (final (perform lib) (new lib.terminal key start) operations).shutdownIsComplete = false) :
    DeadlineAgrees lib (final (perform lib) (new lib.terminal key start) operations) now ↔
      ¬ (final (perform lib) (new lib.terminal key start) operations).DeadlineParts now := by
  have seals := run_seals_with lawful key start operations
  exact agrees_iff lawful seals running incomplete

/-- The server confirms the shutdown state and has no new state of its own. -/
def confirmedRun : List SessionOperation :=
  [.requestShutdown ⟨0⟩, .poll ⟨0⟩] ++
    (plainPackets [StateUpdate.new 0 0 MAXIMUM_STATE]).map (.receiveDatagram · ⟨100⟩)

/-- A poll would complete the shutdown, and the deadline is the retransmission of its state. -/
theorem confirmed_shutdown_waits :
    let runtime := final (perform plainLibraries) (new plainLibraries.terminal zeroKey ⟨0⟩) confirmedRun
    runtime.lifecycle = .running ∧ runtime.shutdownIsComplete = false
      ∧ ¬ DeadlineAgrees plainLibraries runtime ⟨100⟩ := by
  refine ⟨by decide +kernel, by decide +kernel, ?_⟩
  intro agrees
  have same := agrees.due
    [.shutdownComplete .acknowledged, .diagnostic (.shutdownComplete .acknowledged)]
    (by decide +kernel)
  revert same
  decide +kernel

/-- Behind the first poll the deadline is the one of the heartbeat. -/
theorem opened_session_agrees :
    DeadlineAgrees plainLibraries
        (final (perform plainLibraries) (new plainLibraries.terminal zeroKey ⟨0⟩) [.poll ⟨0⟩]) ⟨500⟩ ↔
      ¬ (final (perform plainLibraries) (new plainLibraries.terminal zeroKey ⟨0⟩)
        [.poll ⟨0⟩]).DeadlineParts ⟨500⟩ :=
  deadline_agrees_iff lawful_plain_libraries.aead zeroKey ⟨0⟩ ⟨500⟩ [.poll ⟨0⟩] (by decide +kernel)
    (by decide +kernel)

end SessionRuntime

end FerrumTty.Runtime
