import FerrumTty.Runtime.Bursts
import FerrumTty.Runtime.LocalShutdown
import FerrumTty.Runtime.RetransmitTimeout
import FerrumTty.Runtime.RoundTrips

/-!
# A shutdown comes to an end

A session that is polled cannot stay in its shutdown. Polls give up on a request ten seconds behind
its start, and an answer to the peer leaves with the next message, for which no poll waits longer
than the longest retransmission delay. The peer may ask while the request of this side is under way,
so the two delays add up.
-/

namespace FerrumTty.Runtime

set_option autoImplicit false

open Crypto Wire State Session Runs

def SessionOperation.clock : SessionOperation → Option MonotonicTime
  | .requestShutdown now | .resume now | .resumeWithActions now | .receiveDatagram _ now
  | .receiveDatagramLossy _ now | .poll now => some now
  | _ => none

/-- The session runs on. -/
def SessionOperation.halts : SessionOperation → Bool
  | .pause => true
  | .cancel => true
  | _ => false

def ShutdownState.isLocal : ShutdownState → Bool
  | .localRequested _ _ => true
  | _ => false

namespace SessionRuntime

variable {lib : Libraries}

/-- What a call can do to the timers of a session and to its shutdown. -/
structure TimerStep {terminal : Terminal} (operation : SessionOperation)
    (before after : SessionRuntime terminal) : Prop where
  running : before.lifecycle = .running → after.lifecycle = .running
  opened : before.association = .sent → after.association = .sent
  delay : before.retransmitMilliseconds ≤ MAXIMUM_RETRANSMIT_MILLISECONDS →
    after.retransmitMilliseconds ≤ MAXIMUM_RETRANSMIT_MILLISECONDS
  sent : ∀ time, after.lastSend = some time →
    before.lastSend = some time ∨ operation = .poll time
  started : ∀ startedAt transmissions, after.shutdown = .localRequested startedAt transmissions →
    (∃ earlier, before.shutdown = .localRequested startedAt earlier) ∨
      operation = .requestShutdown startedAt
  requested : ∀ startedAt transmissions, before.shutdown = .localRequested startedAt transmissions →
    (∃ later, after.shutdown = .localRequested startedAt later) ∨ after.shutdownIsComplete = true
  due : before.peerShutdownAcknowledgementDue = true →
    after.peerShutdownAcknowledgementDue = true ∨ after.shutdownIsComplete = true
  asked : after.shutdown = .peerRequested →
    before.shutdown = .peerRequested ∨ after.peerShutdownAcknowledgementDue = true
  closed : before.shutdown ≠ .open → after.shutdown ≠ .open
  complete : before.shutdownIsComplete = true → after.shutdownIsComplete = true

section Steps

variable {terminal : Terminal} {operation : SessionOperation} {before after : SessionRuntime terminal}

/-- Only the send time may have been forgotten. -/
theorem TimerStep.of_same (lifecycle : before.lifecycle = .running → after.lifecycle = .running)
    (association : after.association = before.association)
    (delay : after.retransmitMilliseconds = before.retransmitMilliseconds)
    (sent : after.lastSend = before.lastSend ∨ after.lastSend = none)
    (shutdown : after.shutdown = before.shutdown)
    (due : after.peerShutdownAcknowledgementDue = before.peerShutdownAcknowledgementDue) :
    TimerStep operation before after := by
  refine ⟨lifecycle, ?_, ?_, ?_, ?_, ?_, ?_, ?_, ?_, ?_⟩
  · exact association.trans
  · rw [delay]
    exact id
  · intro time known
    rcases sent with same | forgotten
    · exact Or.inl (same ▸ known)
    · rw [forgotten] at known
      cases known
  · intro startedAt transmissions state
    exact Or.inl ⟨transmissions, shutdown ▸ state⟩
  · intro startedAt transmissions state
    exact Or.inl ⟨transmissions, shutdown.trans state⟩
  · exact fun waits => Or.inl (due.trans waits)
  · exact fun state => Or.inl (shutdown ▸ state)
  · exact fun closed => shutdown ▸ closed
  · intro complete
    rwa [shutdownIsComplete, shutdown]

theorem TimerStep.refl (operation : SessionOperation) (runtime : SessionRuntime terminal) :
    TimerStep operation runtime runtime := .of_same id rfl rfl (Or.inl rfl) rfl rfl

theorem TimerStep.ended (running : before.lifecycle = .running → after.lifecycle = .running)
    (association : after.association = .sent)
    (delay : after.retransmitMilliseconds = before.retransmitMilliseconds)
    (sent : ∀ time, after.lastSend = some time → before.lastSend = some time ∨
      operation = .poll time)
    {outcome : ShutdownOutcome} (complete : after.shutdown = .complete outcome) :
    TimerStep operation before after := by
  have done : after.shutdownIsComplete = true := by rw [shutdownIsComplete, complete]
  refine ⟨running, fun _ => association, ?_, sent, ?_, fun _ _ _ => Or.inr done,
    fun _ => Or.inr done, ?_, ?_, fun _ => done⟩
  · rw [delay]
    exact id
  · intro startedAt transmissions state
    rw [complete] at state
    cases state
  · intro state
    rw [complete] at state
    cases state
  · intro _ opened
    rw [complete] at opened
    cases opened

end Steps

/-- What a host is told about when it changes, and no message changes. -/
structure Untold {terminal : Terminal} (before after : SessionRuntime terminal) : Prop where
  lifecycle : after.lifecycle = before.lifecycle
  connection : after.connectionState = before.connectionState
  roundTrip : after.roundTripMilliseconds = before.roundTripMilliseconds
  generation : after.udpBindingGeneration = before.udpBindingGeneration

theorem Untold.trans {terminal : Terminal} {first second third : SessionRuntime terminal}
    (earlier : Untold first second) (later : Untold second third) : Untold first third :=
  ⟨later.lifecycle.trans earlier.lifecycle, later.connection.trans earlier.connection,
    later.roundTrip.trans earlier.roundTrip, later.generation.trans earlier.generation⟩

section Poll

variable {runtime middle after : SessionRuntime lib.terminal} {now : MonotonicTime}

/-- The ways of a poll that succeeds, with the actions that it returns. -/
inductive PollWay (lib : Libraries) (runtime : SessionRuntime lib.terminal) (now : MonotonicTime)
    (actions : List SessionAction) (after : SessionRuntime lib.terminal) : Prop
  | idle (stopped : runtime.lifecycle ≠ .running ∨ runtime.shutdownIsComplete = true)
      (silent : actions = []) (same : after = runtime)
  | ended (opening : List SessionAction) (middle : SessionRuntime lib.terminal)
      (outcome : ShutdownOutcome)
      (opened : runtime.pollAssociation lib now = (.ok opening, middle))
      (reported : actions = (middle.completeShutdown outcome).1)
      (same : after = (middle.completeShutdown outcome).2)
  | went (opening sent : List SessionAction) (middle : SessionRuntime lib.terminal)
      (incomplete : runtime.shutdownIsComplete = false)
      (opened : runtime.pollAssociation lib now = (.ok opening, middle))
      (goesOn : middle.endsAt now = none)
      (sending : (middle.connectionStateAction now).2.pollSend lib now = (.ok sent, after))
      (reported : actions = opening ++
        (middle.connectionStateAction now).1.toList.flatMap connectionActions ++ sent)

theorem poll_way {actions : List SessionAction}
    (polled : runtime.poll lib now = (.ok actions, after)) :
    PollWay lib runtime now actions after := by
  unfold poll at polled
  split_ifs at polled with stopped complete
  · cases polled
    exact .idle (Or.inl stopped) rfl rfl
  · cases polled
    exact .idle (Or.inr complete) rfl rfl
  · cases opened : runtime.pollAssociation lib now with
    | mk result middle =>
        rw [opened] at polled
        cases result with
        | error error => cases polled
        | ok opening =>
            dsimp only at polled
            unfold pollSession at polled
            split_ifs at polled with acknowledged timedOut
            · exact .ended opening middle _ opened
                (Except.ok.inj (congrArg Prod.fst polled)).symm (congrArg Prod.snd polled).symm
            · exact .ended opening middle _ opened
                (Except.ok.inj (congrArg Prod.fst polled)).symm (congrArg Prod.snd polled).symm
            · have goesOn : middle.endsAt now = none := by
                unfold endsAt
                simp only [Bool.and_eq_true, Bool.not_eq_true'] at acknowledged timedOut
                split_ifs with due confirmed expired
                · rfl
                · exact absurd ⟨confirmed, Bool.eq_false_iff.mpr due⟩ acknowledged
                · exact absurd ⟨Bool.eq_false_iff.mpr due, expired⟩ timedOut
                · rfl
              dsimp only at polled
              cases sending : (middle.connectionStateAction now).2.pollSend lib now with
              | mk outcome last =>
                  rw [sending] at polled
                  cases outcome with
                  | error error => cases polled
                  | ok sent =>
                      have reached : last = after := congrArg Prod.snd polled
                      exact .went opening sent middle (Bool.eq_false_iff.mpr complete) opened goesOn (reached ▸ sending)
                        (Except.ok.inj (congrArg Prod.fst polled)).symm

theorem association_frame {opening : List SessionAction}
    (opened : runtime.pollAssociation lib now = (.ok opening, middle)) :
    middle.lifecycle = runtime.lifecycle ∧ middle.association = .sent ∧
      middle.retransmitMilliseconds = runtime.retransmitMilliseconds ∧
      (∀ time, middle.lastSend = some time → runtime.lastSend = some time ∨ now = time) ∧
      middle.shutdown = runtime.shutdown ∧
      middle.peerShutdownAcknowledgementDue = runtime.peerShutdownAcknowledgementDue := by
  unfold pollAssociation at opened
  split_ifs at opened with due
  · split at opened
    · cases opened
    · cases opened
      exact ⟨rfl, rfl, rfl, fun time known => Or.inr (Option.some.inj known), rfl, rfl⟩
  · cases opened
    have sent : runtime.association = .sent := by
      cases association : runtime.association with
      | due => exact absurd association due
      | sent => rfl
    exact ⟨rfl, sent, rfl, fun time known => Or.inl known, rfl, rfl⟩

theorem record_transmission_untold (sent : SessionRuntime lib.terminal) :
    Untold sent sent.recordShutdownTransmission := by
  unfold recordShutdownTransmission
  split <;> exact ⟨rfl, rfl, rfl, rfl⟩

theorem completion_untold (sent : SessionRuntime lib.terminal) :
    Untold sent sent.completePeerShutdownAfterAck.2 := by
  unfold completePeerShutdownAfterAck
  split_ifs <;> exact ⟨rfl, rfl, rfl, rfl⟩

theorem poll_send_untold : Untold runtime (runtime.pollSend lib now).2 := by
  rw [poll_send_eq]
  split_ifs
  · unfold pollQueued
    rcases built : runtime.buildQueuedUpdate lib now with ⟨result, sent⟩
    have kept : Untold runtime sent := by
      have whole : (runtime.buildQueuedUpdate lib now).2 = sent := congrArg Prod.snd built
      rw [← whole]
      unfold buildQueuedUpdate
      dsimp only
      split <;> exact ⟨rfl, rfl, rfl, rfl⟩
    cases result with
    | error error => exact kept
    | ok update =>
        exact (kept.trans (record_transmission_untold sent)).trans (completion_untold _)
  · unfold pollPending
    split_ifs
    · exact ⟨rfl, rfl, rfl, rfl⟩
    · cases runtime.protocol.retransmitPending lib (timestamp now) with
      | mk result protocol =>
          cases result with
          | error error => exact ⟨rfl, rfl, rfl, rfl⟩
          | ok packets =>
              have sent : Untold runtime { runtime with
                  protocol, lastSend := some now, acknowledgementDue := false } :=
                ⟨rfl, rfl, rfl, rfl⟩
              exact (sent.trans (record_transmission_untold _)).trans (completion_untold _)
  · unfold pollHeartbeat
    split_ifs
    · exact ⟨rfl, rfl, rfl, rfl⟩
    · cases runtime.protocol.buildAcknowledgement lib (timestamp now) with
      | mk result protocol =>
          cases result with
          | error error => exact ⟨rfl, rfl, rfl, rfl⟩
          | ok packets =>
              have sent : Untold runtime { runtime with
                  protocol, lastSend := some now, acknowledgementDue := false } :=
                ⟨rfl, rfl, rfl, rfl⟩
              exact sent.trans (completion_untold _)

theorem counted_request {operation : ProtocolOperation} {startedAt : MonotonicTime}
    {transmissions : UInt8} (requested : runtime.shutdown = .localRequested startedAt transmissions) :
    ∃ counted, runtime.countedShutdown operation = .localRequested startedAt counted := by
  have recorded : ∃ counted, runtime.recordShutdownTransmission.shutdown =
      .localRequested startedAt counted := by
    unfold recordShutdownTransmission
    rw [requested]
    exact ⟨_, rfl⟩
  unfold countedShutdown
  split
  · exact ⟨transmissions, requested⟩
  · exact recorded

theorem counted_other {operation : ProtocolOperation}
    (other : ∀ startedAt transmissions, runtime.shutdown ≠ .localRequested startedAt transmissions) :
    runtime.countedShutdown operation = runtime.shutdown := by
  unfold countedShutdown
  split
  · rfl
  · exact record_transmission_other other

theorem counted_started {operation : ProtocolOperation} {startedAt : MonotonicTime}
    {transmissions : UInt8}
    (counted : runtime.countedShutdown operation = .localRequested startedAt transmissions) :
    ∃ earlier, runtime.shutdown = .localRequested startedAt earlier := by
  by_cases requested : ∃ begun earlier, runtime.shutdown = .localRequested begun earlier
  · obtain ⟨begun, earlier, state⟩ := requested
    obtain ⟨later, same⟩ := @counted_request lib runtime operation begun earlier state
    rw [same] at counted
    cases counted
    exact ⟨earlier, state⟩
  · rw [counted_other fun begun earlier state => requested ⟨begun, earlier, state⟩] at counted
    exact ⟨transmissions, counted⟩

theorem counted_unrequested {operation : ProtocolOperation} {state : ShutdownState}
    (unrequested : state.isLocal = false) (counted : runtime.countedShutdown operation = state) :
    runtime.shutdown = state := by
  rw [← counted, counted_other]
  intro startedAt transmissions requested
  obtain ⟨later, same⟩ := @counted_request lib runtime operation startedAt transmissions requested
  rw [← counted, same] at unrequested
  cases unrequested

theorem poll_sent {actions : List SessionAction} (sends : runtime.sendsAt now = true)
    (sent : runtime.pollSend lib now = (.ok actions, after)) :
    Sends now runtime after ∧ Untold runtime after ∧
      after.peerShutdownAcknowledgementDue = false ∧
      ∃ operation, after.shutdown = runtime.shutdownAfter operation := by
  have outcome := poll_send_cases runtime now
  have untold := @poll_send_untold lib runtime now
  rw [sent] at outcome untold
  refine ⟨poll_send_sends sends sent, untold, ?_⟩
  cases outcome with
  | waited waits =>
      rw [sends] at waits
      cases waits
  | sent operation queue packets event after sends choice performed queued shutdown answered =>
      exact ⟨answered, operation, shutdown⟩

theorem poll_timers {actions : List SessionAction}
    (polled : runtime.poll lib now = (.ok actions, after)) : TimerStep (.poll now) runtime after := by
  cases poll_way polled with
  | idle stopped silent same =>
      rw [same]
      exact .refl _ runtime
  | ended opening middle outcome opened reported same =>
      obtain ⟨lifecycle, association, delay, lastSend, _⟩ := association_frame opened
      rw [same]
      refine .ended (fun running => lifecycle.trans running) association delay ?_ rfl
      intro time known
      exact (lastSend time known).imp_right (congrArg _)
  | went opening sent middle unended opened goesOn sending reported =>
      obtain ⟨lifecycle, association, delay, lastSend, shutdown, due⟩ := association_frame opened
      obtain ⟨state, noted⟩ := connection_frame middle now
      rw [noted] at sending
      set reached : SessionRuntime lib.terminal := { middle with connectionState := state }
      have arrived : TimerStep (.poll now) runtime reached := by
        refine ⟨fun running => lifecycle.trans running, fun _ => association, ?_, ?_, ?_, ?_, ?_, ?_,
          ?_, ?_⟩
        · exact fun within => delay.trans_le within
        · exact fun time known => (lastSend time known).imp_right (congrArg _)
        · exact fun startedAt transmissions requested =>
            Or.inl ⟨transmissions, shutdown ▸ requested⟩
        · exact fun startedAt transmissions requested =>
            Or.inl ⟨transmissions, shutdown.trans requested⟩
        · exact fun waits => Or.inl (due.trans waits)
        · exact fun asked => Or.inl (shutdown ▸ asked)
        · exact fun closed => shutdown ▸ closed
        · intro complete
          rwa [shutdownIsComplete, shutdown]
      cases sends : reached.sendsAt now with
      | false =>
          rw [poll_send_waits sends] at sending
          have same : reached = after := congrArg Prod.snd sending
          exact same ▸ arrived
      | true =>
          obtain ⟨timers, kept, answered, operation, left⟩ := poll_sent sends sending
          have ways : reached.peerShutdownAcknowledgementDue = true ∧
              after.shutdown = .complete .peerRequested ∨
              reached.peerShutdownAcknowledgementDue = false ∧
                after.shutdown = reached.countedShutdown operation := by
            rw [shutdownAfter] at left
            split_ifs at left with waits
            · exact Or.inl ⟨waits, left⟩
            · exact Or.inr ⟨Bool.eq_false_iff.mpr waits, left⟩
          have running : runtime.lifecycle = .running → after.lifecycle = .running :=
            fun running => kept.lifecycle.trans (arrived.running running)
          have timed : ∀ time, after.lastSend = some time →
              runtime.lastSend = some time ∨ SessionOperation.poll now = .poll time := by
            intro time known
            rw [timers.lastSend] at known
            exact Or.inr (congrArg _ (Option.some.inj known))
          rcases ways with ⟨_, complete⟩ | ⟨undue, counted⟩
          · exact .ended running (timers.association.trans association)
              (timers.delay.trans delay) timed complete
          · refine ⟨running, fun _ => timers.association.trans association, ?_, timed, ?_, ?_, ?_, ?_,
              ?_, ?_⟩
            · intro within
              exact (timers.delay.trans delay).trans_le within
            · intro startedAt transmissions requested
              obtain ⟨earlier, begun⟩ := counted_started (counted ▸ requested)
              exact Or.inl ⟨earlier, shutdown ▸ begun⟩
            · intro startedAt transmissions requested
              obtain ⟨later, begun⟩ := @counted_request lib reached operation startedAt transmissions
                (shutdown.trans requested)
              exact Or.inl ⟨later, counted.trans begun⟩
            · intro waits
              have both : reached.peerShutdownAcknowledgementDue = true := due.trans waits
              rw [undue] at both
              cases both
            · intro asked
              have before : reached.shutdown = .peerRequested := counted_unrequested rfl (counted ▸ asked)
              exact Or.inl (shutdown.symm.trans before)
            · intro closed opened
              have before : reached.shutdown = .open := counted_unrequested rfl (counted ▸ opened)
              exact closed (shutdown.symm.trans before)
            · intro complete
              rw [shutdownIsComplete, ← shutdown] at complete
              have same : reached.countedShutdown operation = reached.shutdown :=
                counted_other fun startedAt transmissions requested => by
                  have state : middle.shutdown = .localRequested startedAt transmissions := requested
                  rw [state] at complete
                  cases complete
              rw [shutdownIsComplete, counted, same]
              exact complete

/-- An echo may bring a sample, and every sample is clamped. -/
theorem note_echo_delay (echo : UInt16)
    (within : runtime.retransmitMilliseconds ≤ MAXIMUM_RETRANSMIT_MILLISECONDS) :
    (runtime.noteEcho echo now).2.retransmitMilliseconds ≤ MAXIMUM_RETRANSMIT_MILLISECONDS := by
  unfold noteEcho
  dsimp only
  split_ifs
  · rw [(record_sample_records runtime _).timeout]
    exact Nat.max_le.mpr ⟨by decide, Nat.min_le_right _ _⟩
  · exact within
  · exact within

theorem receive_delay (packet : Bytes)
    (within : runtime.retransmitMilliseconds ≤ MAXIMUM_RETRANSMIT_MILLISECONDS) :
    (runtime.receiveDatagram lib packet now).2.retransmitMilliseconds ≤
      MAXIMUM_RETRANSMIT_MILLISECONDS := by
  unfold receiveDatagram
  split
  · exact within
  · dsimp only
    split
    · exact within
    · rename_i receipt _
      set received : SessionRuntime lib.terminal :=
        { runtime with protocol := (runtime.protocol.ingestPacket lib packet).2 }
      have connected : (noteConnected { received with lastReceive := now }).2.retransmitMilliseconds ≤
          MAXIMUM_RETRANSMIT_MILLISECONDS := by
        unfold noteConnected
        split_ifs <;> exact within
      have echoed := @note_echo_delay lib _ now receipt.echoedTimestamp connected
      unfold handleReceipt
      dsimp only
      cases receipt.state with
      | none => exact echoed
      | some state =>
          have noted := (@note_state_sample lib _ state).2.2.2.trans_le echoed
          dsimp only
          split_ifs <;> exact noted

theorem receive_timers {operation : SessionOperation} (packet : Bytes) :
    TimerStep operation runtime (runtime.receiveDatagram lib packet now).2 := by
  have receives := receive_datagram_receives lib runtime packet now
  refine ⟨receives.lifecycle.trans, receives.association.trans, receive_delay packet, ?_, ?_, ?_, ?_,
    ?_, ?_, ?_⟩
  · exact fun time known => Or.inl (receives.lastSend ▸ known)
  · intro startedAt transmissions requested
    rcases receives.shutdown with same | ⟨_, asked, _⟩
    · exact Or.inl ⟨transmissions, same ▸ requested⟩
    · rw [asked] at requested
      cases requested
  · intro startedAt transmissions requested
    rcases receives.shutdown with same | ⟨opened, _, _⟩
    · exact Or.inl ⟨transmissions, same.trans requested⟩
    · rw [requested] at opened
      cases opened
  · exact fun waits => Or.inl (receives.due waits)
  · intro asked
    rcases receives.shutdown with same | ⟨_, _, due⟩
    · exact Or.inl (same ▸ asked)
    · exact Or.inr due
  · intro closed
    rcases receives.shutdown with same | ⟨opened, _, _⟩
    · rwa [same]
    · exact absurd opened closed
  · intro complete
    rcases receives.shutdown with same | ⟨opened, _, _⟩
    · rwa [shutdownIsComplete, same]
    · rw [shutdownIsComplete, opened] at complete
      cases complete

end Poll

section Run

variable {runtime : SessionRuntime lib.terminal} {operation : SessionOperation}

theorem queue_instruction_timers (added : Nat) (instruction : Instruction) :
    TimerStep operation runtime (runtime.queueInstruction added instruction).2 := by
  unfold queueInstruction
  dsimp only
  split_ifs
  · exact .refl _ runtime
  · exact .of_same id rfl rfl (Or.inl rfl) rfl rfl

theorem queue_input_timers (bytes : Bytes) :
    TimerStep operation runtime (runtime.queueInput bytes).2 := by
  unfold queueInput
  split
  · exact .refl _ runtime
  · exact queue_instruction_timers _ _

theorem queue_resize_timers (columns rows : UInt16) :
    TimerStep operation runtime (runtime.queueResize columns rows) := by
  unfold queueResize
  split_ifs
  · exact .refl _ runtime
  · exact .of_same id rfl rfl (Or.inl rfl) rfl rfl

theorem resume_state_timers (now : MonotonicTime) :
    TimerStep operation runtime (runtime.resumeState now) := by
  unfold resumeState
  split_ifs
  · exact .refl _ runtime
  · exact .of_same (fun _ => rfl) rfl rfl (Or.inr rfl) rfl rfl

theorem step_timers (runs : operation.halts = false)
    (succeeds : (perform lib runtime operation).1.isError = false) :
    TimerStep operation runtime (perform lib runtime operation).2 := by
  cases operation with
  | queueTerminalEvent event =>
      change TimerStep _ runtime (runtime.queueTerminalEvent event).2
      unfold queueTerminalEvent
      split
      · exact .refl _ runtime
      · cases event with
        | bytes bytes => exact queue_input_timers bytes
        | resize columns rows => exact queue_resize_timers columns rows
  | queueInput bytes => exact queue_input_timers bytes
  | queueResize columns rows => exact queue_resize_timers columns rows
  | queueSessionControl kind payload =>
      change TimerStep _ runtime (runtime.queueSessionControl kind payload).2
      unfold queueSessionControl
      split
      · exact .refl _ runtime
      · split_ifs
        · exact .refl _ runtime
        · exact queue_instruction_timers _ _
  | setLocalCapabilities capabilities => exact .of_same id rfl rfl (Or.inl rfl) rfl rfl
  | requestShutdown now =>
      change TimerStep _ runtime (runtime.requestShutdown now).2
      unfold requestShutdown
      split
      · exact .refl _ runtime
      · split_ifs with opened
        · refine ⟨id, id, id, fun _ => Or.inl, ?_, ?_, Or.inl, ?_, fun closed => absurd opened closed,
            ?_⟩
          · intro startedAt transmissions requested
            cases requested
            exact Or.inr rfl
          · intro startedAt transmissions requested
            rw [opened] at requested
            cases requested
          · intro asked
            cases asked
          · intro complete
            rw [shutdownIsComplete, opened] at complete
            cases complete
        · exact .refl _ runtime
  | notifyUdpRebound =>
      change TimerStep _ runtime runtime.notifyUdpRebound.2
      unfold notifyUdpRebound
      split_ifs
      · exact .refl _ runtime
      · exact .of_same id rfl rfl (Or.inr rfl) rfl rfl
  | resume now => exact resume_state_timers now
  | resumeWithActions now =>
      change TimerStep _ runtime (runtime.resumeWithActions now).2
      unfold resumeWithActions
      split_ifs
      · exact .refl _ runtime
      · exact resume_state_timers now
      · exact resume_state_timers now
  | receiveDatagram packet now => exact receive_timers packet
  | receiveDatagramLossy packet now =>
      have received : TimerStep (.receiveDatagramLossy packet now) runtime
          (runtime.receiveDatagram lib packet now).2 := receive_timers packet
      change TimerStep _ runtime (runtime.receiveDatagramLossy lib packet now).2
      unfold receiveDatagramLossy
      split <;> rename_i same <;> exact congrArg Prod.snd same ▸ received
  | poll now =>
      cases polled : runtime.poll lib now with
      | mk result after =>
          rw [perform, polled] at succeeds ⊢
          cases result with
          | error error => cases succeeds
          | ok actions => exact poll_timers polled
  | pause => cases runs
  | cancel => cases runs

/-- A session that runs, whose timers were set by the limit. -/
structure Clocked {terminal : Terminal} (limit : Nat) (runtime : SessionRuntime terminal) : Prop where
  running : runtime.lifecycle = .running
  delay : runtime.retransmitMilliseconds ≤ MAXIMUM_RETRANSMIT_MILLISECONDS
  sent : ∀ time, runtime.lastSend = some time → time.milliseconds.toNat ≤ limit
  started : ∀ startedAt transmissions, runtime.shutdown = .localRequested startedAt transmissions →
    startedAt.milliseconds.toNat ≤ limit
  asked : runtime.shutdown = .peerRequested → runtime.peerShutdownAcknowledgementDue = true

/-- A session in its shutdown: it waits to answer the peer, or for the end of its own request. -/
structure Leaving {terminal : Terminal} (limit : Nat) (runtime : SessionRuntime terminal) : Prop where
  running : runtime.lifecycle = .running
  opened : runtime.association = .sent
  delay : runtime.retransmitMilliseconds ≤ MAXIMUM_RETRANSMIT_MILLISECONDS
  sent : ∀ time, runtime.lastSend = some time →
    time.milliseconds.toNat ≤ limit + SHUTDOWN_TIMEOUT_MILLISECONDS
  waits : runtime.peerShutdownAcknowledgementDue = true ∨
    ∃ startedAt transmissions, runtime.shutdown = .localRequested startedAt transmissions ∧
      startedAt.milliseconds.toNat ≤ limit

theorem new_clocked (terminal : Terminal) (key : SessionKey) (start : MonotonicTime) (limit : Nat) :
    Clocked limit (new terminal key start) := by
  refine ⟨rfl, (by decide : INITIAL_RETRANSMIT_MILLISECONDS ≤ MAXIMUM_RETRANSMIT_MILLISECONDS),
    ?_, ?_, ?_⟩
  · intro time known
    cases known
  · intro startedAt transmissions requested
    cases requested
  · intro asked
    cases asked

variable {limit : Nat}

theorem Clocked.step (clocked : Clocked limit runtime) (runs : operation.halts = false)
    (timely : ∀ now, operation.clock = some now → now.milliseconds.toNat ≤ limit)
    (succeeds : (perform lib runtime operation).1.isError = false) :
    Clocked limit (perform lib runtime operation).2 := by
  have step := step_timers runs succeeds
  refine ⟨step.running clocked.running, step.delay clocked.delay, ?_, ?_, ?_⟩
  · intro time known
    rcases step.sent time known with before | polled
    · exact clocked.sent time before
    · exact timely time (by rw [polled, SessionOperation.clock])
  · intro startedAt transmissions requested
    rcases step.started startedAt transmissions requested with ⟨earlier, before⟩ | asked
    · exact clocked.started startedAt earlier before
    · exact timely startedAt (by rw [asked, SessionOperation.clock])
  · intro asked
    rcases step.asked asked with before | due
    · rcases step.due (clocked.asked before) with still | complete
      · exact still
      · rw [shutdownIsComplete, asked] at complete
        cases complete
    · exact due

theorem Clocked.run (clocked : Clocked limit runtime) {operations : List SessionOperation}
    (runs : ∀ operation ∈ operations, operation.halts = false)
    (timely : ∀ operation ∈ operations, ∀ now, operation.clock = some now →
      now.milliseconds.toNat ≤ limit)
    (succeed : ∀ event ∈ trace (perform lib) runtime operations, event.output.isError = false) :
    Clocked limit (final (perform lib) runtime operations) := by
  apply invariant_final_when (perform lib) (Clocked limit)
    (fun event => event.input.halts = false ∧ (∀ now, event.input.clock = some now →
      now.milliseconds.toNat ≤ limit) ∧ event.output.isError = false) _ clocked
  · intro event member
    exact ⟨runs _ (input_of_mem _ member), timely _ (input_of_mem _ member), succeed event member⟩
  · intro before operation clocked ⟨going, onTime, succeeds⟩
    exact clocked.step going onTime succeeds

theorem Clocked.leaving (clocked : Clocked limit runtime) (opened : runtime.association = .sent)
    (begun : runtime.shutdownInProgress = true) : Leaving limit runtime := by
  refine ⟨clocked.running, opened, clocked.delay, ?_, ?_⟩
  · intro time known
    exact (clocked.sent time known).trans (Nat.le_add_right _ _)
  · cases state : runtime.shutdown with
    | localRequested startedAt transmissions =>
        exact Or.inr ⟨startedAt, transmissions, rfl, clocked.started startedAt transmissions state⟩
    | peerRequested => exact Or.inl (clocked.asked state)
    | _ =>
        rw [shutdownInProgress, state] at begun
        cases begun

/-- A poll that waits has sent within the retransmission delay. -/
theorem waiting_since {now : MonotonicTime} (waits : runtime.sendsAt now = false) :
    ∃ time, runtime.lastSend = some time ∧
      now.milliseconds.toNat < time.milliseconds.toNat + runtime.retransmitMilliseconds := by
  obtain ⟨chosen, answered⟩ := waiting_timers waits
  rw [sendsAt, if_neg (Bool.eq_false_iff.mp chosen)] at waits
  have elapsed : runtime.lastSend.any fun lastSend =>
      now.elapsedSince lastSend < runtime.retransmitMilliseconds := by
    split_ifs at waits
    · simpa [retransmitWaits, answered] using waits
    · cases sent : runtime.lastSend with
      | none => simp [heartbeatDue, sent] at waits
      | some lastSend => simpa [heartbeatDue, answered, sent] using waits
  obtain ⟨time, known, recent⟩ := (Option.any_eq_true _ _).mp elapsed
  have recent := of_decide_eq_true recent
  rw [MonotonicTime.elapsedSince] at recent
  exact ⟨time, known, by omega⟩

theorem Leaving.poll (leaving : Leaving limit runtime) {now : MonotonicTime}
    {actions : List SessionAction} {after : SessionRuntime lib.terminal}
    (polled : runtime.poll lib now = (.ok actions, after))
    (incomplete : after.shutdownIsComplete = false) :
    now.milliseconds.toNat <
        limit + SHUTDOWN_TIMEOUT_MILLISECONDS + MAXIMUM_RETRANSMIT_MILLISECONDS ∧
      (after.lastSend = some now →
        now.milliseconds.toNat ≤ limit + SHUTDOWN_TIMEOUT_MILLISECONDS) := by
  have ways := poll_way polled
  cases ways with
  | idle stopped silent same =>
      rcases stopped with halted | complete
      · exact absurd leaving.running halted
      · rw [← same, incomplete] at complete
        cases complete
  | ended opening middle outcome opened reported same =>
      rw [same] at incomplete
      cases incomplete
  | went opening sent middle unended opened goesOn sending reported =>
      have kept : middle = runtime := by
        rw [pollAssociation, if_neg (by rw [leaving.opened]; decide)] at opened
        exact (congrArg Prod.snd opened).symm
      subst kept
      obtain ⟨state, noted⟩ := connection_frame middle now
      rw [noted] at sending
      set reached : SessionRuntime lib.terminal := { middle with connectionState := state }
      -- A request of this side that nobody else holds open has not run out.
      have recent : middle.peerShutdownAcknowledgementDue = false →
          now.milliseconds.toNat < limit + SHUTDOWN_TIMEOUT_MILLISECONDS := by
        intro undue
        rcases leaving.waits with due | ⟨startedAt, transmissions, requested, early⟩
        · rw [undue] at due
          cases due
        · have timely : middle.shutdownTimedOut now = false := by
            rw [endsAt, if_neg (Bool.eq_false_iff.mp undue)] at goesOn
            split_ifs at goesOn with confirmed expired
            exact Bool.eq_false_iff.mpr expired
          rw [shutdownTimedOut, requested] at timely
          have young := (not_or.mp (of_decide_eq_false timely)).2
          rw [ge_iff_le, Nat.not_le, MonotonicTime.elapsedSince] at young
          omega
      cases sends : reached.sendsAt now with
      | false =>
          rw [poll_send_waits sends] at sending
          have same : reached = after := congrArg Prod.snd sending
          obtain ⟨time, known, within⟩ := waiting_since sends
          have early := leaving.sent time known
          have delay : reached.retransmitMilliseconds ≤ MAXIMUM_RETRANSMIT_MILLISECONDS :=
            leaving.delay
          refine ⟨by omega, ?_⟩
          intro last
          rw [← same] at last
          exact leaving.sent now last
      | true =>
          obtain ⟨_, _, _, operation, left⟩ := poll_sent sends sending
          have undue : middle.peerShutdownAcknowledgementDue = false := by
            by_contra due
            have waits : reached.peerShutdownAcknowledgementDue = true :=
              (Bool.not_eq_false _).mp due
            rw [shutdownAfter, if_pos waits] at left
            rw [shutdownIsComplete, left] at incomplete
            cases incomplete
          have early := recent undue
          exact ⟨by omega, fun _ => early.le⟩

theorem Leaving.step (leaving : Leaving limit runtime) (runs : operation.halts = false)
    (succeeds : (perform lib runtime operation).1.isError = false)
    (incomplete : (perform lib runtime operation).2.shutdownIsComplete = false) :
    Leaving limit (perform lib runtime operation).2 := by
  have step := step_timers runs succeeds
  refine ⟨step.running leaving.running, step.opened leaving.opened, step.delay leaving.delay, ?_, ?_⟩
  · intro time known
    rcases step.sent time known with before | polls
    · exact leaving.sent time before
    · subst polls
      cases polled : runtime.poll lib time with
      | mk result after =>
          rw [perform, polled] at succeeds incomplete known
          cases result with
          | error error => cases succeeds
          | ok actions => exact (leaving.poll polled incomplete).2 known
  · rcases leaving.waits with due | ⟨startedAt, transmissions, requested, early⟩
    · rcases step.due due with still | complete
      · exact Or.inl still
      · rw [incomplete] at complete
        cases complete
    · rcases step.requested startedAt transmissions requested with ⟨later, still⟩ | complete
      · exact Or.inr ⟨startedAt, later, still, early⟩
      · rw [incomplete] at complete
        cases complete

/-- What the steps of the timers keep, a run keeps in which no call halts the session or fails. -/
theorem timed_run (invariant : SessionRuntime lib.terminal → Prop)
    (kept : ∀ operation before after, TimerStep operation before after → invariant before →
      invariant after) (holds : invariant runtime) {operations : List SessionOperation}
    (runs : ∀ operation ∈ operations, operation.halts = false)
    (succeed : ∀ event ∈ trace (perform lib) runtime operations, event.output.isError = false) :
    invariant (final (perform lib) runtime operations) := by
  apply invariant_final_when (perform lib) invariant
    (fun event => event.input.halts = false ∧ event.output.isError = false) _ holds
  · intro event member
    exact ⟨runs _ (input_of_mem _ member), succeed event member⟩
  · intro before operation here ⟨going, succeeds⟩
    exact kept operation before _ (step_timers going succeeds) here

theorem complete_run {operations : List SessionOperation}
    (complete : runtime.shutdownIsComplete = true)
    (runs : ∀ operation ∈ operations, operation.halts = false)
    (succeed : ∀ event ∈ trace (perform lib) runtime operations, event.output.isError = false) :
    (final (perform lib) runtime operations).shutdownIsComplete = true := by
  apply timed_run (fun runtime => runtime.shutdownIsComplete = true) _ complete runs succeed
  intro operation before after step complete
  exact step.complete complete

theorem closed_run {operations : List SessionOperation} (closed : runtime.shutdown ≠ .open)
    (runs : ∀ operation ∈ operations, operation.halts = false)
    (succeed : ∀ event ∈ trace (perform lib) runtime operations, event.output.isError = false) :
    (final (perform lib) runtime operations).shutdown ≠ .open := by
  apply timed_run (fun runtime => runtime.shutdown ≠ .open) _ closed runs succeed
  intro operation before after step closed
  exact step.closed closed

theorem Leaving.run (leaving : Leaving limit runtime) {operations : List SessionOperation}
    (runs : ∀ operation ∈ operations, operation.halts = false)
    (succeed : ∀ event ∈ trace (perform lib) runtime operations, event.output.isError = false)
    (incomplete : (final (perform lib) runtime operations).shutdownIsComplete = false) :
    Leaving limit (final (perform lib) runtime operations) := by
  induction operations generalizing runtime with
  | nil => exact leaving
  | cons operation rest induction =>
      have onward : ∀ other ∈ rest, other.halts = false :=
        fun other member => runs other (List.mem_cons_of_mem _ member)
      have later : ∀ event ∈ trace (perform lib) (perform lib runtime operation).2 rest,
          event.output.isError = false :=
        fun event member => succeed event (List.mem_cons_of_mem _ member)
      have going : (perform lib runtime operation).2.shutdownIsComplete = false := by
        by_contra ended
        have complete := complete_run ((Bool.not_eq_false _).mp ended) onward later
        rw [final_cons, complete] at incomplete
        cases incomplete
      exact induction (leaving.step (runs operation List.mem_cons_self)
        (succeed _ List.mem_cons_self) going) onward later incomplete

theorem poll_opens {now : MonotonicTime} {actions : List SessionAction}
    {after : SessionRuntime lib.terminal} (running : runtime.lifecycle = .running)
    (polled : runtime.poll lib now = (.ok actions, after))
    (incomplete : after.shutdownIsComplete = false) : after.association = .sent := by
  cases poll_way polled with
  | idle stopped silent same =>
      rcases stopped with halted | complete
      · exact absurd running halted
      · rw [← same, incomplete] at complete
        cases complete
  | ended opening middle outcome opened reported same =>
      rw [same] at incomplete
      cases incomplete
  | went opening sent middle unended opened goesOn sending reported =>
      obtain ⟨_, association, _⟩ := association_frame opened
      obtain ⟨state, noted⟩ := connection_frame middle now
      rw [noted] at sending
      set reached : SessionRuntime lib.terminal := { middle with connectionState := state }
      cases sends : reached.sendsAt now with
      | false =>
          rw [poll_send_waits sends] at sending
          have same : reached = after := congrArg Prod.snd sending
          exact same ▸ association
      | true => exact (poll_sent sends sending).1.association.trans association

end Run

end SessionRuntime

end FerrumTty.Runtime
