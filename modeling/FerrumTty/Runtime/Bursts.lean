import FerrumTty.Runtime.FailedPolls
import FerrumTty.Runtime.Receives

/-!
# Polls do not burst

A poll that returned a datagram leaves nothing that another branch would send at once: the send
time is the present, no acknowledgement is due, and the queue is empty or waits behind a state
in flight. Until its host or its peer gives it something new, the runtime then sends nothing for
a whole retransmission delay, whatever the clock reads at the polls between.
-/

namespace FerrumTty.Runtime

set_option autoImplicit false

open Crypto Wire State Session Runs

/-- The methods that may give the next poll something to send. -/
def SessionOperation.stirs : SessionOperation → Bool
  | .setLocalCapabilities _ => false
  | .pause => false
  | .cancel => false
  | .poll _ => false
  | _ => true

namespace SessionRuntime

/-- The runtime waits for a delay that began at the floor or later. -/
structure Armed {terminal : Terminal} (floor : MonotonicTime) (delay : Nat)
    (runtime : SessionRuntime terminal) : Prop where
  opened : runtime.association = .sent
  answered : runtime.acknowledgementDue = false
  drained : runtime.sendsQueued = false
  sent : ∃ lastSend, runtime.lastSend = some lastSend ∧
    floor.milliseconds.toNat ≤ lastSend.milliseconds.toNat
  delay : runtime.retransmitMilliseconds = delay

/-- The runtime is paused, cancelled or complete, or it waits. -/
inductive Rests {terminal : Terminal} (floor : MonotonicTime) (delay : Nat)
    (runtime : SessionRuntime terminal) : Prop where
  | halted (stopped : runtime.lifecycle ≠ .running ∨ runtime.shutdownIsComplete = true)
  | waiting (armed : Armed floor delay runtime)

structure Sends {terminal : Terminal} (now : MonotonicTime) (before after : SessionRuntime terminal) :
    Prop where
  lastSend : after.lastSend = some now
  answered : after.acknowledgementDue = false
  association : after.association = before.association
  delay : after.retransmitMilliseconds = before.retransmitMilliseconds
  drained : after.shutdownIsComplete = false → after.sendsQueued = false

section Branches

variable {lib : Libraries} {runtime after : SessionRuntime lib.terminal} {now : MonotonicTime}

theorem record_transmission_timers (sent : SessionRuntime lib.terminal) :
    sent.recordShutdownTransmission.lastSend = sent.lastSend ∧
      sent.recordShutdownTransmission.acknowledgementDue = sent.acknowledgementDue ∧
      sent.recordShutdownTransmission.association = sent.association ∧
      sent.recordShutdownTransmission.retransmitMilliseconds = sent.retransmitMilliseconds ∧
      sent.recordShutdownTransmission.sendsQueued = sent.sendsQueued := by
  unfold recordShutdownTransmission
  split
  · rename_i startedAt transmissions requested
    refine ⟨rfl, rfl, rfl, rfl, ?_⟩
    simp only [sendsQueued, localShutdownUnsent, shutdownIsRequested, requested]
  · exact ⟨rfl, rfl, rfl, rfl, rfl⟩

/-- A session that goes on behind a message had no answer to the peer's shutdown due. -/
theorem completion_timers (sent : SessionRuntime lib.terminal) :
    sent.completePeerShutdownAfterAck.2.lastSend = sent.lastSend ∧
      sent.completePeerShutdownAfterAck.2.acknowledgementDue = sent.acknowledgementDue ∧
      sent.completePeerShutdownAfterAck.2.association = sent.association ∧
      sent.completePeerShutdownAfterAck.2.retransmitMilliseconds = sent.retransmitMilliseconds ∧
      (sent.completePeerShutdownAfterAck.2.shutdownIsComplete = false →
        sent.peerShutdownAcknowledgementDue = false ∧
          sent.completePeerShutdownAfterAck.2.sendsQueued = sent.sendsQueued) := by
  unfold completePeerShutdownAfterAck
  split_ifs with due
  · refine ⟨rfl, rfl, rfl, rfl, ?_⟩
    intro incomplete
    cases incomplete
  · exact ⟨rfl, rfl, rfl, rfl, fun _ => ⟨Bool.eq_false_iff.mpr due, rfl⟩⟩

theorem Sends.completed {sent : SessionRuntime lib.terminal} (lastSend : sent.lastSend = some now)
    (answered : sent.acknowledgementDue = false) (association : sent.association = runtime.association)
    (delay : sent.retransmitMilliseconds = runtime.retransmitMilliseconds)
    (drained : sent.peerShutdownAcknowledgementDue = false → sent.sendsQueued = false) :
    Sends now runtime sent.completePeerShutdownAfterAck.2 := by
  obtain ⟨time, acknowledged, associated, delayed, onward⟩ := completion_timers sent
  refine ⟨time.trans lastSend, acknowledged.trans answered, associated.trans association,
    delayed.trans delay, ?_⟩
  intro incomplete
  obtain ⟨undue, same⟩ := onward incomplete
  rw [same]
  exact drained undue

theorem Sends.counted {sent : SessionRuntime lib.terminal} (lastSend : sent.lastSend = some now)
    (answered : sent.acknowledgementDue = false) (association : sent.association = runtime.association)
    (delay : sent.retransmitMilliseconds = runtime.retransmitMilliseconds)
    (drained : sent.peerShutdownAcknowledgementDue = false → sent.sendsQueued = false) :
    Sends now runtime sent.recordShutdownTransmission.completePeerShutdownAfterAck.2 := by
  obtain ⟨time, acknowledged, associated, delayed, same⟩ := record_transmission_timers sent
  apply Sends.completed (time.trans lastSend) (acknowledged.trans answered)
    (associated.trans association) (delayed.trans delay)
  intro undue
  rw [(record_transmission_cases sent).2.2] at undue
  rw [same]
  exact drained undue

theorem recorded_pending {protocol : ClientProtocol lib.terminal} (held : protocol.sentStates ≠ [])
    (instructions : InstructionBatch) (target : UInt64) :
    (protocol.recordSentState instructions target).hasPendingUpdate = true := by
  obtain ⟨kept, _, limited⟩ := ClientProtocol.limit_keeps protocol.sentStates.dropLast
    (protocol.sentStates.getLast held)
    ⟨target, protocol.localInstructions.length + instructions.instructions.length⟩
  rw [List.dropLast_append_getLast] at limited
  rw [ClientProtocol.hasPendingUpdate, decide_eq_true_eq]
  change 1 < (ClientProtocol.limitSentStates (protocol.sentStates ++ [_])).length
  rw [limited, List.length_append, List.length_append, List.length_singleton, List.length_singleton]
  omega

theorem sealed_pending {protocol later : ClientProtocol lib.terminal} {operation : ProtocolOperation}
    {batch : InstructionBatch} {packets : List Bytes} {channel : SecureChannel} {target : UInt64}
    (performed : protocol.perform lib operation = (.packets (.ok packets), later))
    (recorded : later.sentStates =
      ((protocol.withChannel channel).recordSentState batch target).sentStates) :
    later.hasPendingUpdate = true := by
  have built := ClientProtocol.perform_built lib protocol _ (.ok packets) (congrArg Prod.fst performed)
  have held : protocol.sentStates ≠ [] := by
    cases built with
    | sealed update stateId compressed _ _ out seals => exact ClientProtocol.outgoing_held out
  rw [ClientProtocol.hasPendingUpdate, recorded]
  exact @recorded_pending _ (protocol.withChannel channel) held batch target

theorem build_queued_sends {packets : List Bytes} {event : DiagnosticEvent}
    (built : runtime.buildQueuedUpdate lib now = (.ok (packets, event), after)) :
    after.lastSend = some now ∧ after.acknowledgementDue = false ∧
      after.association = runtime.association ∧
      after.retransmitMilliseconds = runtime.retransmitMilliseconds ∧
      (after.peerShutdownAcknowledgementDue = false → after.sendsQueued = false) := by
  have sealed := (build_queued_built built).1
  have due := (build_queued_built built).2.2.2
  have fields : after.lastSend = some now ∧ after.acknowledgementDue = false ∧
      after.association = runtime.association ∧
      after.retransmitMilliseconds = runtime.retransmitMilliseconds := by
    unfold buildQueuedUpdate at built
    dsimp only at built
    split at built
    · cases built
    · cases built
      exact ⟨rfl, rfl, rfl, rfl⟩
  refine ⟨fields.1, fields.2.1, fields.2.2.1, fields.2.2.2, ?_⟩
  intro undue
  unfold buildQueuedPackets at sealed
  split_ifs at sealed with ackDue unsent
  · simp only [shutdownAckDue, Bool.and_eq_true] at ackDue
    rw [← due, undue] at ackDue
    cases ackDue.1
  · have performed : runtime.protocol.perform lib (.buildShutdown (timestamp now)
        ⟨runtime.queuedInstructions⟩) = (.packets (.ok packets), after.protocol) := by
      rw [ClientProtocol.perform, sealed]
    obtain ⟨_, channel, same⟩ := ClientProtocol.perform_shutdown_after performed
    exact drained_of_pending (sealed_pending performed (congrArg _ same))
  · have performed : runtime.protocol.perform lib (.buildUpdate (timestamp now)
        ⟨runtime.queuedInstructions⟩) = (.packets (.ok packets), after.protocol) := by
      rw [ClientProtocol.perform, sealed]
    obtain ⟨_, channel, same⟩ := ClientProtocol.perform_update_after performed
    have recorded : after.protocol.sentStates =
        ((runtime.protocol.withChannel channel).recordSentState ⟨runtime.queuedInstructions⟩
          runtime.protocol.nextLocalState).sentStates := by
      rw [same]
    exact drained_of_pending (sealed_pending performed recorded)

theorem poll_queued_sends {actions : List SessionAction}
    (polled : runtime.pollQueued lib now = (.ok actions, after)) : Sends now runtime after := by
  unfold pollQueued at polled
  cases built : runtime.buildQueuedUpdate lib now with
  | mk result sent =>
      rw [built] at polled
      cases result with
      | error error => cases polled
      | ok update =>
          cases polled
          obtain ⟨lastSend, answered, association, delay, drained⟩ := build_queued_sends built
          exact .counted lastSend answered association delay drained

theorem repeated_states {protocol : ClientProtocol lib.terminal} {operation : ProtocolOperation}
    {output : ProtocolOutput} (repeats : operation.keepsHistory = true)
    (performed : runtime.protocol.perform lib operation = (output, protocol)) :
    protocol.sentStates = runtime.protocol.sentStates := by
  obtain ⟨channel, same⟩ := ClientProtocol.perform_keeps repeats performed
  rw [same]
  rfl

theorem poll_pending_sends {actions : List SessionAction}
    (pending : runtime.protocol.hasPendingUpdate = true) (due : runtime.retransmitWaits now = false)
    (polled : runtime.pollPending lib now = (.ok actions, after)) : Sends now runtime after := by
  unfold pollPending at polled
  rw [due] at polled
  cases built : runtime.protocol.retransmitPending lib (timestamp now) with
  | mk result protocol =>
      rw [built] at polled
      cases result with
      | error error => cases polled
      | ok packets =>
          have performed : runtime.protocol.perform lib (.retransmitPending (timestamp now)) =
              (.packets (.ok packets), protocol) := by
            rw [ClientProtocol.perform, built]
          have reached : (recordShutdownTransmission { runtime with
              protocol, lastSend := some now, acknowledgementDue := false }
              ).completePeerShutdownAfterAck.2 = after := congrArg Prod.snd polled
          rw [← reached]
          refine @Sends.counted lib runtime now _ rfl rfl rfl rfl ?_
          intro _
          apply drained_of_pending
          change protocol.hasPendingUpdate = true
          rw [ClientProtocol.hasPendingUpdate, repeated_states rfl performed]
          exact pending

theorem poll_heartbeat_sends {actions : List SessionAction} (unchosen : runtime.sendsQueued = false)
    (due : (runtime.acknowledgementDue || runtime.heartbeatDue now) = true)
    (polled : runtime.pollHeartbeat lib now = (.ok actions, after)) : Sends now runtime after := by
  have goesOn : (!runtime.acknowledgementDue && !runtime.heartbeatDue now) = false := by
    rw [← Bool.not_or, due]
    rfl
  unfold pollHeartbeat at polled
  rw [goesOn] at polled
  cases built : runtime.protocol.buildAcknowledgement lib (timestamp now) with
  | mk result protocol =>
      rw [built] at polled
      cases result with
      | error error => cases polled
      | ok packets =>
          have performed : runtime.protocol.perform lib (.buildAcknowledgement (timestamp now)) =
              (.packets (.ok packets), protocol) := by
            rw [ClientProtocol.perform, built]
          have states := repeated_states rfl performed
          have reached : (completePeerShutdownAfterAck { runtime with
              protocol, lastSend := some now, acknowledgementDue := false }).2 = after :=
            congrArg Prod.snd polled
          rw [← reached]
          refine @Sends.completed lib runtime now _ rfl rfl rfl rfl ?_
          intro _
          rw [← unchosen]
          exact sends_queued_of_same rfl rfl states

theorem poll_send_sends {actions : List SessionAction} (sends : runtime.sendsAt now = true)
    (polled : runtime.pollSend lib now = (.ok actions, after)) : Sends now runtime after := by
  rw [poll_send_eq] at polled
  rw [sendsAt] at sends
  split_ifs at polled sends with chosen pending
  · exact poll_queued_sends polled
  · rw [Bool.not_eq_true'] at sends
    exact poll_pending_sends pending sends polled
  · exact poll_heartbeat_sends (Bool.eq_false_iff.mpr chosen) sends polled

theorem poll_send_refused {error : RuntimeError} (unchosen : runtime.sendsQueued = false)
    (failed : runtime.pollSend lib now = (.error error, after)) :
    ∃ protocol, ClientProtocol.SameSent runtime.protocol protocol ∧
      after = { runtime with protocol } := by
  rw [poll_send_eq, if_neg (Bool.eq_false_iff.mp unchosen)] at failed
  split_ifs at failed with pending
  · obtain ⟨refused, protocol, performed, moved⟩ := poll_pending_refused failed
    exact ⟨protocol, ClientProtocol.perform_failed performed, moved⟩
  · obtain ⟨refused, protocol, performed, moved⟩ := poll_heartbeat_refused failed
    exact ⟨protocol, ClientProtocol.perform_failed performed, moved⟩

end Branches

section Rest

variable {lib : Libraries} {runtime after : SessionRuntime lib.terminal} {floor now : MonotonicTime}
  {delay : Nat}

theorem waiting_timers (waits : runtime.sendsAt now = false) :
    runtime.sendsQueued = false ∧ runtime.acknowledgementDue = false := by
  rw [sendsAt] at waits
  split_ifs at waits with chosen pending
  · rw [Bool.not_eq_false', retransmitWaits, Bool.and_eq_true, Bool.not_eq_true'] at waits
    exact ⟨Bool.eq_false_iff.mpr chosen, waits.1⟩
  · rw [Bool.or_eq_false_iff] at waits
    exact ⟨Bool.eq_false_iff.mpr chosen, waits.1⟩

theorem Armed.sends_late (armed : Armed floor delay runtime) (positive : 0 < delay)
    (sends : runtime.sendsAt now = true) :
    floor.milliseconds.toNat + delay ≤ now.milliseconds.toNat := by
  obtain ⟨lastSend, sent, reached⟩ := armed.sent
  have elapsed : runtime.retransmitMilliseconds ≤ now.elapsedSince lastSend := by
    rw [sendsAt, if_neg (Bool.eq_false_iff.mp armed.drained)] at sends
    split_ifs at sends with pending
    · simpa [retransmitWaits, armed.answered, sent] using sends
    · simpa [heartbeatDue, armed.answered, sent] using sends
  rw [armed.delay, MonotonicTime.elapsedSince] at elapsed
  omega

theorem Armed.connection (armed : Armed floor delay runtime) :
    Armed floor delay (runtime.connectionStateAction now).2 := by
  obtain ⟨state, noted⟩ := connection_frame runtime now
  rw [noted]
  exact ⟨armed.opened, armed.answered, armed.drained, armed.sent, armed.delay⟩

theorem Sends.rests (sends : Sends now runtime after) (opened : runtime.association = .sent)
    (reached : floor.milliseconds.toNat ≤ now.milliseconds.toNat) :
    Rests floor runtime.retransmitMilliseconds after := by
  cases complete : after.shutdownIsComplete with
  | true => exact .halted (Or.inr complete)
  | false =>
      exact .waiting ⟨sends.association.trans opened, sends.answered, sends.drained complete,
        ⟨now, sends.lastSend, reached⟩, sends.delay⟩

theorem association_timers {opening : List SessionAction}
    (opened : runtime.pollAssociation lib now = (.ok opening, after)) :
    after.association = .sent ∧ after.retransmitMilliseconds = runtime.retransmitMilliseconds ∧
      (Silent opening ∨ after.lastSend = some now) := by
  unfold pollAssociation at opened
  split_ifs at opened with due
  · split at opened
    · cases opened
    · cases opened
      exact ⟨rfl, rfl, Or.inr rfl⟩
  · cases opened
    have sent : runtime.association = .sent := by
      cases association : runtime.association with
      | due => exact absurd association due
      | sent => rfl
    exact ⟨sent, rfl, Or.inl silent_nil⟩

theorem poll_rests {actions : List SessionAction} (polled : runtime.poll lib now = (.ok actions, after))
    (sends : ¬ Silent actions) : Rests now runtime.retransmitMilliseconds after := by
  rcases poll_parts polled with silent | ⟨opening, middle, sent, opened, sending, parts⟩
  · exact absurd silent sends
  · obtain ⟨association, delay, started⟩ := association_timers opened
    have fields : (middle.connectionStateAction now).2.association = .sent ∧
        (middle.connectionStateAction now).2.retransmitMilliseconds =
          runtime.retransmitMilliseconds ∧
        (middle.connectionStateAction now).2.lastSend = middle.lastSend := by
      obtain ⟨state, noted⟩ := connection_frame middle now
      rw [noted]
      exact ⟨association, delay, rfl⟩
    cases choice : (middle.connectionStateAction now).2.sendsAt now with
    | true =>
        rw [← fields.2.1]
        exact (poll_send_sends choice sending).rests fields.1 (Nat.le_refl _)
    | false =>
        rw [poll_send_waits choice] at sending
        cases sending
        obtain ⟨drained, answered⟩ := waiting_timers choice
        rcases started with quiet | started
        · exfalso
          apply sends
          intro action member
          rw [parts, List.append_nil] at member
          rcases List.mem_append.mp member with early | late
          · exact quiet action early
          · exact (connection_notes_plain middle now).silent action late
        · exact .waiting ⟨fields.1, answered, drained,
            ⟨now, fields.2.2.trans started, Nat.le_refl _⟩, fields.2.1⟩

theorem Armed.poll (armed : Armed floor delay runtime) (positive : 0 < delay) :
    Rests floor delay (runtime.poll lib now).2 ∧
      (now.milliseconds.toNat < floor.milliseconds.toNat + delay →
        Silent (SessionOutput.acted (runtime.poll lib now).1).actions) := by
  have opened : runtime.pollAssociation lib now = (.ok [], runtime) := by
    rw [pollAssociation, if_neg (by rw [armed.opened]; decide)]
  unfold SessionRuntime.poll
  split_ifs with stopped complete
  · exact ⟨.halted (Or.inl stopped), fun _ => silent_nil⟩
  · exact ⟨.halted (Or.inr complete), fun _ => silent_nil⟩
  · rw [opened]
    dsimp only
    unfold pollSession
    split_ifs
    · exact ⟨.halted (Or.inr rfl), fun _ => complete_silent runtime _⟩
    · exact ⟨.halted (Or.inr rfl), fun _ => complete_silent runtime _⟩
    · have kept : Armed floor delay (runtime.connectionStateAction now).2 := armed.connection
      dsimp only
      cases choice : (runtime.connectionStateAction now).2.sendsAt now with
      | false =>
          rw [poll_send_waits choice]
          refine ⟨.waiting kept, fun _ => ?_⟩
          change Silent ([] ++ _ ++ [])
          rw [List.nil_append, List.append_nil]
          exact (connection_notes_plain runtime now).silent
      | true =>
          have late := kept.sends_late positive choice
          refine ⟨?_, fun early => absurd early (Nat.not_lt.mpr late)⟩
          cases sent : (runtime.connectionStateAction now).2.pollSend lib now with
          | mk outcome last =>
              cases outcome with
              | error error =>
                  obtain ⟨protocol, same, reached⟩ := poll_send_refused kept.drained sent
                  rw [reached]
                  refine .waiting ⟨kept.opened, kept.answered, ?_, kept.sent, kept.delay⟩
                  rw [← kept.drained]
                  exact sends_queued_of_same rfl rfl same.states
              | ok list =>
                  rw [← kept.delay]
                  exact (poll_send_sends choice sent).rests kept.opened
                    (Nat.le_trans (Nat.le_add_right _ _) late)

end Rest

section Run

variable {lib : Libraries} {runtime : SessionRuntime lib.terminal} {floor : MonotonicTime} {delay : Nat}

theorem Rests.step (rests : Rests floor delay runtime) (positive : 0 < delay)
    {operation : SessionOperation} (calm : operation.stirs = false) :
    Rests floor delay (perform lib runtime operation).2 ∧
      ∀ time, operation = .poll time →
        time.milliseconds.toNat < floor.milliseconds.toNat + delay →
        Silent (perform lib runtime operation).1.actions := by
  cases rests with
  | halted stopped =>
      cases operation with
      | setLocalCapabilities capabilities => exact ⟨.halted stopped, fun _ other => nomatch other⟩
      | pause =>
          refine ⟨.halted ?_, fun _ other => nomatch other⟩
          change runtime.pause.2.lifecycle ≠ .running ∨ runtime.pause.2.shutdownIsComplete = true
          unfold pause
          split_ifs
          · exact stopped
          · exact Or.inl (fun running => nomatch running)
      | cancel =>
          refine ⟨.halted (Or.inl ?_), fun _ other => nomatch other⟩
          change runtime.cancel.2.lifecycle ≠ .running
          unfold cancel
          split_ifs with cancelled
          · rw [cancelled]
            exact fun running => nomatch running
          · exact fun running => nomatch running
      | poll now =>
          have idle : runtime.poll lib now = (.ok [], runtime) := by
            unfold SessionRuntime.poll
            split_ifs with halted complete
            · rfl
            · rfl
            · exact absurd stopped (not_or.mpr ⟨halted, complete⟩)
          rw [perform, idle]
          exact ⟨.halted stopped, fun _ _ _ => silent_nil⟩
      | _ => cases calm
  | waiting armed =>
      cases operation with
      | setLocalCapabilities capabilities =>
          exact ⟨.waiting ⟨armed.opened, armed.answered, armed.drained, armed.sent, armed.delay⟩,
            fun _ other => nomatch other⟩
      | pause =>
          refine ⟨?_, fun _ other => nomatch other⟩
          change Rests floor delay runtime.pause.2
          unfold pause
          split_ifs
          · exact .waiting armed
          · exact .halted (Or.inl (fun running => nomatch running))
      | cancel =>
          refine ⟨?_, fun _ other => nomatch other⟩
          change Rests floor delay runtime.cancel.2
          unfold cancel
          split_ifs
          · exact .waiting armed
          · exact .halted (Or.inl (fun running => nomatch running))
      | poll now =>
          obtain ⟨rests, quiet⟩ := @Armed.poll lib runtime floor now delay armed positive
          refine ⟨rests, ?_⟩
          intro time same early
          cases same
          exact quiet early
      | _ => cases calm

/-- Behind a poll that returned a datagram, polls return none for a retransmission delay. -/
theorem polls_do_not_burst (lib : Libraries) (key : SessionKey) (start now : MonotonicTime)
    (operations later : List SessionOperation)
    (sends : ¬ Silent (stepAt (perform lib)
      (final (perform lib) (new lib.terminal key start) operations) (.poll now)).output.actions)
    (calm : ∀ operation ∈ later, operation.stirs = false) :
    ∀ event ∈ trace (perform lib)
        (final (perform lib) (new lib.terminal key start) (operations ++ [.poll now])) later,
      ∀ time, event.input = .poll time →
        now.milliseconds.toNat ≤ time.milliseconds.toNat →
        time.milliseconds.toNat < now.milliseconds.toNat +
          (final (perform lib) (new lib.terminal key start) operations).retransmitMilliseconds →
        Silent event.output.actions := by
  intro event member time polls reached early
  rw [final_concat] at member
  have positive : 0 <
      (final (perform lib) (new lib.terminal key start) operations).retransmitMilliseconds := by
    omega
  have rests : Rests now
      (final (perform lib) (new lib.terminal key start) operations).retransmitMilliseconds
      (perform lib (final (perform lib) (new lib.terminal key start) operations) (.poll now)).2 := by
    generalize final (perform lib) (new lib.terminal key start) operations = runtime at sends
    cases polled : runtime.poll lib now with
    | mk result after =>
        cases result with
        | error error =>
            rw [stepAt, perform, polled] at sends
            exact absurd silent_nil sends
        | ok actions =>
            rw [stepAt, perform, polled] at sends
            rw [perform, polled]
            exact poll_rests polled sends
  obtain ⟨before, allowed, same⟩ := allowed_step (perform lib) (Rests now _)
    (fun operation => operation.stirs = false)
    (fun runtime operation resting calm => (resting.step positive calm).1) rests calm member
  rw [same]
  exact (before.step positive allowed).2 time polls early

/-- The letter goes out with the association; capabilities and a second poll do not repeat it. -/
theorem typed_letter_goes_once :
    Silent (stepAt (perform plainLibraries)
      (final (perform plainLibraries) (new plainLibraries.terminal zeroKey ⟨0⟩)
        [.queueInput [0x6c], .poll ⟨5⟩, .setLocalCapabilities [1]]) (.poll ⟨1004⟩)).output.actions := by
  apply polls_do_not_burst plainLibraries zeroKey ⟨0⟩ ⟨5⟩ [.queueInput [0x6c]]
    [.setLocalCapabilities [1], .poll ⟨1004⟩] _ (by decide) _
    (List.mem_cons_of_mem _ List.mem_cons_self) ⟨1004⟩ rfl (by decide) (by decide +kernel)
  rw [Silent]
  decide +kernel

end Run

end SessionRuntime

end FerrumTty.Runtime
