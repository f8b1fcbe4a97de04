import FerrumTty.Runtime.Operations
import FerrumTty.Runtime.Polls
import FerrumTty.Session.StateNumbers

/-!
# Failed polls

What a poll leaves behind when one of its messages cannot be built. A message that repeats what
was sent fails without a trace; a queued update has emptied the queue by then, and an
association that was opened in the same call is recorded as sent although it never leaves.
-/

namespace FerrumTty.Runtime

set_option autoImplicit false

open Crypto Wire State Session Runs

namespace SessionRuntime

/-- Nothing waits less than before, and nothing was recorded as sent. A failed call returns no
datagrams, so whatever it had recorded would be withheld. -/
structure LosesNothing {terminal : Terminal} (before after : SessionRuntime terminal) : Prop where
  queue : after.queuedInstructions = before.queuedInstructions
  bytes : after.queuedInputBytes = before.queuedInputBytes
  acknowledgement : after.acknowledgementDue = before.acknowledgementDue
  association : after.association = before.association
  lastSend : after.lastSend = before.lastSend
  history : ClientProtocol.SameSent before.protocol after.protocol

section Failures

variable {lib : Libraries} {runtime after : SessionRuntime lib.terminal} {now : MonotonicTime}
  {error : RuntimeError}

theorem failed_with_protocol {operation : ProtocolOperation} {refused : SessionError}
    {protocol : ClientProtocol lib.terminal}
    (performed : runtime.protocol.perform lib operation = (.packets (.error refused), protocol)) :
    LosesNothing runtime { runtime with protocol } :=
  ⟨rfl, rfl, rfl, rfl, rfl, ClientProtocol.perform_failed performed⟩

theorem poll_association_failed
    (failed : runtime.pollAssociation lib now = (.error error, after)) :
    runtime.association = .due ∧
      (∃ refused, (runtime.protocol.buildAssociation lib (timestamp now)).1 = .error refused) ∧
      LosesNothing runtime after := by
  unfold pollAssociation at failed
  split_ifs at failed with due
  · cases built : runtime.protocol.buildAssociation lib (timestamp now) with
    | mk result protocol =>
        rw [built] at failed
        cases result with
        | error refused =>
            cases failed
            have performed : runtime.protocol.perform lib (.buildAssociation (timestamp now)) =
                (.packets (.error refused), protocol) := by
              rw [ClientProtocol.perform, built]
            exact ⟨due, ⟨refused, rfl⟩, failed_with_protocol performed⟩
        | ok packets => cases failed
  · cases failed

/-- The protocol refused the method, and nothing but the protocol has moved. -/
def RefusedBy (lib : Libraries) (runtime after : SessionRuntime lib.terminal)
    (operation : ProtocolOperation) : Prop :=
  ∃ refused protocol, runtime.protocol.perform lib operation = (.packets (.error refused), protocol) ∧
    after = { runtime with protocol }

theorem RefusedBy.loses_nothing {operation : ProtocolOperation}
    (refused : RefusedBy lib runtime after operation) : LosesNothing runtime after := by
  obtain ⟨error, protocol, performed, rfl⟩ := refused
  exact failed_with_protocol performed

theorem poll_pending_refused (failed : runtime.pollPending lib now = (.error error, after)) :
    RefusedBy lib runtime after (.retransmitPending (timestamp now)) := by
  unfold pollPending at failed
  split_ifs at failed
  · cases failed
  · cases built : runtime.protocol.retransmitPending lib (timestamp now) with
    | mk result protocol =>
        rw [built] at failed
        cases result with
        | error refused =>
            cases failed
            exact ⟨refused, protocol, by rw [ClientProtocol.perform, built], rfl⟩
        | ok packets => cases failed

theorem poll_heartbeat_refused (failed : runtime.pollHeartbeat lib now = (.error error, after)) :
    RefusedBy lib runtime after (.buildAcknowledgement (timestamp now)) := by
  unfold pollHeartbeat at failed
  split_ifs at failed
  · cases failed
  · cases built : runtime.protocol.buildAcknowledgement lib (timestamp now) with
    | mk result protocol =>
        rw [built] at failed
        cases result with
        | error refused =>
            cases failed
            exact ⟨refused, protocol, by rw [ClientProtocol.perform, built], rfl⟩
        | ok packets => cases failed

/-- What a queued update has taken away before it is built. -/
def drainedForUpdate {terminal : Terminal} (runtime : SessionRuntime terminal) :
    SessionRuntime terminal :=
  { runtime with queuedInstructions := [], queuedInputBytes := 0, acknowledgementDue := false }

theorem build_queued_packets_failed {instructions : InstructionBatch} {refused : SessionError}
    {protocol : ClientProtocol lib.terminal}
    (built : runtime.buildQueuedPackets lib instructions now = (.error refused, protocol)) :
    ClientProtocol.SameSent runtime.protocol protocol := by
  unfold buildQueuedPackets at built
  split_ifs at built
  · have performed : runtime.protocol.perform lib (.buildShutdownAck (timestamp now)) =
        (.packets (.error refused), protocol) := by
      rw [ClientProtocol.perform, built]
    exact ClientProtocol.perform_failed performed
  · have performed : runtime.protocol.perform lib (.buildShutdown (timestamp now) instructions) =
        (.packets (.error refused), protocol) := by
      rw [ClientProtocol.perform, built]
    exact ClientProtocol.perform_failed performed
  · have performed : runtime.protocol.perform lib (.buildUpdate (timestamp now) instructions) =
        (.packets (.error refused), protocol) := by
      rw [ClientProtocol.perform, built]
    exact ClientProtocol.perform_failed performed

theorem poll_queued_failed (failed : runtime.pollQueued lib now = (.error error, after)) :
    LosesNothing runtime.drainedForUpdate after := by
  unfold pollQueued buildQueuedUpdate at failed
  dsimp only at failed
  cases built : runtime.drainedForUpdate.buildQueuedPackets lib
      ⟨runtime.queuedInstructions⟩ now with
  | mk result protocol =>
      have same := built
      unfold drainedForUpdate at built
      rw [built] at failed
      cases result with
      | error refused =>
          cases failed
          exact ⟨rfl, rfl, rfl, rfl, rfl, build_queued_packets_failed same⟩
      | ok packets => cases failed

theorem poll_send_failed (failed : runtime.pollSend lib now = (.error error, after)) :
    LosesNothing (if runtime.sendsQueued then runtime.drainedForUpdate else runtime) after := by
  rw [poll_send_eq] at failed
  split_ifs at failed ⊢ with chosen pending
  · exact poll_queued_failed failed
  · exact (poll_pending_refused failed).loses_nothing
  · exact (poll_heartbeat_refused failed).loses_nothing

theorem connection_loses_nothing (runtime : SessionRuntime lib.terminal) (now : MonotonicTime) :
    LosesNothing runtime (runtime.connectionStateAction now).2 ∧
      (runtime.connectionStateAction now).2.sendsQueued = runtime.sendsQueued := by
  obtain ⟨state, noted⟩ := connection_frame runtime now
  rw [noted]
  exact ⟨⟨rfl, rfl, rfl, rfl, rfl, .refl _⟩, rfl⟩

theorem LosesNothing.trans {terminal : Terminal} {first second third : SessionRuntime terminal}
    (earlier : LosesNothing first second) (later : LosesNothing second third) :
    LosesNothing first third :=
  ⟨later.queue.trans earlier.queue, later.bytes.trans earlier.bytes,
    later.acknowledgement.trans earlier.acknowledgement, later.association.trans earlier.association,
    later.lastSend.trans earlier.lastSend, earlier.history.trans later.history⟩

theorem LosesNothing.drained {terminal : Terminal} {first second : SessionRuntime terminal}
    (kept : LosesNothing first second) :
    LosesNothing first.drainedForUpdate second.drainedForUpdate :=
  ⟨rfl, rfl, rfl, kept.association, kept.lastSend, kept.history⟩

theorem poll_session_failed {actions : List SessionAction}
    (failed : runtime.pollSession lib now actions = (.error error, after)) :
    LosesNothing (if runtime.sendsQueued then runtime.drainedForUpdate else runtime) after := by
  unfold pollSession at failed
  split_ifs at failed
  · cases failed
  · cases failed
  · obtain ⟨kept, sameChoice⟩ := connection_loses_nothing runtime now
    dsimp only at failed
    cases sent : (runtime.connectionStateAction now).2.pollSend lib now with
    | mk result last =>
        rw [sent] at failed
        cases result with
        | error refused =>
            cases failed
            have behind := poll_send_failed sent
            rw [sameChoice] at behind
            split_ifs at behind ⊢ with chosen
            · exact kept.drained.trans behind
            · exact kept.trans behind
        | ok list => cases failed

theorem poll_association_shutdown :
    (runtime.pollAssociation lib now).2.shutdown = runtime.shutdown := by
  unfold pollAssociation
  split_ifs
  · split
    · rfl
    · rfl
  · rfl

theorem poll_send_failed_shutdown (failed : runtime.pollSend lib now = (.error error, after)) :
    after.shutdown = runtime.shutdown := by
  unfold pollSend at failed
  dsimp only at failed
  split_ifs at failed
  · unfold pollQueued buildQueuedUpdate at failed
    dsimp only at failed
    split at failed
    · rename_i refused stopped built
      split at built
      · cases built
        cases failed
        rfl
      · cases built
    · cases failed
  · unfold pollPending at failed
    split_ifs at failed
    · cases failed
    · split at failed
      · cases failed
        rfl
      · cases failed
  · unfold pollHeartbeat at failed
    split_ifs at failed
    · cases failed
    · split at failed
      · cases failed
        rfl
      · cases failed

theorem poll_failed_shutdown (failed : runtime.poll lib now = (.error error, after)) :
    after.shutdown = runtime.shutdown := by
  have opened : (runtime.pollAssociation lib now).2.shutdown = runtime.shutdown :=
    poll_association_shutdown
  unfold poll at failed
  split_ifs at failed
  · cases failed
  · cases failed
  · cases association : runtime.pollAssociation lib now with
    | mk result middle =>
        rw [association] at failed opened
        cases result with
        | error refused =>
            cases failed
            exact opened
        | ok opening =>
            dsimp only at failed
            unfold pollSession at failed
            split_ifs at failed
            · cases failed
            · cases failed
            · dsimp only at failed
              cases sent : (middle.connectionStateAction now).2.pollSend lib now with
              | mk outcome last =>
                  rw [sent] at failed
                  cases outcome with
                  | error refused =>
                      cases failed
                      have same := poll_send_failed_shutdown sent
                      have noted : (middle.connectionStateAction now).2.shutdown = middle.shutdown := by
                        unfold connectionStateAction
                        split_ifs <;> rfl
                      exact same.trans (noted.trans opened)
                  | ok actions => cases failed

end Failures

section Condition

variable (lib : Libraries) (runtime : SessionRuntime lib.terminal) (now : MonotonicTime)

/-- The first message that the poll builds has nothing to lose: it is the association, or the poll
does not come to a queued update, or it comes to one with an empty queue. -/
def KeepsOnFailure : Prop :=
  if runtime.association = .due then
    (runtime.protocol.buildAssociation lib (timestamp now)).1.isOk = false
  else runtime.sendsQueued = true →
    runtime.queuedInstructions = [] ∧ runtime.queuedInputBytes = 0 ∧
      runtime.acknowledgementDue = false

end Condition

variable {lib : Libraries}

theorem failed_behind_association {runtime middle after : SessionRuntime lib.terminal}
    {now : MonotonicTime} {opening : List SessionAction} {error : RuntimeError}
    (opened : runtime.pollAssociation lib now = (.ok opening, middle))
    (due : runtime.association = .due)
    (failed : middle.pollSession lib now opening = (.error error, after)) :
    after.association = .sent ∧
      (runtime.protocol.buildAssociation lib (timestamp now)).1.isOk = true := by
  have behind := poll_session_failed failed
  unfold pollAssociation at opened
  rw [if_pos due] at opened
  cases built : runtime.protocol.buildAssociation lib (timestamp now) with
  | mk result protocol =>
      rw [built] at opened
      cases result with
      | error refused => cases opened
      | ok packets =>
          cases opened
          refine ⟨?_, rfl⟩
          have kept := behind.association
          split_ifs at kept
          · exact kept
          · exact kept

section Unfitting

/-- Capabilities that no message has room for, stored as they are. -/
theorem unfitting_seal {protocol : ClientProtocol plainLibraries.terminal} {update : StateUpdate}
    (version : update.protocolVersion = PROTOCOL_VERSION)
    (unfitting : 32768 * MAX_FRAGMENT_BODY_BYTES < update.capabilities.length)
    (sentTimestamp : UInt16) (stateId : UInt64) :
    protocol.sealUpdate plainLibraries sentTimestamp update stateId =
      (.error (.fragment .tooManyFragments), protocol) := by
  have stored : encodeCompressedUpdate plainLibraries.codec update =
      .ok (STORED_HEADER ++ update.encode) := by
    rw [encodeCompressedUpdate, if_neg (not_not.mpr version)]
    rfl
  have listed : (⟨8, .bytes update.capabilities⟩ : Proto3.WireField) ∈ update.fields := by
    have filled : update.capabilities ≠ [] := by
      intro nothing
      rw [nothing] at unfitting
      exact absurd unfitting (by decide)
    have written : Proto3.bytesField 8 update.capabilities = [⟨8, .bytes update.capabilities⟩] :=
      if_neg (by rwa [List.isEmpty_iff])
    rw [StateUpdate.fields, written]
    exact List.mem_append_right _ (List.mem_singleton.mpr rfl)
  have long : 32768 * MAX_FRAGMENT_BODY_BYTES < (STORED_HEADER ++ update.encode).length := by
    have covered : update.capabilities.length ≤ update.encode.length := payload_length_le listed rfl
    rw [List.length_append]
    omega
  have many := mt (Fragment.chunk_count_few_iff _).mp (Nat.not_le.mpr long)
  rw [ClientProtocol.sealUpdate, stored]
  simp only [sealFragments]
  rw [Fragment.split_eq, if_neg many]

variable {runtime : SessionRuntime plainLibraries.terminal} {front back : SentState}

theorem unfitting_association_refused (running : runtime.lifecycle = .running)
    (ongoing : runtime.shutdownIsComplete = false) (due : runtime.association = .due)
    (oldest : runtime.protocol.sentStates.head? = some front)
    (newest : runtime.protocol.sentStates.getLast? = some back)
    (unfitting : 32768 * MAX_FRAGMENT_BODY_BYTES < runtime.protocol.localCapabilities.length)
    (now : MonotonicTime) :
    runtime.protocol.buildAssociation plainLibraries (timestamp now) =
        (.error (.fragment .tooManyFragments), runtime.protocol) ∧
      runtime.poll plainLibraries now =
        (.error (.session (.fragment .tooManyFragments)), runtime) := by
  have built : runtime.protocol.buildAssociation plainLibraries (timestamp now) =
      (.error (.fragment .tooManyFragments), runtime.protocol) := by
    simp only [ClientProtocol.buildAssociation, ClientProtocol.buildAcknowledgement, oldest, newest]
    exact unfitting_seal rfl unfitting _ _
  refine ⟨built, ?_⟩
  rw [poll, if_neg (not_not.mpr running), if_neg (by rw [ongoing]; decide), pollAssociation,
    if_pos due, built]

theorem unfitting_update_refused (running : runtime.lifecycle = .running)
    (unstarted : runtime.shutdown = .open) (sent : runtime.association = .sent)
    (unanswered : runtime.protocol.localShutdownAcknowledged = false)
    (early : runtime.connectionState = .connecting)
    (chosen : runtime.sendsQueued = true) (fresh : runtime.protocol.nextLocalState ≠ MAXIMUM_STATE)
    (oldest : runtime.protocol.sentStates.head? = some front)
    (newest : runtime.protocol.sentStates.getLast? = some back)
    (unfitting : 32768 * MAX_FRAGMENT_BODY_BYTES < runtime.protocol.localCapabilities.length)
    (now : MonotonicTime) :
    runtime.poll plainLibraries now =
      (.error (.session (.fragment .tooManyFragments)), runtime.drainedForUpdate) := by
  have built : runtime.drainedForUpdate.buildQueuedPackets plainLibraries
      ⟨runtime.queuedInstructions⟩ now = (.error (.fragment .tooManyFragments), runtime.protocol) := by
    have quiet : runtime.drainedForUpdate.shutdownAckDue = false := by
      rw [shutdownAckDue, drainedForUpdate, unanswered, Bool.and_false]
    have ordinary : runtime.drainedForUpdate.localShutdownUnsent = false := by
      simp only [localShutdownUnsent, shutdownIsRequested, drainedForUpdate, unstarted, Bool.false_and]
    have refused : runtime.protocol.buildUpdate plainLibraries (timestamp now)
        ⟨runtime.queuedInstructions⟩ = (.error (.fragment .tooManyFragments), runtime.protocol) := by
      rw [ClientProtocol.buildUpdate, if_neg fresh]
      simp only [ClientProtocol.buildStateUpdate, oldest, newest]
      rw [unfitting_seal (by rfl) (by exact unfitting)]
    rw [buildQueuedPackets, quiet, if_neg (by decide), ordinary, if_neg (by decide)]
    exact refused
  have queued : runtime.pollSend plainLibraries now =
      (.error (.session (.fragment .tooManyFragments)), runtime.drainedForUpdate) := by
    rw [poll_send_eq, if_pos chosen, pollQueued, buildQueuedUpdate]
    dsimp only
    rw [drainedForUpdate] at built
    rw [built]
    rfl
  have quiet : runtime.connectionStateAction now = (none, runtime) := by
    rw [connectionStateAction, early, if_neg (by simp)]
  have waiting : runtime.shutdownTimedOut now = false := by
    rw [shutdownTimedOut, unstarted]
  rw [poll, if_neg (not_not.mpr running), shutdownIsComplete, unstarted, if_neg (by decide),
    pollAssociation, sent, if_neg (by decide)]
  dsimp only
  rw [pollSession, unanswered, Bool.false_and, if_neg (by decide), waiting, Bool.and_false,
    if_neg (by decide), quiet]
  dsimp only
  rw [queued]
  rfl

end Unfitting

/-- A failed poll loses nothing iff its first message had nothing to lose. -/
theorem failed_poll_iff (runtime : SessionRuntime lib.terminal) (now : MonotonicTime)
    {error : RuntimeError} {after : SessionRuntime lib.terminal}
    (failed : runtime.poll lib now = (.error error, after)) :
    LosesNothing runtime after ↔ runtime.KeepsOnFailure lib now := by
  unfold poll at failed
  split_ifs at failed with stopped complete
  · cases failed
  · cases failed
  · cases opened : runtime.pollAssociation lib now with
    | mk result middle =>
        rw [opened] at failed
        cases result with
        | error refused =>
            cases failed
            obtain ⟨due, ⟨refusal, unbuilt⟩, kept⟩ := poll_association_failed opened
            rw [KeepsOnFailure, if_pos due, unbuilt]
            exact iff_of_true kept rfl
        | ok opening =>
            dsimp only at failed
            rw [KeepsOnFailure]
            split_ifs with due
            · obtain ⟨sent, built⟩ := failed_behind_association opened due failed
              rw [built]
              apply iff_of_false
              · intro kept
                have same := kept.association
                rw [sent, due] at same
                cases same
              · decide
            · have unmoved : middle = runtime := by
                unfold pollAssociation at opened
                rw [if_neg due] at opened
                cases opened
                rfl
              rw [unmoved] at failed
              have behind := poll_session_failed failed
              cases chosen : runtime.sendsQueued with
              | false =>
                  rw [chosen, if_neg (by decide)] at behind
                  exact iff_of_true behind (by intro never; cases never)
              | true =>
                  rw [chosen, if_pos rfl] at behind
                  constructor
                  · intro kept _
                    exact ⟨kept.queue.symm.trans behind.queue, kept.bytes.symm.trans behind.bytes,
                      kept.acknowledgement.symm.trans behind.acknowledgement⟩
                  · intro nothing
                    obtain ⟨queue, bytes, acknowledgement⟩ := nothing rfl
                    exact ⟨behind.queue.trans queue.symm, behind.bytes.trans bytes.symm,
                      behind.acknowledgement.trans acknowledgement.symm, behind.association,
                      behind.lastSend, behind.history⟩

def unfittingCapabilities : Bytes := List.replicate (2 ^ 26) 0

theorem unfitting_capabilities_length :
    32768 * MAX_FRAGMENT_BODY_BYTES < unfittingCapabilities.length := by
  rw [unfittingCapabilities, List.length_replicate]
  decide

/-- A letter is typed and then capabilities are announced that fit into no message. -/
def unfittingTail : List SessionOperation :=
  [.queueInput [0x6c], .setLocalCapabilities unfittingCapabilities]

/-- An association that does not fit keeps the letter. -/
theorem unfitting_association_keeps_letter :
    ∃ after, (final (perform plainLibraries) (new plainLibraries.terminal zeroKey ⟨0⟩)
        unfittingTail).poll plainLibraries ⟨0⟩ =
          (.error (.session (.fragment .tooManyFragments)), after) ∧
      LosesNothing (final (perform plainLibraries) (new plainLibraries.terminal zeroKey ⟨0⟩)
        unfittingTail) after := by
  let before := final (perform plainLibraries) (new plainLibraries.terminal zeroKey ⟨0⟩) unfittingTail
  have due : before.association = .due := rfl
  have long : 32768 * MAX_FRAGMENT_BODY_BYTES < before.protocol.localCapabilities.length :=
    unfitting_capabilities_length
  obtain ⟨built, failed⟩ := unfitting_association_refused rfl rfl due rfl rfl long ⟨0⟩
  have unbuilt : before.KeepsOnFailure plainLibraries ⟨0⟩ := by
    rw [KeepsOnFailure, if_pos due, built]
    rfl
  exact ⟨before, failed, (failed_poll_iff before ⟨0⟩ failed).mpr unbuilt⟩

/-- An update that does not fit loses the letter. -/
theorem unfitting_update_loses_letter :
    ¬ ∀ operations now error after,
      (final (perform plainLibraries) (new plainLibraries.terminal zeroKey ⟨0⟩) operations).poll
        plainLibraries now = (.error error, after) →
      LosesNothing (final (perform plainLibraries) (new plainLibraries.terminal zeroKey ⟨0⟩) operations)
        after := by
  let opened := final (perform plainLibraries) (new plainLibraries.terminal zeroKey ⟨0⟩)
    [.poll ⟨0⟩, .queueInput [0x6c]]
  have opening : opened.lifecycle = .running ∧ opened.shutdown = .open ∧ opened.association = .sent ∧
      opened.protocol.localShutdownAcknowledged = false ∧ opened.connectionState = .connecting ∧
      opened.sendsQueued = true ∧ opened.protocol.nextLocalState ≠ MAXIMUM_STATE ∧
      opened.protocol.sentStates.head? = some ⟨0, 0⟩ ∧
      opened.protocol.sentStates.getLast? = some ⟨0, 0⟩ ∧ opened.queuedInstructions ≠ [] := by
    decide +kernel
  obtain ⟨running, unstarted, sent, unanswered, early, chosen, fresh, oldest, newest, waiting⟩ := opening
  intro keeps
  let before := opened.setLocalCapabilities unfittingCapabilities
  have long : 32768 * MAX_FRAGMENT_BODY_BYTES < before.protocol.localCapabilities.length :=
    unfitting_capabilities_length
  have failed := @unfitting_update_refused before ⟨0, 0⟩ ⟨0, 0⟩ running unstarted sent unanswered early
    chosen fresh oldest newest long ⟨1⟩
  have kept := keeps ([.poll ⟨0⟩, .queueInput [0x6c]] ++ [.setLocalCapabilities unfittingCapabilities])
    ⟨1⟩
  rw [final_concat] at kept
  have same : ([] : List Instruction) = opened.queuedInstructions := (kept _ _ failed).queue
  exact waiting same.symm

end SessionRuntime

end FerrumTty.Runtime
