import FerrumTty.Runtime.Polls
import FerrumTty.Runtime.Receives

/-!
# The ledger of a run

The accepted instructions of a run form a log. Every step of the runtime keeps a ledger: each
number of a local state stands for a prefix of the log, the newest one for all that left the
queue, and every message leads from the prefix of its base to the prefix of its target.
-/

namespace FerrumTty.Runtime

set_option autoImplicit false

open Crypto Wire State Session Runs

/-- The accepted instructions: those that left the queue, and those that wait in it. -/
structure InputLog where
  drained : List Instruction
  queued : List Instruction
  deriving DecidableEq, Repr

namespace InputLog

def entries (log : InputLog) : List Instruction := log.drained ++ log.queued

def push (log : InputLog) (instruction : Instruction) : InputLog :=
  { log with queued := log.queued ++ [instruction] }

/-- A resize replaces a resize directly before it that has not left the queue. -/
def resize (log : InputLog) (viewport : ViewportSize) : InputLog :=
  if log.queued.getLast?.any SessionRuntime.isResize then
    { log with queued := log.queued.dropLast ++ [SessionRuntime.resizeInstruction viewport] }
  else log.push (SessionRuntime.resizeInstruction viewport)

def drain (log : InputLog) : InputLog where
  drained := log.drained ++ log.queued
  queued := []

end InputLog

namespace SessionRuntime

variable {lib : Libraries}

def logStep (log : InputLog) (event : RuntimeStep lib) : InputLog :=
  match event.input with
  | .queueInput bytes | .queueTerminalEvent (.bytes bytes) =>
      if event.output.isError then log else log.push (bytesInstruction bytes)
  | .queueResize columns rows | .queueTerminalEvent (.resize columns rows) =>
      if event.before.lifecycle = .running ∧ event.before.shutdown = .open then
        log.resize { columns := columns.toUInt64, rows := rows.toUInt64 }
      else log
  | .queueSessionControl kind payload =>
      if event.output.isError then log else log.push (controlInstruction kind payload)
  | .poll _ => if event.after.queuedInstructions.isEmpty then log.drain else log
  | _ => log

def logOf (log : InputLog) (events : List (RuntimeStep lib)) : InputLog := events.foldl logStep log

theorem rejecting_step_entries {runtime : SessionRuntime lib.terminal} {error : RuntimeError}
    (rejects : runtime.ensureAcceptingInput = .error error) (log : InputLog)
    (operation : SessionOperation) :
    (logStep log (stepAt (perform lib) runtime operation)).entries = log.entries := by
  have unresized : ¬ (runtime.lifecycle = .running ∧ runtime.shutdown = .open) := by
    rintro ⟨running, opened⟩
    simp [ensureAcceptingInput, ensureRunning, running, opened] at rejects
  cases operation with
  | queueTerminalEvent event =>
      cases event with
      | bytes bytes =>
          simp [logStep, stepAt, perform, queueTerminalEvent, rejects, SessionOutput.isError]
      | resize columns rows => exact congrArg InputLog.entries (if_neg unresized)
  | queueInput bytes => simp [logStep, stepAt, perform, queueInput, rejects, SessionOutput.isError]
  | queueResize columns rows => exact congrArg InputLog.entries (if_neg unresized)
  | queueSessionControl kind payload =>
      simp [logStep, stepAt, perform, queueSessionControl, rejects, SessionOutput.isError]
  | poll now =>
      change (if _ then log.drain else log).entries = log.entries
      split_ifs
      · simp [InputLog.drain, InputLog.entries]
      · rfl
  | _ => rfl

/-- The runtime and its log: the queue is the end of the log, the contents explain the send
history, and nothing waits behind the shutdown state. -/
structure Ledger (key : SessionKey) (runtime : SessionRuntime lib.terminal) (log : InputLog)
    (content : UInt64 → List Instruction) : Prop where
  seals : ClientProtocol.SealsWith key runtime.protocol
  queue : runtime.queuedInstructions = log.queued
  outbox : runtime.protocol.Outbox content log.drained
  closed : runtime.protocol.localShutdownSent = true →
    runtime.queuedInstructions = [] ∧ runtime.shutdown ≠ .open

/-- From one ledger to a later one, with the messages sent in between. -/
structure Advance (lib : Libraries) (key : SessionKey) (before after : SessionRuntime lib.terminal)
    (content : UInt64 → List Instruction) (groups : List (List Bytes)) (log : InputLog)
    (later : UInt64 → List Instruction) : Prop where
  ledger : Ledger key after log later
  agree : ∀ number, before.protocol.Issued number → later number = content number
  issued : ∀ number, before.protocol.Issued number → after.protocol.Issued number
  explained : ∀ packets ∈ groups, ∃ update batch, ClientProtocol.Carries lib key packets update batch ∧
    after.protocol.Explained later update batch

section Ledger

variable {key : SessionKey} {before middle after : SessionRuntime lib.terminal}
  {log later : InputLog} {content next last : UInt64 → List Instruction}

theorem new_ledger (lib : Libraries) (key : SessionKey) (now : MonotonicTime) :
    Ledger key (new lib.terminal key now) ⟨[], []⟩ fun _ => [] where
  seals := ClientProtocol.new_seals_with lib.terminal key
  queue := rfl
  outbox := ClientProtocol.new_outbox lib.terminal key
  closed := by
    intro sent
    cases sent

theorem Ledger.stays (ledger : Ledger key before log content) :
    Advance lib key before before content [] log content where
  ledger := ledger
  agree := fun _ _ => rfl
  issued := fun _ issued => issued
  explained := by
    intro packets member
    cases member

theorem Advance.trans {first second : List (List Bytes)}
    (earlier : Advance lib key before middle content first log next)
    (onward : Advance lib key middle after next second later last) :
    Advance lib key before after content (first ++ second) later last where
  ledger := onward.ledger
  agree := by
    intro number issued
    rw [onward.agree number (earlier.issued number issued), earlier.agree number issued]
  issued := fun number issued => onward.issued number (earlier.issued number issued)
  explained := by
    intro packets member
    rcases List.mem_append.mp member with early | late
    · obtain ⟨update, batch, carries, explained⟩ := earlier.explained packets early
      exact ⟨update, batch, carries, explained.later onward.agree onward.issued⟩
    · exact onward.explained packets late

theorem Ledger.settles (ledger : Ledger key before log content)
    (settles : ClientProtocol.Settles before.protocol after.protocol)
    (queue : after.queuedInstructions = later.queued) (drained : later.drained = log.drained)
    (closed : before.shutdown ≠ .open →
      after.shutdown ≠ .open ∧ after.queuedInstructions = before.queuedInstructions) :
    Advance lib key before after content [] later content where
  ledger := by
    constructor
    · obtain ⟨count, place⟩ := ledger.seals
      exact ⟨count, settles.channel.trans place⟩
    · exact queue
    · rw [drained]
      exact ledger.outbox.settles settles
    · intro sent
      rw [settles.shutdown_sent] at sent
      obtain ⟨empty, notOpen⟩ := ledger.closed sent
      obtain ⟨stillClosed, sameQueue⟩ := closed notOpen
      exact ⟨sameQueue.trans empty, stillClosed⟩
  agree := fun _ _ => rfl
  issued := fun number issued => (settles.issued number).mpr issued
  explained := by
    intro packets member
    cases member

theorem ledger_transmitted {packets : List Bytes}
    (transmitted : ClientProtocol.Transmitted lib key before.protocol content packets after.protocol
      next later.drained)
    (seals : ClientProtocol.SealsWith key after.protocol)
    (queue : after.queuedInstructions = later.queued)
    (closed : after.protocol.localShutdownSent = true →
      after.queuedInstructions = [] ∧ after.shutdown ≠ .open) :
    Advance lib key before after content [packets] later next where
  ledger := ⟨seals, queue, transmitted.outbox, closed⟩
  agree := transmitted.agree
  issued := transmitted.issued
  explained := by
    intro group member
    rw [List.mem_singleton.mp member]
    exact transmitted.explained

theorem SealsWith.performed {protocol protocol' : ClientProtocol lib.terminal}
    (lawful : LawfulAead lib.aead) (seals : ClientProtocol.SealsWith key protocol)
    {operation : ProtocolOperation} {output : ProtocolOutput}
    (performed : protocol.perform lib operation = (output, protocol')) :
    ClientProtocol.SealsWith key protocol' := by
  have kept := seals.perform lawful operation
  rw [performed] at kept
  exact kept

theorem Advance.fewer {first : List (List Bytes)} (second : List (List Bytes))
    (advance : Advance lib key before after content first log next)
    (fewer : ∀ packets ∈ second, packets ∈ first) :
    Advance lib key before after content second log next where
  ledger := advance.ledger
  agree := advance.agree
  issued := advance.issued
  explained := fun packets member => advance.explained packets (fewer packets member)

theorem AssociationOutcome.advance (lawful : LawfulAead lib.aead) {now : MonotonicTime}
    {opening : List SessionAction} (ledger : Ledger key before log content)
    (association : AssociationOutcome lib before now (.ok opening, middle)) :
    Advance lib key before middle content (messages opening) log content ∧
      ∀ rest, messages (opening ++ rest) = messages opening ++ messages rest := by
  cases association with
  | kept opened => exact ⟨ledger.stays, fun _ => rfl⟩
  | opened packets protocol event _ performed =>
      have transmitted := ClientProtocol.acknowledgement_transmitted lawful ledger.seals ledger.outbox performed
      obtain ⟨update, batch, carries, _⟩ := transmitted.explained
      obtain ⟨packet, others, listed⟩ := carries.nonempty
      have group : messages (sendActions packets ++ [.diagnostic event]) = [packets] := by
        rw [listed, messages_send]
        rfl
      have sent : protocol.localShutdownSent = before.protocol.localShutdownSent := by
        obtain ⟨channel, same⟩ := ClientProtocol.perform_keeps rfl performed
        rw [same]
        rfl
      rw [group]
      constructor
      · apply ledger_transmitted transmitted (SealsWith.performed lawful ledger.seals performed)
        · exact ledger.queue
        · intro shutdownSent
          exact ledger.closed (sent ▸ shutdownSent)
      · intro rest
        rw [List.append_assoc, listed]
        exact messages_send packet others event rest

theorem shutdown_sent_of_acknowledged {terminal : Terminal} {protocol : ClientProtocol terminal}
    {sent : List Instruction} (outbox : protocol.Outbox content sent)
    (settled : protocol.hasPendingUpdate = false)
    (acknowledged : protocol.localShutdownAcknowledged = true) :
    protocol.localShutdownSent = true := by
  obtain ⟨confirmed, only, _, _⟩ := outbox.settled_of settled
  rw [ClientProtocol.localShutdownAcknowledged, only] at acknowledged
  rw [ClientProtocol.localShutdownSent, only]
  exact acknowledged

theorem open_of_open_after {terminal : Terminal} {runtime : SessionRuntime terminal}
    {operation : ProtocolOperation} (opened : runtime.shutdownAfter operation = .open) :
    runtime.shutdown = .open := by
  unfold shutdownAfter countedShutdown recordShutdownTransmission at opened
  split_ifs at opened
  cases operation <;> dsimp only at opened <;> grind

/-- A send keeps the ledger: what leaves the queue is what the new state adds. -/
theorem SendOutcome.advance (lawful : LawfulAead lib.aead) {now : MonotonicTime}
    {sent : List SessionAction} (ledger : Ledger key before log content)
    (sending : SendOutcome lib before now (.ok sent, after)) :
    ∃ later next, Advance lib key before after content (messages sent) later next ∧
      (later = log ∨ later = log.drain) := by
  cases sending with
  | waited waits => exact ⟨log, content, ledger.stays, Or.inl rfl⟩
  | sent operation queue packets event _ sends choice performed queued shutdown answered =>
      have seals := SealsWith.performed lawful ledger.seals performed
      have completion : Silent before.peerCompletion := by
        unfold peerCompletion
        split_ifs <;> simp [Silent, isDatagram]
      have grouped : ∀ {next : UInt64 → List Instruction} {all : List Instruction},
          ClientProtocol.Transmitted lib key before.protocol content packets after.protocol next all →
          messages (sendActions packets ++ .diagnostic event :: before.peerCompletion) = [packets] := by
        intro next all transmitted
        obtain ⟨update, batch, carries, _⟩ := transmitted.explained
        obtain ⟨packet, others, listed⟩ := carries.nonempty
        rw [listed, messages_send, completion.messages]
      have stillClosed : before.shutdown ≠ .open → after.shutdown ≠ .open := by
        intro notOpen opened
        rw [shutdown] at opened
        exact notOpen (open_of_open_after opened)
      have stillClosedFrom : operation.keepsHistory = true →
          after.queuedInstructions = before.queuedInstructions →
          after.protocol.localShutdownSent = true →
          after.queuedInstructions = [] ∧ after.shutdown ≠ .open := by
        intro keeps sameQueue shutdownSent
        obtain ⟨channel, same⟩ := ClientProtocol.perform_keeps keeps performed
        rw [same] at shutdownSent
        obtain ⟨empty, notOpen⟩ := ledger.closed shutdownSent
        exact ⟨sameQueue.trans empty, stillClosed notOpen⟩
      cases choice with
      | acknowledgement sentTimestamp =>
          have transmitted := ClientProtocol.acknowledgement_transmitted lawful ledger.seals
            ledger.outbox performed
          rw [grouped transmitted]
          exact ⟨log, content, ledger_transmitted transmitted seals (queued.trans ledger.queue)
            (stillClosedFrom rfl queued), Or.inl rfl⟩
      | retransmission sentTimestamp =>
          have transmitted := ClientProtocol.retransmission_transmitted lawful ledger.seals
            ledger.outbox performed
          rw [grouped transmitted]
          exact ⟨log, content, ledger_transmitted transmitted seals (queued.trans ledger.queue)
            (stillClosedFrom rfl queued), Or.inl rfl⟩
      | update sentTimestamp settled waiting requested =>
          have unsent : before.protocol.localShutdownSent = false := by
            apply Bool.eq_false_iff.mpr
            intro shutdownSent
            exact waiting (ledger.closed shutdownSent).1
          obtain ⟨next, transmitted⟩ := ClientProtocol.update_transmitted lawful ledger.seals
            ledger.outbox settled unsent performed
          rw [grouped transmitted]
          rw [ledger.queue] at transmitted
          refine ⟨log.drain, next, ledger_transmitted transmitted seals queued ?_, Or.inr rfl⟩
          intro shutdownSent
          rw [ClientProtocol.update_shutdown_unsent ledger.outbox settled performed] at shutdownSent
          cases shutdownSent
      | shutdown sentTimestamp settled requested =>
          have notOpen : before.shutdown ≠ .open := by
            intro opened
            simp [localShutdownUnsent, shutdownIsRequested, opened] at requested
          obtain ⟨next, transmitted⟩ := ClientProtocol.shutdown_transmitted lawful ledger.seals
            ledger.outbox settled performed
          rw [grouped transmitted]
          rw [ledger.queue] at transmitted
          refine ⟨log.drain, next, ledger_transmitted transmitted seals queued ?_, Or.inr rfl⟩
          intro _
          exact ⟨queued, stillClosed notOpen⟩
      | shutdownAck sentTimestamp settled answered waiting =>
          have shutdownSent := shutdown_sent_of_acknowledged ledger.outbox settled answered
          rcases waiting with present | unsent
          · exact absurd (ledger.closed shutdownSent).1 present
          · simp [localShutdownUnsent, shutdownSent] at unsent

theorem Ledger.drained_log (ledger : Ledger key after later content)
    (choice : later = log ∨ later = log.drain) :
    later = if after.queuedInstructions.isEmpty then log.drain else log := by
  rcases choice with same | drained
  · split_ifs with empty
    · have nothing : log.queued = [] := by
        rw [← same, ← ledger.queue]
        exact List.isEmpty_iff.mp empty
      rw [same, InputLog.drain, nothing, List.append_nil, ← nothing]
    · exact same
  · have empty : after.queuedInstructions = [] := ledger.queue.trans (by rw [drained]; rfl)
    rw [if_pos (List.isEmpty_iff.mpr empty), drained]

theorem PollOutcome.advance (lawful : LawfulAead lib.aead) {now : MonotonicTime}
    {actions : List SessionAction} (ledger : Ledger key before log content)
    (polled : PollOutcome lib before now (.ok actions, after)) :
    ∃ next, Advance lib key before after content (messages actions)
      (if after.queuedInstructions.isEmpty then log.drain else log) next := by
  cases polled with
  | idle stopped =>
      have kept := ledger.stays
      rw [ledger.drained_log (Or.inl rfl)] at kept
      exact ⟨content, kept⟩
  | ended opening middle outcome _ _ association ends =>
      obtain ⟨opened, _⟩ := association.advance lawful ledger
      have completed : Advance lib key middle (middle.completeShutdown outcome).2 content [] log
          content := by
        apply opened.ledger.settles
        · exact .refl _
        · exact opened.ledger.queue
        · rfl
        · intro _
          exact ⟨by simp [completeShutdown], rfl⟩
      have kept := (opened.trans completed).fewer [] (by simp)
      rw [completed.ledger.drained_log (Or.inl rfl)] at kept
      exact ⟨content, kept⟩
  | went opening sent middle after running incomplete association goesOn sending =>
      obtain ⟨opened, apart⟩ := association.advance lawful ledger
      have interrupted : Advance lib key middle (middle.connectionStateAction now).2 content [] log
          content := by
        unfold connectionStateAction
        split_ifs
        · apply opened.ledger.settles
          · exact .refl _
          · exact opened.ledger.queue
          · rfl
          · intro notOpen
            exact ⟨notOpen, rfl⟩
        · exact opened.ledger.stays
      obtain ⟨later, next, sending, choice⟩ := sending.advance lawful interrupted.ledger
      rw [List.append_assoc, apart, messages_silent_append (connection_notes_plain middle now).silent]
      have went := opened.trans (interrupted.trans sending)
      rw [List.nil_append, sending.ledger.drained_log choice] at went
      exact ⟨next, went⟩

theorem accepting_open {terminal : Terminal} {runtime : SessionRuntime terminal}
    (accepting : runtime.ensureAcceptingInput = .ok ()) :
    runtime.lifecycle = .running ∧ runtime.shutdown = .open := by
  unfold ensureAcceptingInput ensureRunning at accepting
  cases stage : runtime.lifecycle with
  | running =>
      rw [stage] at accepting
      dsimp only at accepting
      split_ifs at accepting with closed
      exact ⟨rfl, not_not.mp closed⟩
  | paused => rw [stage] at accepting; cases accepting
  | cancelled => rw [stage] at accepting; cases accepting

theorem Ledger.queue_instruction (ledger : Ledger key before log content)
    (accepting : before.ensureAcceptingInput = .ok ()) (added : Nat) (instruction : Instruction) :
    Advance lib key before (before.queueInstruction added instruction).2 content []
      (if (SessionOutput.queued (before.queueInstruction added instruction).1).isError then log
        else log.push instruction) content := by
  obtain ⟨_, opened⟩ := accepting_open accepting
  unfold queueInstruction
  by_cases full : before.queuedInputBytes + added > MAXIMUM_QUEUED_INPUT_BYTES
  · rw [if_pos full]
    exact ledger.stays
  · rw [if_neg full]
    apply ledger.settles
    · exact .refl _
    · change before.queuedInstructions ++ [instruction] = log.queued ++ [instruction]
      rw [ledger.queue]
    · rfl
    · intro notOpen
      exact absurd opened notOpen

theorem Ledger.queue_input (ledger : Ledger key before log content) (bytes : Bytes) :
    Advance lib key before (before.queueInput bytes).2 content []
      (if (SessionOutput.queued (before.queueInput bytes).1).isError then log
        else log.push (bytesInstruction bytes)) content := by
  unfold queueInput
  cases accepting : before.ensureAcceptingInput with
  | error error => exact ledger.stays
  | ok => exact ledger.queue_instruction accepting _ _

theorem Ledger.queue_session_control (ledger : Ledger key before log content) (kind : UInt32)
    (payload : Bytes) :
    Advance lib key before (before.queueSessionControl kind payload).2 content []
      (if (SessionOutput.queued (before.queueSessionControl kind payload).1).isError then log
        else log.push (controlInstruction kind payload)) content := by
  unfold queueSessionControl
  cases accepting : before.ensureAcceptingInput with
  | error error => exact ledger.stays
  | ok =>
      cases negotiated : before.hasNegotiatedCapability SESSION_CONTROL_CAPABILITY with
      | false => exact ledger.stays
      | true => exact ledger.queue_instruction accepting _ _

theorem Ledger.queue_terminal_bytes (ledger : Ledger key before log content) (bytes : Bytes) :
    Advance lib key before (before.queueTerminalEvent (.bytes bytes)).2 content []
      (if (SessionOutput.queued (before.queueTerminalEvent (.bytes bytes)).1).isError then log
        else log.push (bytesInstruction bytes)) content := by
  unfold queueTerminalEvent
  cases accepting : before.ensureAcceptingInput with
  | error error => exact ledger.stays
  | ok => exact ledger.queue_input bytes

theorem push_resize_queued (log : InputLog) (viewport : ViewportSize) :
    pushResize log.queued viewport = (log.resize viewport).queued := by
  unfold pushResize InputLog.resize
  cases last : log.queued.getLast? with
  | none => rfl
  | some newest =>
      simp only [Option.any_some]
      split_ifs with resize
      · obtain ⟨bytes, view, marker, control⟩ := newest
        cases bytes <;> cases marker <;> cases control <;> simp [isResize] at resize
        rfl
      · rfl

theorem resize_drained (log : InputLog) (viewport : ViewportSize) :
    (log.resize viewport).drained = log.drained := by
  unfold InputLog.resize
  split_ifs <;> rfl

theorem Ledger.queue_resize (ledger : Ledger key before log content) (columns rows : UInt16) :
    Advance lib key before (before.queueResize columns rows) content []
      (if before.lifecycle = .running ∧ before.shutdown = .open then
        log.resize { columns := columns.toUInt64, rows := rows.toUInt64 } else log) content := by
  unfold queueResize
  by_cases accepting : before.lifecycle = .running ∧ before.shutdown = .open
  · rw [if_neg (by tauto), if_pos accepting]
    apply ledger.settles
    · exact ClientProtocol.set_initial_remote_viewport_settles columns rows
    · dsimp only
      rw [ledger.queue, push_resize_queued]
    · exact resize_drained _ _
    · intro notOpen
      exact absurd accepting.2 notOpen
  · rw [if_pos (by tauto), if_neg accepting]
    exact ledger.stays

theorem accepting_of_open {terminal : Terminal} {runtime : SessionRuntime terminal}
    (running : runtime.lifecycle = .running) (opened : runtime.shutdown = .open) :
    runtime.ensureAcceptingInput = .ok () := by
  simp [ensureAcceptingInput, ensureRunning, running, opened]

theorem Ledger.queue_terminal_resize (ledger : Ledger key before log content) (columns rows : UInt16) :
    Advance lib key before (before.queueTerminalEvent (.resize columns rows)).2 content []
      (if before.lifecycle = .running ∧ before.shutdown = .open then
        log.resize { columns := columns.toUInt64, rows := rows.toUInt64 } else log) content := by
  unfold queueTerminalEvent
  cases accepting : before.ensureAcceptingInput with
  | error error =>
      rw [if_neg]
      · exact ledger.stays
      · intro opened
        rw [accepting_of_open opened.1 opened.2] at accepting
        cases accepting
  | ok => exact ledger.queue_resize columns rows

theorem Ledger.unmoved (ledger : Ledger key before log content)
    (protocol : after.protocol = before.protocol)
    (queue : after.queuedInstructions = before.queuedInstructions)
    (closed : before.shutdown ≠ .open → after.shutdown ≠ .open) :
    Advance lib key before after content [] log content := by
  apply ledger.settles
  · rw [protocol]
    exact .refl _
  · exact queue.trans ledger.queue
  · rfl
  · intro notOpen
    exact ⟨closed notOpen, queue⟩

theorem Receives.advance (ledger : Ledger key before log content) (receives : Receives before after) :
    Advance lib key before after content [] log content := by
  apply ledger.settles receives.settles (receives.queue.trans ledger.queue) rfl
  intro notOpen
  refine ⟨?_, receives.queue⟩
  rcases receives.shutdown with same | ⟨opened, _, _⟩
  · rw [same]
    exact notOpen
  · exact absurd opened notOpen

theorem step_advance (lawful : LawfulAead lib.aead) (ledger : Ledger key before log content)
    {operation : SessionOperation} (kept : operation ≠ .cancel)
    (succeeds : operation.isPoll = true →
      (stepAt (perform lib) before operation).output.isError = false) :
    ∃ next, Advance lib key before (stepAt (perform lib) before operation).after content
      (messages (stepAt (perform lib) before operation).output.actions)
      (logStep log (stepAt (perform lib) before operation)) next := by
  cases operation with
  | queueTerminalEvent event =>
      cases event with
      | bytes bytes => exact ⟨content, ledger.queue_terminal_bytes bytes⟩
      | resize columns rows => exact ⟨content, ledger.queue_terminal_resize columns rows⟩
  | queueInput bytes => exact ⟨content, ledger.queue_input bytes⟩
  | queueResize columns rows => exact ⟨content, ledger.queue_resize columns rows⟩
  | queueSessionControl kind payload => exact ⟨content, ledger.queue_session_control kind payload⟩
  | setLocalCapabilities capabilities =>
      refine ⟨content, ledger.settles ⟨rfl, Or.inl ⟨rfl, rfl, rfl⟩⟩ ledger.queue rfl ?_⟩
      intro notOpen
      exact ⟨notOpen, rfl⟩
  | pause =>
      refine ⟨content, ?_⟩
      change Advance lib key before before.pause.2 content (messages before.pause.1) log content
      unfold pause
      split_ifs
      · exact ledger.stays
      · exact ledger.unmoved rfl rfl id
  | cancel => exact absurd rfl kept
  | requestShutdown now =>
      refine ⟨content, ?_⟩
      change Advance lib key before (before.requestShutdown now).2 content
        (messages (SessionOutput.acted (before.requestShutdown now).1).actions) log content
      unfold requestShutdown
      split
      · exact ledger.stays
      · split_ifs
        · exact ledger.unmoved rfl rfl (fun _ => by simp)
        · exact ledger.stays
  | notifyUdpRebound =>
      refine ⟨content, ?_⟩
      change Advance lib key before before.notifyUdpRebound.2 content
        (messages before.notifyUdpRebound.1) log content
      unfold notifyUdpRebound
      split_ifs
      · exact ledger.stays
      · exact ledger.unmoved rfl rfl id
  | resume now =>
      refine ⟨content, ?_⟩
      change Advance lib key before (before.resumeState now) content [] log content
      unfold resumeState
      split_ifs
      · exact ledger.stays
      · exact ledger.unmoved rfl rfl id
  | resumeWithActions now =>
      refine ⟨content, ?_⟩
      change Advance lib key before (before.resumeWithActions now).2 content
        (messages (before.resumeWithActions now).1) log content
      unfold resumeWithActions resumeState
      split_ifs
      · exact ledger.stays
      · exact ledger.unmoved rfl rfl id
      · exact ledger.unmoved rfl rfl id
  | receiveDatagram packet now =>
      refine ⟨content, ?_⟩
      have receives := receive_datagram_receives lib before packet now
      change Advance lib key before (before.receiveDatagram lib packet now).2 content
        (messages (SessionOutput.acted (before.receiveDatagram lib packet now).1).actions) log content
      cases received : before.receiveDatagram lib packet now with
      | mk result after =>
          rw [received] at receives
          cases result with
          | error error => exact receives.advance ledger
          | ok actions =>
              have silent := (receive_datagram_plain lib before received).silent
              change Advance lib key before after content (messages actions) log content
              rw [silent.messages]
              exact receives.advance ledger
  | receiveDatagramLossy packet now =>
      refine ⟨content, ?_⟩
      have receives := receive_datagram_receives lib before packet now
      have same := receive_datagram_lossy_eq lib before packet now
      change Advance lib key before (before.receiveDatagramLossy lib packet now).2 content
        (messages (before.receiveDatagramLossy lib packet now).1) log content
      rw [(receive_datagram_lossy_plain lib before packet now).silent.messages, same]
      exact receives.advance ledger
  | poll now =>
      obtain ⟨actions, output, polled⟩ := poll_succeeds (succeeds rfl)
      rw [output]
      exact polled.advance lawful ledger

theorem run_advance (lawful : LawfulAead lib.aead) (ledger : Ledger key before log content)
    {operations : List SessionOperation} (kept : .cancel ∉ operations)
    (succeed : PollsSucceed (trace (perform lib) before operations)) :
    ∃ next, Advance lib key before (final (perform lib) before operations) content
      (sentMessages (trace (perform lib) before operations))
      (logOf log (trace (perform lib) before operations)) next := by
  induction operations generalizing before log content with
  | nil => exact ⟨content, ledger.stays⟩
  | cons operation rest induction =>
      have here : operation ≠ .cancel := by
        intro same
        exact kept (same ▸ List.mem_cons_self)
      obtain ⟨next, first⟩ := step_advance lawful ledger here
        (succeed _ List.mem_cons_self)
      obtain ⟨last, onward⟩ := induction first.ledger
        (fun member => kept (List.mem_cons_of_mem _ member))
        (fun event member => succeed event (List.mem_cons_of_mem _ member))
      exact ⟨last, first.trans onward⟩

end Ledger

end SessionRuntime

end FerrumTty.Runtime
