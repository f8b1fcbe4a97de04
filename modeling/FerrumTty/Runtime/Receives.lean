import FerrumTty.Runtime.Operations
import FerrumTty.Session.Outbox

/-!
# What the methods besides a poll do

A received datagram acknowledges at most one local state, may note the peer's shutdown, and
sends nothing. The methods of the host queue input or move the lifecycle.
-/

namespace FerrumTty.Runtime

set_option autoImplicit false

open Crypto Wire State Session Runs

namespace SessionRuntime

/-- What a received datagram leaves alone, and what it may do to the shutdown. -/
structure Receives {terminal : Terminal} (before after : SessionRuntime terminal) : Prop where
  settles : ClientProtocol.Settles before.protocol after.protocol
  queue : after.queuedInstructions = before.queuedInstructions
  bytes : after.queuedInputBytes = before.queuedInputBytes
  lastSend : after.lastSend = before.lastSend
  association : after.association = before.association
  lifecycle : after.lifecycle = before.lifecycle
  shutdown : after.shutdown = before.shutdown ∨
    before.shutdown = .open ∧ after.shutdown = .peerRequested ∧
      after.peerShutdownAcknowledgementDue = true
  due : before.peerShutdownAcknowledgementDue = true → after.peerShutdownAcknowledgementDue = true

theorem Receives.refl {terminal : Terminal} (runtime : SessionRuntime terminal) :
    Receives runtime runtime :=
  ⟨.refl _, rfl, rfl, rfl, rfl, rfl, Or.inl rfl, id⟩

/-- The bookkeeping of `receive_datagram` outside the protocol. -/
structure Notes {terminal : Terminal} (before after : SessionRuntime terminal) : Prop extends
    Receives before after where
  protocol : after.protocol = before.protocol

section Notes

variable {terminal : Terminal} (runtime : SessionRuntime terminal)

theorem Notes.trans {first second third : SessionRuntime terminal} (earlier : Notes first second)
    (later : Notes second third) : Notes first third where
  settles := by
    rw [later.protocol, earlier.protocol]
    exact .refl _
  queue := later.queue.trans earlier.queue
  bytes := later.bytes.trans earlier.bytes
  lastSend := later.lastSend.trans earlier.lastSend
  association := later.association.trans earlier.association
  lifecycle := later.lifecycle.trans earlier.lifecycle
  shutdown := by
    rcases later.shutdown with kept | ⟨opened, requested, due⟩
    · rcases earlier.shutdown with same | ⟨opened, requested, due⟩
      · exact Or.inl (kept.trans same)
      · exact Or.inr ⟨opened, kept.trans requested, later.due due⟩
    · rcases earlier.shutdown with same | ⟨_, already, _⟩
      · exact Or.inr ⟨same ▸ opened, requested, due⟩
      · rw [already] at opened
        cases opened
  due := fun waiting => later.due (earlier.due waiting)
  protocol := later.protocol.trans earlier.protocol

theorem note_connected_notes : Notes runtime runtime.noteConnected.2 := by
  unfold noteConnected
  split_ifs
  · exact ⟨⟨.refl _, rfl, rfl, rfl, rfl, rfl, Or.inl rfl, id⟩, rfl⟩
  · exact ⟨.refl _, rfl⟩

theorem update_retransmit_timeout_notes (sampleMilliseconds : Nat) :
    Notes runtime (runtime.updateRetransmitTimeout sampleMilliseconds) := by
  unfold updateRetransmitTimeout
  split
  exact ⟨⟨.refl _, rfl, rfl, rfl, rfl, rfl, Or.inl rfl, id⟩, rfl⟩

theorem record_round_trip_notes (milliseconds : UInt16) :
    Notes runtime (runtime.recordRoundTripSample milliseconds).2 := by
  have updated := update_retransmit_timeout_notes runtime milliseconds.toNat
  unfold recordRoundTripSample
  generalize runtime.updateRetransmitTimeout milliseconds.toNat = sampled at *
  dsimp only
  split_ifs
  · exact updated
  · exact updated.trans ⟨⟨.refl _, rfl, rfl, rfl, rfl, rfl, Or.inl rfl, id⟩, rfl⟩

theorem note_echo_notes (echoedTimestamp : UInt16) (now : MonotonicTime) :
    Notes runtime (runtime.noteEcho echoedTimestamp now).2 := by
  unfold noteEcho
  dsimp only
  split_ifs
  · exact record_round_trip_notes runtime _
  · exact ⟨.refl _, rfl⟩
  · exact ⟨.refl _, rfl⟩

theorem note_state_notes (state : ReceivedState) : Notes runtime (runtime.noteState state) := by
  unfold noteState
  dsimp only
  split_ifs with last opened
  · exact ⟨⟨.refl _, rfl, rfl, rfl, rfl, rfl, Or.inr ⟨opened, rfl, rfl⟩, fun _ => rfl⟩, rfl⟩
  · exact ⟨⟨.refl _, rfl, rfl, rfl, rfl, rfl, Or.inl rfl, fun _ => rfl⟩, rfl⟩
  · exact ⟨⟨.refl _, rfl, rfl, rfl, rfl, rfl, Or.inl rfl, id⟩, rfl⟩

end Notes

section Datagrams

variable (lib : Libraries) (runtime : SessionRuntime lib.terminal)

theorem handle_receipt_notes (previousCapabilities : Bytes) (receipt : PacketReceipt)
    (now : MonotonicTime) :
    Notes runtime (runtime.handleReceipt lib previousCapabilities receipt now).2 := by
  have stamped : Notes runtime { runtime with lastReceive := now } :=
    ⟨⟨.refl _, rfl, rfl, rfl, rfl, rfl, Or.inl rfl, id⟩, rfl⟩
  have connected := stamped.trans (note_connected_notes { runtime with lastReceive := now })
  have echoed := connected.trans (note_echo_notes
    (noteConnected { runtime with lastReceive := now }).2 receipt.echoedTimestamp now)
  unfold handleReceipt
  dsimp only
  cases receipt.state with
  | none => exact echoed
  | some state =>
      have noted := echoed.trans (note_state_notes _ state)
      dsimp only
      split_ifs
      · exact noted
      · exact noted

theorem receive_datagram_receives (packet : Bytes) (now : MonotonicTime) :
    Receives runtime (runtime.receiveDatagram lib packet now).2 := by
  have acknowledged := ClientProtocol.ingest_packet_outbound lib runtime.protocol packet
  unfold receiveDatagram
  split
  · exact .refl runtime
  · dsimp only
    split
    · exact ⟨acknowledged.settles, rfl, rfl, rfl, rfl, rfl, Or.inl rfl, id⟩
    · rename_i receipt _
      have noted := handle_receipt_notes lib
        { runtime with protocol := (runtime.protocol.ingestPacket lib packet).2 }
        runtime.protocol.remoteCapabilities receipt now
      refine ⟨?_, noted.queue, noted.bytes, noted.lastSend, noted.association, noted.lifecycle,
        noted.shutdown, noted.due⟩
      rw [noted.protocol]
      exact acknowledged.settles

theorem receive_datagram_lossy_eq (packet : Bytes) (now : MonotonicTime) :
    (runtime.receiveDatagramLossy lib packet now).2 = (runtime.receiveDatagram lib packet now).2 := by
  unfold receiveDatagramLossy
  split
  · rename_i heq
    rw [heq]
  · rename_i heq
    rw [heq]

theorem instruction_actions_plain (instruction : Instruction) :
    Plain (instructionActions instruction) := by
  unfold instructionActions
  apply Plain.append
  · apply Plain.append
    · apply Plain.append
      · split <;> simp [Plain, isDatagram, isShutdownComplete]
      · split
        · split_ifs <;> simp [Plain, isDatagram, isShutdownComplete]
        · simp [Plain]
    · split <;> simp [Plain, isDatagram, isShutdownComplete]
  · split <;> simp [Plain, isDatagram, isShutdownComplete]

theorem connection_actions_plain (state : ConnectionState) : Plain (connectionActions state) := by
  simp [Plain, connectionActions, isDatagram, isShutdownComplete]

theorem connection_notes_plain {terminal : Terminal} (runtime : SessionRuntime terminal)
    (now : MonotonicTime) :
    Plain ((runtime.connectionStateAction now).1.toList.flatMap connectionActions) := by
  intro action member
  rcases List.mem_flatMap.mp member with ⟨state, _, inside⟩
  exact connection_actions_plain state action inside

theorem note_connected_plain {terminal : Terminal} (runtime : SessionRuntime terminal) :
    Plain runtime.noteConnected.1 := by
  unfold noteConnected
  split_ifs
  · exact connection_actions_plain _
  · simp [Plain]

theorem note_echo_plain {terminal : Terminal} (runtime : SessionRuntime terminal)
    (echoedTimestamp : UInt16) (now : MonotonicTime) :
    Plain (runtime.noteEcho echoedTimestamp now).1 := by
  unfold noteEcho recordRoundTripSample
  dsimp only
  split_ifs <;> simp [Plain, isDatagram, isShutdownComplete]

theorem capability_actions_plain {terminal : Terminal} (runtime : SessionRuntime terminal)
    (previousCapabilities : Bytes) : Plain (runtime.capabilityActions previousCapabilities) := by
  unfold capabilityActions
  split_ifs <;> simp [Plain, isDatagram, isShutdownComplete]

theorem advance_actions_plain {update : StateUpdate} {actions : List SessionAction}
    (advanced : advanceActions lib update = .ok actions) : Plain actions := by
  unfold advanceActions at advanced
  split at advanced
  · cases advanced
  · cases advanced
    intro action member
    rcases List.mem_cons.mp member with here | later
    · rw [here]
      exact ⟨rfl, rfl⟩
    · obtain ⟨instruction, _, inside⟩ := List.mem_flatMap.mp later
      exact instruction_actions_plain instruction action inside

theorem handle_receipt_plain {previousCapabilities : Bytes} {receipt : PacketReceipt}
    {now : MonotonicTime} {actions : List SessionAction} {after : SessionRuntime lib.terminal}
    (handled : runtime.handleReceipt lib previousCapabilities receipt now = (.ok actions, after)) :
    Plain actions := by
  unfold handleReceipt at handled
  dsimp only at handled
  have early : Plain (capabilityActions { runtime with lastReceive := now } previousCapabilities ++
      (noteConnected { runtime with lastReceive := now }).1 ++
      ((noteConnected { runtime with lastReceive := now }).2.noteEcho receipt.echoedTimestamp now).1) :=
    ((capability_actions_plain _ _).append (note_connected_plain _)).append (note_echo_plain _ _ _)
  cases present : receipt.state with
  | none =>
      rw [present] at handled
      cases handled
      exact early
  | some state =>
      rw [present] at handled
      dsimp only at handled
      have noted := early.append
        (show Plain [.diagnostic (inboundDiagnostic state)] by simp [Plain, isDatagram, isShutdownComplete])
      split_ifs at handled
      · cases handled
        exact noted
      · cases advanced : advanceActions lib state.update with
        | error error =>
            rw [advanced] at handled
            cases handled
        | ok late =>
            rw [advanced] at handled
            cases handled
            exact noted.append (advance_actions_plain lib advanced)

theorem receive_datagram_plain {packet : Bytes} {now : MonotonicTime}
    {actions : List SessionAction} {after : SessionRuntime lib.terminal}
    (received : runtime.receiveDatagram lib packet now = (.ok actions, after)) : Plain actions := by
  unfold receiveDatagram at received
  split at received
  · cases received
  · dsimp only at received
    split at received
    · cases received
    · exact handle_receipt_plain lib _ received

theorem receive_datagram_lossy_plain (packet : Bytes) (now : MonotonicTime) :
    Plain (runtime.receiveDatagramLossy lib packet now).1 := by
  unfold receiveDatagramLossy
  split
  · rename_i received
    exact receive_datagram_plain lib runtime received
  · intro action member
    cases member

end Datagrams

section Host

variable {terminal : Terminal} (runtime : SessionRuntime terminal)

theorem no_actions_plain : Plain [] := by
  intro action member
  cases member

theorem lifecycle_actions_plain (state : SessionLifecycle) : Plain (lifecycleActions state) := by
  simp [Plain, lifecycleActions, isDatagram, isShutdownComplete]

theorem running_of_ensure {ready : Unit} (running : runtime.ensureRunning = .ok ready) :
    runtime.lifecycle = .running := by
  unfold ensureRunning at running
  split at running
  · assumption
  · cases running
  · cases running

/-- What the methods of the host do to the protocol. -/
inductive HostMove (protocol : ClientProtocol terminal) : ClientProtocol terminal → Prop
  | kept : HostMove protocol protocol
  | viewport (columns rows : UInt16) :
      HostMove protocol (protocol.setInitialRemoteViewport columns rows)
  | capabilities (capabilities : Bytes) :
      HostMove protocol (protocol.setLocalCapabilities capabilities)

theorem HostMove.sent_states {before after : ClientProtocol terminal} (move : HostMove before after) :
    after.sentStates = before.sentStates := by
  cases move with
  | kept => rfl
  | viewport columns rows =>
      unfold ClientProtocol.setInitialRemoteViewport
      split_ifs
      · rfl
      · split <;> rfl
  | capabilities capabilities => rfl

/-- A method that queues input or moves the lifecycle leaves the shutdown alone. -/
structure HostStep (before after : SessionRuntime terminal) (actions : List SessionAction) : Prop where
  protocol : HostMove before.protocol after.protocol
  shutdown : after.shutdown = before.shutdown
  due : after.peerShutdownAcknowledgementDue = before.peerShutdownAcknowledgementDue
  plain : Plain actions

theorem HostStep.refl : HostStep runtime runtime [] := ⟨.kept, rfl, rfl, no_actions_plain⟩

theorem queue_instruction_host (added : Nat) (instruction : Instruction) :
    HostStep runtime (runtime.queueInstruction added instruction).2 [] := by
  unfold queueInstruction
  dsimp only
  split_ifs
  · exact .refl runtime
  · exact ⟨.kept, rfl, rfl, no_actions_plain⟩

theorem queue_input_host (bytes : Bytes) : HostStep runtime (runtime.queueInput bytes).2 [] := by
  unfold queueInput
  split
  · exact .refl runtime
  · exact queue_instruction_host runtime _ _

theorem queue_resize_host (columns rows : UInt16) :
    HostStep runtime (runtime.queueResize columns rows) [] := by
  unfold queueResize
  split_ifs
  · exact .refl runtime
  · exact ⟨.viewport columns rows, rfl, rfl, no_actions_plain⟩

theorem queue_terminal_event_host (event : TerminalInputEvent) :
    HostStep runtime (runtime.queueTerminalEvent event).2 [] := by
  unfold queueTerminalEvent
  split
  · exact .refl runtime
  · cases event with
    | bytes bytes => exact queue_input_host runtime bytes
    | resize columns rows => exact queue_resize_host runtime columns rows

theorem queue_session_control_host (kind : UInt32) (payload : Bytes) :
    HostStep runtime (runtime.queueSessionControl kind payload).2 [] := by
  unfold queueSessionControl
  split
  · exact .refl runtime
  · split_ifs
    · exact .refl runtime
    · exact queue_instruction_host runtime _ _

theorem pause_host : HostStep runtime runtime.pause.2 runtime.pause.1 := by
  unfold pause
  split_ifs
  · exact .refl runtime
  · exact ⟨.kept, rfl, rfl, lifecycle_actions_plain _⟩

theorem cancel_host : HostStep runtime runtime.cancel.2 runtime.cancel.1 := by
  unfold cancel
  split_ifs
  · exact .refl runtime
  · exact ⟨.kept, rfl, rfl, lifecycle_actions_plain _⟩

theorem notify_udp_rebound_host :
    HostStep runtime runtime.notifyUdpRebound.2 runtime.notifyUdpRebound.1 := by
  unfold notifyUdpRebound
  split_ifs
  · exact .refl runtime
  · exact ⟨.kept, rfl, rfl, by simp [Plain, isDatagram, isShutdownComplete]⟩

theorem resume_state_host (now : MonotonicTime) {actions : List SessionAction} (plain : Plain actions) :
    HostStep runtime (runtime.resumeState now) actions := by
  unfold resumeState
  split_ifs
  · exact ⟨.kept, rfl, rfl, plain⟩
  · exact ⟨.kept, rfl, rfl, plain⟩

theorem resume_with_actions_host (now : MonotonicTime) :
    HostStep runtime (runtime.resumeWithActions now).2 (runtime.resumeWithActions now).1 := by
  unfold resumeWithActions
  split_ifs
  · exact .refl runtime
  · exact resume_state_host runtime now (lifecycle_actions_plain _)
  · exact resume_state_host runtime now no_actions_plain

end Host

section Steps

variable {lib : Libraries} {before after : SessionRuntime lib.terminal} {operation : SessionOperation}
  {output : SessionOutput}

/-- What one call does to the session: it polls, receives, starts the shutdown of this side, or
leaves the shutdown alone. -/
inductive StepCase (lib : Libraries) (before : SessionRuntime lib.terminal) :
    SessionOperation → SessionOutput → SessionRuntime lib.terminal → Prop
  | poll (now : MonotonicTime) :
      StepCase lib before (.poll now) (.acted (before.poll lib now).1) (before.poll lib now).2
  | receive {operation : SessionOperation} {output : SessionOutput} (packet : Bytes)
      (now : MonotonicTime)
      (asked : operation = .receiveDatagram packet now ∨ operation = .receiveDatagramLossy packet now)
      (plain : Plain output.actions) :
      StepCase lib before operation output (before.receiveDatagram lib packet now).2
  | request (now : MonotonicTime) (running : before.lifecycle = .running)
      (opened : before.shutdown = .open) :
      StepCase lib before (.requestShutdown now) (.acted (.ok [.diagnostic .shutdownStarted]))
        { before with shutdown := .localRequested now 0 }
  | host {operation : SessionOperation} {output : SessionOutput}
      {after : SessionRuntime lib.terminal} (other : operation.isPoll = false)
      (step : HostStep before after output.actions) : StepCase lib before operation output after

theorem receive_datagram_case (packet : Bytes) (now : MonotonicTime) :
    StepCase lib before (.receiveDatagram packet now) (.acted (before.receiveDatagram lib packet now).1)
      (before.receiveDatagram lib packet now).2 := by
  apply StepCase.receive packet now (Or.inl rfl)
  cases received : before.receiveDatagram lib packet now with
  | mk result after =>
      cases result with
      | error error => exact no_actions_plain
      | ok actions => exact receive_datagram_plain lib before received

theorem receive_datagram_lossy_case (packet : Bytes) (now : MonotonicTime) :
    StepCase lib before (.receiveDatagramLossy packet now)
      (.acted (.ok (before.receiveDatagramLossy lib packet now).1))
      (before.receiveDatagramLossy lib packet now).2 := by
  rw [receive_datagram_lossy_eq]
  exact .receive packet now (Or.inr rfl) (receive_datagram_lossy_plain lib before packet now)

theorem request_shutdown_case (now : MonotonicTime) :
    StepCase lib before (.requestShutdown now) (.acted (before.requestShutdown now).1)
      (before.requestShutdown now).2 := by
  unfold requestShutdown
  split
  · exact .host rfl (.refl before)
  · rename_i running
    split_ifs with opened
    · exact .request now (running_of_ensure before running) opened
    · exact .host rfl (.refl before)

theorem perform_cases (performed : perform lib before operation = (output, after)) :
    StepCase lib before operation output after := by
  cases operation with
  | poll now =>
      cases performed
      exact .poll now
  | receiveDatagram packet now =>
      cases performed
      exact receive_datagram_case packet now
  | receiveDatagramLossy packet now =>
      cases performed
      exact receive_datagram_lossy_case packet now
  | requestShutdown now =>
      cases performed
      exact request_shutdown_case now
  | queueTerminalEvent event =>
      cases performed
      exact .host rfl (queue_terminal_event_host before event)
  | queueInput bytes =>
      cases performed
      exact .host rfl (queue_input_host before bytes)
  | queueResize columns rows =>
      cases performed
      exact .host rfl (queue_resize_host before columns rows)
  | queueSessionControl kind payload =>
      cases performed
      exact .host rfl (queue_session_control_host before kind payload)
  | setLocalCapabilities capabilities =>
      cases performed
      exact .host rfl ⟨.capabilities capabilities, rfl, rfl, no_actions_plain⟩
  | pause =>
      cases performed
      exact .host rfl (pause_host before)
  | cancel =>
      cases performed
      exact .host rfl (cancel_host before)
  | notifyUdpRebound =>
      cases performed
      exact .host rfl (notify_udp_rebound_host before)
  | resume now =>
      cases performed
      exact .host rfl (resume_state_host before now no_actions_plain)
  | resumeWithActions now =>
      cases performed
      exact .host rfl (resume_with_actions_host before now)

variable (lib before operation) in
theorem step_cases : ∃ output after,
    stepAt (perform lib) before operation = ⟨before, operation, output, after⟩ ∧
      StepCase lib before operation output after :=
  ⟨_, _, rfl, perform_cases rfl⟩

end Steps

end SessionRuntime

end FerrumTty.Runtime
