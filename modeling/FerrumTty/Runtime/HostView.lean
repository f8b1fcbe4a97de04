import FerrumTty.Runtime.Endings
import FerrumTty.Runtime.Spelled

/-!
# What a host knows of its session

A host that notes the events among its actions knows the connection, the lifecycle, the end of the
session, the round trip, the peer's capabilities, the local binding and the newest remote state as
the session has them, as long as no poll fails and it does not resume a paused session without
asking for the event.
-/

namespace FerrumTty.Runtime

set_option autoImplicit false

open Crypto Wire State Session Runs

/-- The resume that reports nothing. -/
def SessionOperation.isResume : SessionOperation → Bool
  | .resume _ => true
  | _ => false

structure HostView where
  connection : ConnectionState
  lifecycle : SessionLifecycle
  outcome : Option ShutdownOutcome
  roundTrip : Option UInt16
  capabilities : Bytes
  generation : Nat
  remoteState : UInt64
  deriving DecidableEq, Repr

namespace HostView

/-- Datagrams, output, prediction echoes, controls and diagnostics change no field. -/
def note (view : HostView) : SessionAction → HostView
  | .remoteStateAdvanced state => { view with remoteState := state }
  | .connectionStateChanged state => { view with connection := state }
  | .roundTripEstimate milliseconds => { view with roundTrip := some milliseconds }
  | .capabilitiesChanged capabilities => { view with capabilities }
  | .sessionLifecycleChanged state => { view with lifecycle := state }
  | .shutdownComplete outcome => { view with outcome := some outcome }
  | .udpBindingChanged generation => { view with generation }
  | _ => view

def noteAll (view : HostView) (actions : List SessionAction) : HostView := actions.foldl note view

variable (view : HostView)

theorem note_all_append (first second : List SessionAction) :
    view.noteAll (first ++ second) = (view.noteAll first).noteAll second := List.foldl_append

theorem note_sent (packets : List Bytes) : view.noteAll (sendActions packets) = view := by
  induction packets with
  | nil => rfl
  | cons packet rest induction => exact induction

theorem note_instruction (instruction : Instruction) :
    view.noteAll (SessionRuntime.instructionActions instruction) = view := by
  obtain ⟨bytes, viewport, marker, control⟩ := instruction
  unfold SessionRuntime.instructionActions
  dsimp only
  cases viewport with
  | none => cases bytes <;> cases marker <;> cases control <;> rfl
  | some viewport =>
      dsimp only
      split_ifs <;> cases bytes <;> cases marker <;> cases control <;> rfl

theorem note_instructions (instructions : List Instruction) :
    view.noteAll (instructions.flatMap SessionRuntime.instructionActions) = view := by
  induction instructions with
  | nil => rfl
  | cons instruction rest induction =>
      rw [List.flatMap_cons, note_all_append, note_instruction, induction]

end HostView

namespace SessionRuntime

/-- What the session holds of the same, the binding's number included. -/
def hostView {terminal : Terminal} (runtime : SessionRuntime terminal) : HostView where
  connection := runtime.connectionState
  lifecycle := runtime.lifecycle
  outcome := runtime.shutdownOutcome
  roundTrip := runtime.roundTripMilliseconds
  capabilities := runtime.protocol.remoteCapabilities
  generation := runtime.udpBindingGeneration
  remoteState := runtime.protocol.latestRemoteState

variable {lib : Libraries}

def Tells {terminal : Terminal} (before after : SessionRuntime terminal)
    (actions : List SessionAction) : Prop :=
  before.hostView.noteAll actions = after.hostView

section Queries

variable {protocol next : ClientProtocol lib.terminal}

structure SameQueries (before after : ClientProtocol lib.terminal) : Prop where
  latest : after.latestRemoteState = before.latestRemoteState
  capabilities : after.remoteCapabilities = before.remoteCapabilities

theorem SameQueries.refl (protocol : ClientProtocol lib.terminal) : SameQueries protocol protocol :=
  ⟨rfl, rfl⟩

theorem keeping_queries {operation : ProtocolOperation} {output : ProtocolOutput}
    (keeps : operation.keepsHistory = true)
    (performed : protocol.perform lib operation = (output, next)) : SameQueries protocol next := by
  obtain ⟨channel, same⟩ := ClientProtocol.perform_keeps keeps performed
  rw [same]
  exact ⟨rfl, rfl⟩

theorem choice_queries {runtime : SessionRuntime lib.terminal} {operation : ProtocolOperation}
    {queue : List Instruction} {packets : List Bytes} (choice : SendChoice runtime operation queue)
    (performed : protocol.perform lib operation = (.packets (.ok packets), next)) :
    SameQueries protocol next := by
  cases choice with
  | acknowledgement sentTimestamp => exact keeping_queries rfl performed
  | retransmission sentTimestamp => exact keeping_queries rfl performed
  | update sentTimestamp settled waiting requested =>
      obtain ⟨_, channel, same⟩ := ClientProtocol.perform_update_after performed
      rw [same]
      exact ⟨rfl, rfl⟩
  | shutdown sentTimestamp settled requested =>
      obtain ⟨_, channel, same⟩ := ClientProtocol.perform_shutdown_after performed
      rw [same]
      exact ⟨rfl, rfl⟩
  | shutdownAck sentTimestamp settled answered waiting => exact keeping_queries rfl performed

end Queries

section Polling

variable {runtime middle after : SessionRuntime lib.terminal} {now : MonotonicTime}

theorem outcome_incomplete (incomplete : runtime.shutdownIsComplete = false) :
    runtime.shutdownOutcome = none := by
  unfold shutdownOutcome
  unfold shutdownIsComplete at incomplete
  split at incomplete
  · cases incomplete
  · rfl

theorem association_quiet {opening : List SessionAction}
    (opened : runtime.pollAssociation lib now = (.ok opening, middle)) :
    ∀ view : HostView, view.noteAll opening = view := by
  have outcome := poll_association_cases runtime now
  rw [opened] at outcome
  intro view
  cases outcome with
  | kept _ => rfl
  | opened packets protocol event due performed =>
      rw [HostView.note_all_append, HostView.note_sent]
      rfl

theorem association_tells {opening : List SessionAction}
    (opened : runtime.pollAssociation lib now = (.ok opening, middle)) :
    Tells runtime middle opening ∧ middle.shutdown = runtime.shutdown := by
  have outcome := poll_association_cases runtime now
  rw [opened] at outcome
  cases outcome with
  | kept _ => exact ⟨rfl, rfl⟩
  | opened packets protocol event due performed =>
      have queries := @keeping_queries lib _ _ (.buildAssociation (timestamp now)) _ rfl performed
      refine ⟨?_, rfl⟩
      unfold Tells
      rw [association_quiet opened]
      unfold hostView
      rw [queries.latest, queries.capabilities]
      rfl

theorem connection_tells (runtime : SessionRuntime lib.terminal) (now : MonotonicTime) :
    Tells runtime (runtime.connectionStateAction now).2
      ((runtime.connectionStateAction now).1.toList.flatMap connectionActions) := by
  unfold connectionStateAction
  split_ifs <;> rfl

theorem send_tells {sent : List SessionAction} (incomplete : runtime.shutdownOutcome = none)
    (sending : runtime.pollSend lib now = (.ok sent, after)) : Tells runtime after sent := by
  have outcome := poll_send_cases runtime now
  have untold := @poll_send_untold lib runtime now
  rw [sending] at outcome untold
  cases outcome with
  | waited waits => rfl
  | sent operation queue packets event after sends choice performed queued shutdown answered =>
      have queries := choice_queries choice performed
      unfold Tells
      rw [HostView.note_all_append, HostView.note_sent]
      change runtime.hostView.noteAll runtime.peerCompletion = _
      unfold peerCompletion
      rw [shutdownAfter] at shutdown
      split_ifs at shutdown ⊢ with due
      · have ended : after.shutdownOutcome = some .peerRequested := by rw [shutdownOutcome, shutdown]
        unfold hostView
        rw [untold.connection, untold.lifecycle, ended, untold.roundTrip, queries.capabilities,
          untold.generation, queries.latest]
        rfl
      · have going : after.shutdownOutcome = none := by
          rw [shutdownOutcome, shutdown]
          split
          · rename_i reported complete
            have before := counted_unrequested rfl complete
            rw [shutdownOutcome, before] at incomplete
            cases incomplete
          · rfl
        unfold hostView
        rw [untold.connection, untold.lifecycle, going, incomplete, untold.roundTrip,
          queries.capabilities, untold.generation, queries.latest]
        rfl

theorem Tells.trans {first second third : SessionRuntime lib.terminal}
    {early late : List SessionAction} (earlier : Tells first second early)
    (later : Tells second third late) : Tells first third (early ++ late) := by
  unfold Tells at earlier later ⊢
  rw [HostView.note_all_append, earlier, later]

theorem poll_tells {actions : List SessionAction}
    (polled : runtime.poll lib now = (.ok actions, after)) : Tells runtime after actions := by
  cases poll_way polled with
  | idle stopped silent same =>
      subst silent same
      rfl
  | ended opening middle outcome opened reported same =>
      obtain ⟨told, _⟩ := association_tells opened
      have quiet := association_quiet opened
      subst reported same
      unfold Tells at told ⊢
      rw [quiet] at told
      rw [told]
      rfl
  | went opening sent middle unended opened goesOn sending reported =>
      obtain ⟨told, shutdown⟩ := association_tells opened
      obtain ⟨state, noted⟩ := connection_frame middle now
      have incomplete : (middle.connectionStateAction now).2.shutdownOutcome = none := by
        rw [noted]
        unfold shutdownOutcome
        dsimp only
        rw [shutdown]
        exact outcome_incomplete unended
      rw [reported]
      exact (told.trans (connection_tells middle now)).trans (send_tells incomplete sending)

end Polling

section Ingestion

variable (protocol : ClientProtocol lib.terminal)

theorem acknowledgement_queries (acknowledgedState : UInt64) :
    SameQueries protocol (protocol.processAcknowledgement acknowledgedState) := by
  unfold ClientProtocol.processAcknowledgement
  split
  · exact .refl protocol
  · dsimp only
    split_ifs <;> exact ⟨rfl, rfl⟩

theorem accept_queries (update : StateUpdate) :
    (protocol.acceptRemoteUpdate lib update).2.remoteCapabilities = protocol.remoteCapabilities ∧
      (protocol.acceptRemoteUpdate lib update).2.latestRemoteState =
        (advanceOf (protocol.acceptRemoteUpdate lib update).1).elim protocol.latestRemoteState
          StateUpdate.targetState := by
  have accepted := ClientProtocol.accept_cases lib protocol update
  have kept : (protocol.acceptRemoteUpdate lib update).2.remoteCapabilities =
      protocol.remoteCapabilities := by
    unfold ClientProtocol.acceptRemoteUpdate
    split_ifs
    · rfl
    · rfl
    · split
      · rfl
      · split
        · rfl
        · split
          · rfl
          · unfold ClientProtocol.storeRemoteState
            dsimp only
            split_ifs
            · rfl
            · unfold ClientProtocol.deliverRemoteState
              split_ifs
              · rfl
              · split <;> rfl
  refine ⟨kept, ?_⟩
  generalize protocol.acceptRemoteUpdate lib update = outcome at accepted
  cases accepted with
  | ignored quiet =>
      rw [quiet]
      rfl
  | stored base target batch fresh discards forward present decoded applied =>
      have stored := ClientProtocol.store_cases lib protocol update target
      generalize protocol.storeRemoteState lib update target = outcome at stored
      cases stored <;> rfl

theorem message_queries (authenticated : AuthenticatedPacket) (header : FragmentHeader)
    (compressed : Bytes) :
    ((protocol.handleMessage lib authenticated header compressed).2.latestRemoteState =
        (receiptAdvance (protocol.handleMessage lib authenticated header compressed).1).elim
          protocol.latestRemoteState StateUpdate.targetState) ∧
      ∀ error, (protocol.handleMessage lib authenticated header compressed).1 = .error error →
        (protocol.handleMessage lib authenticated header compressed).2.remoteCapabilities =
          protocol.remoteCapabilities := by
  unfold ClientProtocol.handleMessage
  cases decodeCompressedUpdate lib.codec compressed with
  | error error => exact ⟨rfl, fun _ _ => rfl⟩
  | ok update =>
      dsimp only
      unfold ClientProtocol.handleUpdate
      have acknowledged := acknowledgement_queries protocol update.acknowledgedState
      obtain ⟨kept, latest⟩ := accept_queries
        (protocol.processAcknowledgement update.acknowledgedState) update
      rw [acknowledged.latest] at latest
      rw [acknowledged.capabilities] at kept
      generalize (protocol.processAcknowledgement update.acknowledgedState).acceptRemoteUpdate lib
        update = outcome at kept latest ⊢
      obtain ⟨result, next⟩ := outcome
      cases result with
      | error error => exact ⟨latest, fun _ _ => kept⟩
      | ok accepted =>
          obtain ⟨advances, delivered⟩ := accepted
          dsimp only
          split_ifs
          · refine ⟨?_, fun _ failed => nomatch failed⟩
            rw [latest]
            cases advances <;> rfl
          · refine ⟨?_, fun _ failed => nomatch failed⟩
            dsimp only
            rw [latest]
            cases advances <;> rfl

theorem fragment_queries (authenticated : AuthenticatedPacket) (fragment : Fragment) :
    ((protocol.handleFragment lib authenticated fragment).2.latestRemoteState =
        (receiptAdvance (protocol.handleFragment lib authenticated fragment).1).elim
          protocol.latestRemoteState StateUpdate.targetState) ∧
      ∀ error, (protocol.handleFragment lib authenticated fragment).1 = .error error →
        (protocol.handleFragment lib authenticated fragment).2.remoteCapabilities =
          protocol.remoteCapabilities := by
  unfold ClientProtocol.handleFragment
  dsimp only
  split_ifs
  · exact ⟨rfl, fun _ _ => rfl⟩
  · split
    · exact ⟨rfl, fun _ _ => rfl⟩
    · exact ⟨rfl, fun _ failed => nomatch failed⟩
    · exact message_queries _ authenticated fragment.header _

theorem ingest_queries (packet : Bytes) :
    ((protocol.ingestPacket lib packet).2.latestRemoteState =
        (receiptAdvance (protocol.ingestPacket lib packet).1).elim
          protocol.latestRemoteState StateUpdate.targetState) ∧
      ∀ error, (protocol.ingestPacket lib packet).1 = .error error →
        (protocol.ingestPacket lib packet).2.remoteCapabilities = protocol.remoteCapabilities := by
  unfold ClientProtocol.ingestPacket
  split
  · exact ⟨rfl, fun _ _ => rfl⟩
  · dsimp only
    split_ifs
    · exact ⟨rfl, fun _ _ => rfl⟩
    · unfold ClientProtocol.handlePlaintext
      dsimp only
      split_ifs
      · exact ⟨rfl, fun _ _ => rfl⟩
      · exact ⟨rfl, fun _ _ => rfl⟩
      · split
        · exact ⟨rfl, fun _ _ => rfl⟩
        · exact fragment_queries _ _ _

end Ingestion

section Receiving

variable (runtime : SessionRuntime lib.terminal) (now : MonotonicTime)

/-- The view of a host that has not been told of the newest remote state yet. -/
def viewBehind {terminal : Terminal} (runtime : SessionRuntime terminal) (remoteState : UInt64) :
    HostView :=
  { runtime.hostView with remoteState }

theorem connected_tells (remoteState : UInt64) :
    (runtime.viewBehind remoteState).noteAll runtime.noteConnected.1 =
      runtime.noteConnected.2.viewBehind remoteState := by
  unfold noteConnected
  split_ifs <;> rfl

theorem echo_tells (echo : UInt16) (remoteState : UInt64) :
    (runtime.viewBehind remoteState).noteAll (runtime.noteEcho echo now).1 =
      (runtime.noteEcho echo now).2.viewBehind remoteState := by
  unfold noteEcho
  dsimp only
  split_ifs
  · unfold recordRoundTripSample
    dsimp only
    split_ifs <;> rfl
  · rfl
  · rfl

/-- A request of the peer is no end yet. -/
theorem note_state_view (state : ReceivedState) (remoteState : UInt64) :
    (runtime.noteState state).viewBehind remoteState = runtime.viewBehind remoteState := by
  unfold noteState
  dsimp only
  split_ifs with maximal opened
  · unfold viewBehind hostView
    have before : runtime.shutdownOutcome = none := by rw [shutdownOutcome, opened]
    rw [before]
    rfl
  · rfl
  · rfl

theorem capability_tells (previous : Bytes) (view : HostView) (known : view.capabilities = previous) :
    view.noteAll (runtime.capabilityActions previous) =
      { view with capabilities := runtime.protocol.remoteCapabilities } := by
  unfold capabilityActions
  split_ifs with changed
  · rfl
  · rw [not_not.mp changed, ← known]
    rfl

theorem advance_tells (view : HostView) {update : StateUpdate} {actions : List SessionAction}
    (advanced : advanceActions lib update = .ok actions) :
    view.noteAll actions = { view with remoteState := update.targetState } := by
  unfold advanceActions at advanced
  split at advanced
  · cases advanced
  · rename_i batch _
    cases advanced
    exact HostView.note_instructions { view with remoteState := update.targetState } batch.instructions

theorem receipt_tells (previous : Bytes) (receipt : PacketReceipt) {actions : List SessionAction}
    {view : HostView} (known : view.capabilities = previous)
    (behind : ({ view with capabilities := runtime.protocol.remoteCapabilities } : HostView) =
      runtime.viewBehind view.remoteState)
    (handled : (runtime.handleReceipt lib previous receipt now).1 = .ok actions) :
    view.noteAll actions = (runtime.handleReceipt lib previous receipt now).2.viewBehind
      ((receiptAdvance (.ok receipt)).elim view.remoteState StateUpdate.targetState) := by
  unfold handleReceipt at handled ⊢
  dsimp only at handled ⊢
  set arrived : SessionRuntime lib.terminal := { runtime with lastReceive := now }
  have capable : view.noteAll (arrived.capabilityActions previous) =
      arrived.viewBehind view.remoteState :=
    (arrived.capability_tells previous view known).trans behind
  have connected := arrived.connected_tells view.remoteState
  have echoed := arrived.noteConnected.2.echo_tells now receipt.echoedTimestamp view.remoteState
  have whole : view.noteAll (arrived.capabilityActions previous ++ arrived.noteConnected.1 ++
      (arrived.noteConnected.2.noteEcho receipt.echoedTimestamp now).1) =
      (arrived.noteConnected.2.noteEcho receipt.echoedTimestamp now).2.viewBehind
        view.remoteState := by
    rw [HostView.note_all_append, HostView.note_all_append, capable, connected, echoed]
  rw [state_advance]
  cases received : receipt.state with
  | none =>
      rw [received] at handled
      cases handled
      exact whole
  | some state =>
      rw [received] at handled
      dsimp only at handled ⊢
      have noted : view.noteAll (arrived.capabilityActions previous ++ arrived.noteConnected.1 ++
          (arrived.noteConnected.2.noteEcho receipt.echoedTimestamp now).1 ++
          [.diagnostic (inboundDiagnostic state)]) =
          ((arrived.noteConnected.2.noteEcho receipt.echoedTimestamp now).2.noteState
            state).viewBehind view.remoteState := by
        rw [HostView.note_all_append, whole, note_state_view]
        rfl
      rw [Option.bind_some]
      cases advances : state.advancesRemoteState with
      | false =>
          rw [advances] at handled
          cases handled
          exact noted
      | true =>
          rw [advances] at handled
          simp only [Bool.not_true, Bool.false_eq_true, if_false, if_true] at handled ⊢
          cases advanced : advanceActions lib state.update with
          | error error =>
              rw [advanced] at handled
              cases handled
          | ok more =>
              rw [advanced] at handled
              cases handled
              rw [HostView.note_all_append, noted, advance_tells _ advanced]
              rfl

variable {runtime now}

/-- A datagram that is refused tells nothing and changes nothing that could be told. -/
theorem receive_tells (lawful : LawfulCodec lib.codec) (packet : Bytes)
    (fits : ∀ delivered, receiptAdvance (runtime.protocol.ingestPacket lib packet).1 = some delivered →
      FitsVector delivered.delta) :
    Tells runtime (runtime.receiveDatagram lib packet now).2
      (SessionOutput.acted (runtime.receiveDatagram lib packet now).1).actions := by
  have decodes {error : RuntimeError}
      (failed : (runtime.receiveDatagram lib packet now).1 = .error error) :=
    receive_datagram_decodes lawful runtime packet now fits failed
  obtain ⟨latest, refused⟩ := ingest_queries runtime.protocol packet
  unfold receiveDatagram at decodes ⊢
  cases running : runtime.ensureRunning with
  | error error => rfl
  | ok granted =>
      rw [running] at decodes
      rcases ingested : runtime.protocol.ingestPacket lib packet with ⟨result, protocol⟩
      rw [ingested] at decodes latest refused
      dsimp only at decodes latest refused ⊢
      unfold Tells
      cases result with
      | error error =>
          change runtime.hostView = hostView { runtime with protocol }
          unfold hostView
          rw [latest, refused error rfl]
          rfl
      | ok receipt =>
          dsimp only at decodes ⊢
          set received : SessionRuntime lib.terminal := { runtime with protocol }
          have noted := handle_receipt_notes lib received runtime.protocol.remoteCapabilities receipt now
          cases handled : (received.handleReceipt lib runtime.protocol.remoteCapabilities receipt
              now).1 with
          | error error =>
              rcases decodes handled with wrong | ⟨again, _, wrong⟩
              · cases wrong
              · cases wrong
          | ok actions =>
              have told := received.receipt_tells now runtime.protocol.remoteCapabilities receipt
                (show runtime.hostView.capabilities = _ from rfl) rfl handled
              have reached : (received.handleReceipt lib runtime.protocol.remoteCapabilities receipt
                  now).2.protocol.latestRemoteState = (receiptAdvance (.ok receipt)).elim
                  runtime.protocol.latestRemoteState StateUpdate.targetState := by
                rw [noted.protocol]
                exact latest
              exact told.trans (congrArg (viewBehind _) reached.symm)

end Receiving

section Run

variable {before : SessionRuntime lib.terminal} {operation : SessionOperation}

/-- The call fails nowhere but where nothing is lost to the host. -/
structure Told (lib : Libraries) (before : SessionRuntime lib.terminal)
    (operation : SessionOperation) : Prop where
  polls : operation.isPoll = true → (perform lib before operation).1.isError = false
  resumes : operation.isResume = true → before.lifecycle ≠ .paused
  fits : ∀ packet ∈ packetOf operation, ∀ delivered,
    receiptAdvance (before.protocol.ingestPacket lib packet).1 = some delivered →
      FitsVector delivered.delta

theorem resume_state_tells (now : MonotonicTime) (running : before.lifecycle ≠ .paused) :
    (before.resumeState now).hostView = before.hostView := by
  unfold resumeState
  split_ifs with cancelled
  · rfl
  · have lifecycle : before.lifecycle = .running := by
      cases state : before.lifecycle with
      | running => rfl
      | paused => exact absurd state running
      | cancelled => exact absurd state cancelled
    unfold hostView
    rw [lifecycle]
    rfl

theorem queue_instruction_view (added : Nat) (instruction : Instruction) :
    (before.queueInstruction added instruction).2.hostView = before.hostView := by
  unfold queueInstruction
  dsimp only
  split_ifs <;> rfl

theorem queue_input_view (bytes : Bytes) :
    (before.queueInput bytes).2.hostView = before.hostView := by
  unfold queueInput
  split
  · rfl
  · exact queue_instruction_view _ _

theorem queue_resize_view (columns rows : UInt16) :
    (before.queueResize columns rows).hostView = before.hostView := by
  unfold queueResize
  split_ifs
  · rfl
  · unfold ClientProtocol.setInitialRemoteViewport
    split_ifs
    · rfl
    · split <;> rfl

theorem step_tells (lawful : LawfulCodec lib.codec) (told : Told lib before operation) :
    Tells before (perform lib before operation).2 (perform lib before operation).1.actions := by
  cases operation with
  | queueTerminalEvent event =>
      change before.hostView = (before.queueTerminalEvent event).2.hostView
      unfold queueTerminalEvent
      split
      · rfl
      · cases event with
        | bytes bytes => exact (queue_input_view bytes).symm
        | resize columns rows => exact (queue_resize_view columns rows).symm
  | queueInput bytes => exact (queue_input_view bytes).symm
  | queueResize columns rows => exact (queue_resize_view columns rows).symm
  | queueSessionControl kind payload =>
      change before.hostView = (before.queueSessionControl kind payload).2.hostView
      unfold queueSessionControl
      split
      · rfl
      · split_ifs
        · rfl
        · exact (queue_instruction_view _ _).symm
  | setLocalCapabilities capabilities => rfl
  | pause =>
      change before.hostView.noteAll before.pause.1 = before.pause.2.hostView
      unfold pause
      split_ifs <;> rfl
  | cancel =>
      change before.hostView.noteAll before.cancel.1 = before.cancel.2.hostView
      unfold cancel
      split_ifs <;> rfl
  | requestShutdown now =>
      change before.hostView.noteAll (SessionOutput.acted (before.requestShutdown now).1).actions =
        (before.requestShutdown now).2.hostView
      unfold requestShutdown
      split
      · rfl
      · split_ifs with opened
        · unfold hostView
          have open_ : before.shutdownOutcome = none := by rw [shutdownOutcome, opened]
          rw [open_]
          rfl
        · rfl
  | notifyUdpRebound =>
      change before.hostView.noteAll before.notifyUdpRebound.1 = before.notifyUdpRebound.2.hostView
      unfold notifyUdpRebound
      split_ifs <;> rfl
  | resume now => exact (resume_state_tells now (told.resumes rfl)).symm
  | resumeWithActions now =>
      change before.hostView.noteAll (before.resumeWithActions now).1 =
        (before.resumeWithActions now).2.hostView
      unfold resumeWithActions
      split_ifs with cancelled paused
      · rfl
      · unfold resumeState
        rw [if_neg cancelled]
        rfl
      · exact (resume_state_tells now paused).symm
  | receiveDatagram packet now => exact receive_tells lawful packet (told.fits packet rfl)
  | receiveDatagramLossy packet now =>
      have received : Tells before (before.receiveDatagram lib packet now).2
          (SessionOutput.acted (before.receiveDatagram lib packet now).1).actions :=
        receive_tells lawful packet (told.fits packet rfl)
      change before.hostView.noteAll (before.receiveDatagramLossy lib packet now).1 =
        (before.receiveDatagramLossy lib packet now).2.hostView
      unfold receiveDatagramLossy
      rcases received' : before.receiveDatagram lib packet now with ⟨result, after⟩
      rw [received'] at received
      cases result with
      | error error => exact received
      | ok actions => exact received
  | poll now =>
      have fine := told.polls rfl
      rcases polled : before.poll lib now with ⟨result, after⟩
      rw [perform, polled] at fine ⊢
      cases result with
      | error error => cases fine
      | ok actions => exact poll_tells polled

/-- A host that notes the events among its actions knows the session as the session's own queries
answer, whatever it and the network do, as long as no poll fails and no paused session is resumed
by the call that reports nothing. -/
theorem host_view_agrees (lawful : LawfulCodec lib.codec) (key : SessionKey)
    (started : MonotonicTime) (operations : List SessionOperation)
    (succeed : PollsSucceed (trace (perform lib) (new lib.terminal key started) operations))
    (reported : ∀ event ∈ trace (perform lib) (new lib.terminal key started) operations,
      event.input.isResume = true → event.before.lifecycle ≠ .paused)
    (fits : ∀ event ∈ trace (perform lib) (new lib.terminal key started) operations,
      ∀ packet ∈ packetOf event.input, ∀ delivered ∈ receiptAdvance
        (event.before.protocol.ingestPacket lib packet).1, FitsVector delivered.delta) :
    (new lib.terminal key started).hostView.noteAll
        ((trace (perform lib) (new lib.terminal key started) operations).flatMap
          fun event => event.output.actions) =
      (final (perform lib) (new lib.terminal key started) operations).hostView := by
  generalize new lib.terminal key started = start at succeed reported fits ⊢
  induction operations generalizing start with
  | nil => rfl
  | cons operation rest induction =>
      have first : Tells start (perform lib start operation).2
          (perform lib start operation).1.actions :=
        step_tells lawful ⟨succeed _ List.mem_cons_self, reported _ List.mem_cons_self,
          fits _ List.mem_cons_self⟩
      have later := induction (perform lib start operation).2
        (fun event member => succeed event (List.mem_cons_of_mem _ member))
        (fun event member => reported event (List.mem_cons_of_mem _ member))
        (fun event member => fits event (List.mem_cons_of_mem _ member))
      rw [trace, List.flatMap_cons, HostView.note_all_append, final_cons, ← later]
      unfold Tells at first
      rw [← first]
      rfl

/-- A session that is paused, bound anew and shut down between the states of the server. -/
def toldRun : List SessionOperation :=
  let packets := plainPackets [hostBytesUpdate 0 1 [0x61], hostBytesUpdate 0 2 [0x61, 0x62]]
  [.poll ⟨0⟩] ++ packets.map (.receiveDatagramLossy · ⟨100⟩) ++
    [.pause, .resumeWithActions ⟨200⟩, .notifyUdpRebound, .requestShutdown ⟨300⟩, .poll ⟨300⟩,
      .poll ⟨20000⟩]

theorem told_run_agrees :
    (new plainLibraries.terminal zeroKey ⟨0⟩).hostView.noteAll
        ((trace (perform plainLibraries) (new plainLibraries.terminal zeroKey ⟨0⟩) toldRun).flatMap
          fun event => event.output.actions) =
      (final (perform plainLibraries) (new plainLibraries.terminal zeroKey ⟨0⟩) toldRun).hostView ∧
    (final (perform plainLibraries) (new plainLibraries.terminal zeroKey ⟨0⟩) toldRun).hostView =
      ⟨.connected, .running, some .timedOut, none, [], 1, 2⟩ :=
  ⟨host_view_agrees lawful_plain_libraries.codec zeroKey ⟨0⟩ toldRun (by decide +kernel)
    (by decide +kernel) (by decide +kernel), by decide +kernel⟩

end Run

end SessionRuntime

end FerrumTty.Runtime
