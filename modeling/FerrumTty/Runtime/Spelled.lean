import FerrumTty.Runtime.Polls
import FerrumTty.Runtime.Receives
import FerrumTty.Runtime.ServerOutput
import FerrumTty.Session.ServerMail

/-!
# What the actions spell

The terminal output, the resizes and the session controls among the actions of a session, read in
turn as a stream. Over every run whose datagrams are the mail of one server they spell the stream
that the server gave to the newest state.
-/

namespace FerrumTty.Runtime

set_option autoImplicit false

open Crypto Wire State Session Runs ClientProtocol

def actionStream : SessionAction → List StreamItem
  | .writeTerminal bytes => bytes.map .byte
  | .resizeTerminal columns rows => [.viewport (viewportOf columns rows)]
  | .remoteSessionControl kind payload => [.control { kind, payload }]
  | _ => []

def spelled (actions : List SessionAction) : List StreamItem := actions.flatMap actionStream

theorem spelled_append (first second : List SessionAction) :
    spelled (first ++ second) = spelled first ++ spelled second := List.flatMap_append

/-- A viewport of a terminal, whose sides are 16-bit words. -/
def Fits (viewport : ViewportSize) : Prop :=
  viewport.columns.toNat < 2 ^ 16 ∧ viewport.rows.toNat < 2 ^ 16

theorem viewport_of_fits (columns rows : UInt16) : Fits (viewportOf columns rows) :=
  ⟨columns.toNat_lt, rows.toNat_lt⟩

theorem viewport_of_narrowed {viewport : ViewportSize} (fits : Fits viewport) :
    viewportOf viewport.columns.toUInt16 viewport.rows.toUInt16 = viewport := by
  have word (value : UInt64) (small : value.toNat < 2 ^ 16) : value.toUInt16.toUInt64 = value := by
    apply UInt64.toNat.inj
    rw [UInt16.toNat_toUInt64, UInt64.toNat_toUInt16, Nat.mod_eq_of_lt small]
  cases viewport
  simp only [viewportOf, word _ fits.1, word _ fits.2]

/-- All viewports of a stream are those of terminals. -/
def Narrow (stream : List StreamItem) : Prop := ∀ viewport, .viewport viewport ∈ stream → Fits viewport

theorem history_narrow (history : StateHistory) : Narrow history.stream := by
  intro viewport member
  obtain ⟨operation, _, inside⟩ := List.mem_flatMap.mp member
  cases operation with
  | hostBytes bytes =>
      obtain ⟨byte, _, same⟩ := List.mem_map.mp inside
      cases same
  | resize columns rows =>
      cases List.mem_singleton.mp inside
      exact viewport_of_fits columns rows
  | sessionControl control => cases List.mem_singleton.mp inside

theorem instruction_spelled {instruction : Instruction}
    (narrow : Narrow (instructionStream instruction)) :
    spelled (SessionRuntime.instructionActions instruction) = instructionStream instruction := by
  obtain ⟨bytes, viewport, marker, control⟩ := instruction
  unfold SessionRuntime.instructionActions instructionStream
  simp only [spelled_append]
  cases viewport with
  | none => cases bytes <;> cases marker <;> cases control <;> simp [spelled, actionStream]
  | some size =>
      have fits : Fits size := narrow size (by simp [instructionStream])
      have same := viewport_of_narrowed fits
      have sides : size.columns.toNat < 2 ^ 16 ∧ size.rows.toNat < 2 ^ 16 := fits
      dsimp only
      rw [if_pos sides]
      cases bytes <;> cases marker <;> cases control <;> simp [spelled, actionStream, same]

theorem instructions_spelled {instructions : List Instruction}
    (narrow : Narrow (instructionsStream instructions)) :
    spelled (instructions.flatMap SessionRuntime.instructionActions) =
      instructionsStream instructions := by
  induction instructions with
  | nil => rfl
  | cons instruction rest induction =>
      have first : Narrow (instructionStream instruction) :=
        fun viewport member => narrow viewport (List.mem_append_left _ member)
      have later : Narrow (instructionsStream rest) :=
        fun viewport member => narrow viewport (List.mem_append_right _ member)
      rw [List.flatMap_cons, spelled_append, instruction_spelled first, induction later]
      rfl

namespace SessionRuntime

section Mute

variable {terminal : Terminal} (runtime : SessionRuntime terminal)

theorem capability_mute (previousCapabilities : Bytes) :
    spelled (runtime.capabilityActions previousCapabilities) = [] := by
  unfold capabilityActions
  split_ifs <;> rfl

theorem connected_mute : spelled runtime.noteConnected.1 = [] := by
  unfold noteConnected
  split_ifs <;> rfl

theorem echo_mute (echoedTimestamp : UInt16) (now : MonotonicTime) :
    spelled (runtime.noteEcho echoedTimestamp now).1 = [] := by
  unfold noteEcho recordRoundTripSample
  dsimp only
  split_ifs <;> rfl

theorem send_mute (packets : List Bytes) : spelled (sendActions packets) = [] := by
  induction packets with
  | nil => rfl
  | cons packet rest induction => exact induction

theorem connection_mute (states : List ConnectionState) :
    spelled (states.flatMap connectionActions) = [] := by
  induction states with
  | nil => rfl
  | cons state rest induction => exact induction

theorem peer_completion_mute : spelled runtime.peerCompletion = [] := by
  unfold peerCompletion
  split_ifs <;> rfl

end Mute

variable {lib : Libraries} {server : ServerStream} {initial : ViewportSize}
  {mail : Mail lib server initial} {key : SessionKey}

/-- The session opens the mail of the server, and its remote states are those of the server. -/
structure Reads (mail : Mail lib server initial) (key : SessionKey)
    (protocol : ClientProtocol lib.terminal) : Prop where
  invariant : RemoteInvariant protocol
  follows : Follows server initial protocol
  mailed : Mailed mail key protocol

theorem Reads.of_inbound {before after : ClientProtocol lib.terminal}
    (reads : Reads mail key before) (same : SameInbound before after) : Reads mail key after where
  invariant := reads.invariant.of_same same.toSameRemote
  follows := reads.follows.of_same same.toSameRemote
  mailed := reads.mailed.of_inbound same

theorem Reads.narrow {protocol : ClientProtocol lib.terminal} (reads : Reads mail key protocol)
    {before stream : List StreamItem}
    (grown : server.content protocol.latestRemoteState = before ++ stream) : Narrow stream := by
  intro viewport member
  have delivered := reads.follows.delivered
  rw [grown] at delivered
  apply history_narrow protocol.deliveredRemoteState.history
  rw [delivered]
  exact List.mem_append_right _ member

section Receiving

variable (runtime : SessionRuntime lib.terminal)

theorem decoded_delivered {update : StateUpdate} {batch : InstructionBatch}
    (decoded : update.decodeInstructions lib.codec = .ok batch) :
    deliveredInstructions lib.codec update = batch.instructions := by
  unfold StateUpdate.decodeInstructions at decoded
  cases validated : validateInstructionBatch update.delta with
  | error error =>
      rw [validated] at decoded
      cases decoded
  | ok valid =>
      rw [validated] at decoded
      unfold deliveredInstructions
      cases read : lib.codec.decodeBatch update.delta with
      | none =>
          simp only [bind, Except.bind, read] at decoded
          cases decoded
      | some decodedBatch =>
          simp only [bind, Except.bind, read] at decoded
          cases decoded
          rfl

theorem state_advance (receipt : PacketReceipt) :
    receiptAdvance (.ok receipt) =
      receipt.state.bind fun state => if state.advancesRemoteState then some state.update else none :=
  rfl

theorem handle_receipt_spelled (previousCapabilities : Bytes) (receipt : PacketReceipt)
    (now : MonotonicTime) {actions : List SessionAction}
    (narrow : Narrow (receiptStream lib.codec (.ok receipt)))
    (handled : (runtime.handleReceipt lib previousCapabilities receipt now).1 = .ok actions) :
    spelled actions = receiptStream lib.codec (.ok receipt) := by
  unfold handleReceipt at handled
  dsimp only at handled
  unfold receiptStream at narrow ⊢
  rw [state_advance] at narrow ⊢
  cases state : receipt.state with
  | none =>
      rw [state] at handled
      cases handled
      simp only [spelled_append, capability_mute, connected_mute, echo_mute]
      rfl
  | some received =>
      rw [state] at handled narrow
      rw [Option.bind_some] at narrow ⊢
      cases advances : received.advancesRemoteState with
      | false =>
          simp only [advances, Bool.not_false, if_true] at handled
          cases handled
          simp only [spelled_append, capability_mute, connected_mute, echo_mute]
          rfl
      | true =>
          simp only [advances, Bool.not_true, Bool.false_eq_true, if_false, if_true] at handled narrow
          unfold advanceActions at handled
          cases decoded : received.update.decodeInstructions lib.codec with
          | error error =>
              rw [decoded] at handled
              cases handled
          | ok batch =>
              rw [decoded] at handled
              cases handled
              have batched : deliveredInstructions lib.codec received.update = batch.instructions :=
                decoded_delivered decoded
              rw [if_pos rfl]
              dsimp only [Option.map_some, Option.getD_some] at narrow ⊢
              rw [batched] at narrow ⊢
              simp only [spelled_append, capability_mute, connected_mute, echo_mute]
              exact instructions_spelled narrow

theorem receive_reads (lawful : LawfulLibraries lib) {packet : Bytes} (now : MonotonicTime)
    (reads : Reads mail key runtime.protocol) (authentic : mail.Authentic key packet)
    (room : HasRoom mail runtime.protocol)
    (fits : ∀ delivered, receiptAdvance (runtime.protocol.ingestPacket lib packet).1 = some delivered →
      FitsVector delivered.delta) :
    Reads mail key (runtime.receiveDatagram lib packet now).2.protocol ∧
      server.content (runtime.receiveDatagram lib packet now).2.protocol.latestRemoteState =
        server.content runtime.protocol.latestRemoteState ++
          spelled (SessionOutput.acted (runtime.receiveDatagram lib packet now).1).actions := by
  obtain ⟨step, mailed⟩ := ingest_mail lawful.codec reads.mailed authentic
  obtain ⟨invariant, follows, grown⟩ := step.follows lawful reads.invariant reads.follows room
  have after : Reads mail key (runtime.protocol.ingestPacket lib packet).2 :=
    ⟨invariant, follows, mailed⟩
  have narrow := after.narrow grown
  have decodes {error : RuntimeError}
      (failed : (runtime.receiveDatagram lib packet now).1 = .error error) :=
    receive_datagram_decodes lawful.codec runtime packet now fits failed
  unfold receiveDatagram at decodes ⊢
  cases running : runtime.ensureRunning with
  | error error => exact ⟨reads, (List.append_nil _).symm⟩
  | ok granted =>
      rw [running] at decodes
      rcases ingested : runtime.protocol.ingestPacket lib packet with ⟨result, protocol⟩
      rw [ingested] at decodes narrow grown after
      dsimp only at decodes narrow grown after ⊢
      cases result with
      | error error => exact ⟨after, grown⟩
      | ok receipt =>
          dsimp only at decodes ⊢
          have noted := handle_receipt_notes lib ({ runtime with protocol } :
            SessionRuntime lib.terminal) runtime.protocol.remoteCapabilities receipt now
          rw [noted.protocol]
          refine ⟨after, ?_⟩
          cases handled : (({ runtime with protocol } : SessionRuntime lib.terminal).handleReceipt lib
            runtime.protocol.remoteCapabilities receipt now).1 with
          | error error =>
              rcases decodes handled with wrong | ⟨refused, _, wrong⟩
              · cases wrong
              · cases wrong
          | ok actions =>
              have spells := handle_receipt_spelled _ _ receipt now narrow handled
              exact grown.trans (congrArg _ spells.symm)

end Receiving

section Polling

variable {runtime : SessionRuntime lib.terminal} {now : MonotonicTime}

theorem outbound_inbound {protocol next : ClientProtocol lib.terminal}
    {operation : ProtocolOperation} {output : ProtocolOutput}
    (outbound : operation.isInbound = false)
    (performed : protocol.perform lib operation = (output, next)) : SameInbound protocol next := by
  have same := (perform_outbound lib protocol operation outbound).1
  rwa [performed] at same

theorem choice_outbound {operation : ProtocolOperation} {queue : List Instruction}
    (choice : SendChoice runtime operation queue) : operation.isInbound = false := by
  cases choice <;> rfl

theorem association_inbound {opening : List SessionAction} {middle : SessionRuntime lib.terminal}
    (association : AssociationOutcome lib runtime now (.ok opening, middle)) :
    SameInbound runtime.protocol middle.protocol ∧ spelled opening = [] := by
  cases association with
  | kept opened => exact ⟨.refl _, rfl⟩
  | opened packets protocol event due performed =>
      refine ⟨outbound_inbound rfl performed, ?_⟩
      rw [spelled_append, send_mute]
      rfl

theorem SameInbound.trans {first second third : ClientProtocol lib.terminal}
    (earlier : SameInbound first second) (later : SameInbound second third) :
    SameInbound first third := by
  obtain ⟨counter, channel⟩ := earlier.channel
  obtain ⟨last, moved⟩ := later.channel
  refine ⟨earlier.toSameRemote.trans later.toSameRemote, later.assemblies.trans earlier.assemblies,
    later.window.trans earlier.window, last, ?_⟩
  rw [moved, channel]
  rfl

theorem send_inbound {sent : List SessionAction} {after : SessionRuntime lib.terminal}
    (sending : SendOutcome lib runtime now (.ok sent, after)) :
    SameInbound runtime.protocol after.protocol ∧ spelled sent = [] := by
  cases sending with
  | waited waits => exact ⟨.refl _, rfl⟩
  | sent operation queue packets event after sends choice performed queued shutdown answered =>
      refine ⟨outbound_inbound (choice_outbound choice) performed, ?_⟩
      rw [spelled_append, send_mute]
      exact runtime.peer_completion_mute

theorem poll_inbound {actions : List SessionAction} {after : SessionRuntime lib.terminal}
    (polled : PollOutcome lib runtime now (.ok actions, after)) :
    SameInbound runtime.protocol after.protocol ∧ spelled actions = [] := by
  cases polled with
  | idle stopped => exact ⟨.refl _, rfl⟩
  | ended opening middle outcome running incomplete association ends =>
      exact ⟨(association_inbound association).1, rfl⟩
  | went opening sent middle after running incomplete association goesOn sending =>
      obtain ⟨opened, openingMute⟩ := association_inbound association
      obtain ⟨kept, sentMute⟩ := send_inbound sending
      obtain ⟨state, frame⟩ := connection_frame middle now
      rw [frame] at kept
      refine ⟨SameInbound.trans opened kept, ?_⟩
      rw [spelled_append, spelled_append, openingMute, connection_mute, sentMute]
      rfl

end Polling

def packetOf : SessionOperation → Option Bytes
  | .receiveDatagram packet _ => some packet
  | .receiveDatagramLossy packet _ => some packet
  | _ => none

def resizeOf : SessionOperation → Option (UInt16 × UInt16)
  | .queueResize columns rows => some (columns, rows)
  | .queueTerminalEvent (.resize columns rows) => some (columns, rows)
  | _ => none

/-- What a step asks of its surroundings: its datagram is one of the server, the viewport that both
sides start with stays until the first server state has come, and histories fit into their limits
and into memory. -/
structure Served (mail : Mail lib server initial) (key : SessionKey)
    (before : SessionRuntime lib.terminal) (operation : SessionOperation) : Prop where
  authentic : ∀ packet, packetOf operation = some packet → mail.Authentic key packet
  sized : ∀ columns rows, resizeOf operation = some (columns, rows) →
    before.protocol.latestRemoteState = 0 → viewportOf (max columns 1) (max rows 1) = initial
  room : HasRoom mail before.protocol
  fits : ∀ packet, packetOf operation = some packet → ∀ delivered,
    receiptAdvance (before.protocol.ingestPacket lib packet).1 = some delivered →
    FitsVector delivered.delta

section Steps

variable {before : SessionRuntime lib.terminal}

theorem blank_follows {protocol next : ClientProtocol lib.terminal}
    {blank : RemoteTerminalState lib.terminal} (follows : Follows server initial protocol)
    (history : blank.history = .empty) (viewport : blank.viewport = initial)
    (zero : protocol.latestRemoteState = 0) (shape : next = { protocol with
      receivedStates := protocol.receivedStates.insert 0 blank.clone
      deliveredRemoteState := blank }) : Follows server initial next := by
  have empty : blank.history.stream = [] := by
    rw [history]
    rfl
  rw [shape]
  constructor
  · intro stateId state found
    dsimp only at found
    rw [AList.lookup_insert_cases] at found
    split_ifs at found with same
    · rw [← Option.some.inj found, same, server.blank]
      exact ⟨empty, viewport⟩
    · exact follows.retained stateId state found
  · change blank.history.stream = server.content protocol.latestRemoteState
    rw [empty, zero, server.blank]

/-- The viewport of the blank state may be set anew to the same. -/
theorem Reads.resized {protocol : ClientProtocol lib.terminal} (reads : Reads mail key protocol)
    {columns rows : UInt16}
    (same : protocol.latestRemoteState = 0 → viewportOf (max columns 1) (max rows 1) = initial) :
    Reads mail key (protocol.setInitialRemoteViewport columns rows) ∧
      (protocol.setInitialRemoteViewport columns rows).latestRemoteState =
        protocol.latestRemoteState := by
  have invariant := reads.invariant.set_initial_viewport columns rows
  have mailed := reads.mailed.set_initial_viewport columns rows
  by_cases begun : protocol.latestRemoteState ≠ 0 ∨ protocol.receivedStates.len ≠ 1
  · have kept : protocol.setInitialRemoteViewport columns rows = protocol := if_pos begun
    rw [kept]
    exact ⟨reads, rfl⟩
  · obtain ⟨blank, created⟩ : ∃ blank : RemoteTerminalState lib.terminal,
        RemoteTerminalState.new (max columns 1) (max rows 1) = .ok blank :=
      RemoteTerminalState.new_succeeds (half_word_max_ne_zero columns) (half_word_max_ne_zero rows)
    obtain ⟨_, history, viewport, _⟩ := RemoteTerminalState.new_formed created
    have shape : protocol.setInitialRemoteViewport columns rows =
        { protocol with
          receivedStates := protocol.receivedStates.insert 0 blank.clone
          deliveredRemoteState := blank } := by
      rw [setInitialRemoteViewport, if_neg begun, created]
    rw [not_or, not_not] at begun
    refine ⟨⟨invariant, ?_, mailed⟩, by rw [shape]⟩
    exact blank_follows reads.follows history (viewport.trans (same begun.1)) begun.1 shape

variable (mail) (key) in
/-- The session goes on reading, and its actions spell what the stream has grown by. -/
def Spells (before : SessionRuntime lib.terminal)
    (outcome : SessionOutput × SessionRuntime lib.terminal) : Prop :=
  Reads mail key outcome.2.protocol ∧ server.content outcome.2.protocol.latestRemoteState =
    server.content before.protocol.latestRemoteState ++ spelled outcome.1.actions

theorem Reads.quiet (reads : Reads mail key before.protocol)
    {outcome : SessionOutput × SessionRuntime lib.terminal}
    (same : SameInbound before.protocol outcome.2.protocol)
    (mute : spelled outcome.1.actions = []) : Spells mail key before outcome := by
  refine ⟨reads.of_inbound same, ?_⟩
  rw [same.latest, mute, List.append_nil]

theorem Reads.resizes (reads : Reads mail key before.protocol) {columns rows : UInt16}
    (same : before.protocol.latestRemoteState = 0 →
      viewportOf (max columns 1) (max rows 1) = initial) {output : SessionOutput}
    (mute : output.actions = []) : Spells mail key before (output, before.queueResize columns rows) := by
  unfold queueResize
  split_ifs
  · exact reads.quiet (.refl _) (by rw [mute]; rfl)
  · obtain ⟨resized, latest⟩ := reads.resized same
    refine ⟨resized, ?_⟩
    dsimp only
    rw [latest, mute]
    exact (List.append_nil _).symm

theorem queue_instruction_protocol (added : Nat) (instruction : Instruction) :
    (before.queueInstruction added instruction).2.protocol = before.protocol := by
  unfold queueInstruction
  dsimp only
  split_ifs <;> rfl

theorem queue_input_protocol (bytes : Bytes) :
    (before.queueInput bytes).2.protocol = before.protocol := by
  unfold queueInput
  split
  · rfl
  · exact queue_instruction_protocol _ _

theorem queue_session_control_protocol (kind : UInt32) (payload : Bytes) :
    (before.queueSessionControl kind payload).2.protocol = before.protocol := by
  unfold queueSessionControl
  split
  · rfl
  · split_ifs
    · rfl
    · exact queue_instruction_protocol _ _

theorem SameInbound.of_eq {first second : ClientProtocol lib.terminal} (same : second = first) :
    SameInbound first second := same ▸ .refl first

theorem host_inbound {operation : SessionOperation} (unpolled : operation.isPoll = false)
    (undelivered : packetOf operation = none) (unresized : resizeOf operation = none) :
    SameInbound before.protocol (perform lib before operation).2.protocol ∧
      spelled (perform lib before operation).1.actions = [] := by
  cases operation with
  | poll now => cases unpolled
  | receiveDatagram packet now => cases undelivered
  | receiveDatagramLossy packet now => cases undelivered
  | queueResize columns rows => cases unresized
  | queueTerminalEvent event =>
      cases event with
      | resize columns rows => cases unresized
      | bytes bytes =>
          refine ⟨SameInbound.of_eq ?_, rfl⟩
          change (before.queueTerminalEvent (.bytes bytes)).2.protocol = _
          unfold queueTerminalEvent
          split
          · rfl
          · exact queue_input_protocol bytes
  | queueInput bytes => exact ⟨SameInbound.of_eq (queue_input_protocol bytes), rfl⟩
  | queueSessionControl kind payload =>
      exact ⟨SameInbound.of_eq (queue_session_control_protocol kind payload), rfl⟩
  | setLocalCapabilities capabilities => exact ⟨⟨⟨rfl, rfl, rfl, rfl⟩, rfl, rfl, _, rfl⟩, rfl⟩
  | pause =>
      unfold perform pause
      split_ifs <;> exact ⟨.refl _, rfl⟩
  | cancel =>
      unfold perform cancel
      split_ifs <;> exact ⟨.refl _, rfl⟩
  | requestShutdown now =>
      change SameInbound _ (before.requestShutdown now).2.protocol ∧
        spelled (SessionOutput.acted (before.requestShutdown now).1).actions = []
      unfold requestShutdown
      split
      · exact ⟨.refl _, rfl⟩
      · split_ifs <;> exact ⟨.refl _, rfl⟩
  | notifyUdpRebound =>
      unfold perform notifyUdpRebound
      split_ifs <;> exact ⟨.refl _, rfl⟩
  | resume now =>
      unfold perform resume resumeState
      split_ifs <;> exact ⟨.refl _, rfl⟩
  | resumeWithActions now =>
      unfold perform resumeWithActions resumeState
      split_ifs <;> exact ⟨.refl _, rfl⟩

theorem lossy_actions (packet : Bytes) (now : MonotonicTime) :
    (before.receiveDatagramLossy lib packet now).1 =
      (SessionOutput.acted (before.receiveDatagram lib packet now).1).actions := by
  unfold receiveDatagramLossy
  rcases before.receiveDatagram lib packet now with ⟨result, after⟩
  cases result <;> rfl

theorem step_spells (lawful : LawfulLibraries lib) {operation : SessionOperation}
    (reads : Reads mail key before.protocol) (served : Served mail key before operation)
    (succeeds : operation.isPoll = true → (perform lib before operation).1.isError = false) :
    Spells mail key before (perform lib before operation) := by
  cases delivered : packetOf operation with
  | some packet =>
      have received (now : MonotonicTime) := receive_reads before lawful now reads
        (served.authentic packet delivered) served.room (served.fits packet delivered)
      cases operation with
      | receiveDatagram other now =>
          cases delivered
          exact received now
      | receiveDatagramLossy other now =>
          cases delivered
          have spells := received now
          unfold Spells perform
          dsimp only
          rw [receive_datagram_lossy_eq]
          refine ⟨spells.1, ?_⟩
          change _ = _ ++ spelled (before.receiveDatagramLossy lib packet now).1
          rw [lossy_actions]
          exact spells.2
      | _ => cases delivered
  | none =>
      cases resized : resizeOf operation with
      | some size =>
          have same := served.sized size.1 size.2 resized
          cases operation with
          | queueResize columns rows =>
              cases resized
              exact reads.resizes same rfl
          | queueTerminalEvent event =>
              cases event with
              | bytes bytes => cases resized
              | resize columns rows =>
                  cases resized
                  unfold perform queueTerminalEvent
                  cases before.ensureAcceptingInput with
                  | error error => exact reads.quiet (.refl _) rfl
                  | ok accepting => exact reads.resizes same rfl
          | _ => cases resized
      | none =>
          cases polls : operation.isPoll with
          | false =>
              have kept := @host_inbound lib before operation polls delivered resized
              exact reads.quiet kept.1 kept.2
          | true =>
              cases operation with
              | poll now =>
                  obtain ⟨actions, output, polled⟩ := poll_succeeds (succeeds polls)
                  obtain ⟨same, mute⟩ := poll_inbound polled
                  have actions_of : (perform lib before (.poll now)).1 = .acted (.ok actions) := output
                  refine reads.quiet same ?_
                  rw [actions_of]
                  exact mute
              | _ => cases polls

theorem run_spells (lawful : LawfulLibraries lib) {operations : List SessionOperation}
    (reads : Reads mail key before.protocol)
    (served : ∀ event ∈ trace (perform lib) before operations, Served mail key event.before event.input)
    (succeed : PollsSucceed (trace (perform lib) before operations)) :
    Reads mail key (final (perform lib) before operations).protocol ∧
      server.content (final (perform lib) before operations).protocol.latestRemoteState =
        server.content before.protocol.latestRemoteState ++
          (trace (perform lib) before operations).flatMap fun event => spelled event.output.actions := by
  induction operations generalizing before with
  | nil => exact ⟨reads, (List.append_nil _).symm⟩
  | cons operation rest induction =>
      have first : Spells mail key before (perform lib before operation) :=
        step_spells lawful reads (served _ List.mem_cons_self) (succeed _ List.mem_cons_self)
      have later := induction first.1 (fun event member => served event (List.mem_cons_of_mem _ member))
        (fun event member => succeed event (List.mem_cons_of_mem _ member))
      refine ⟨later.1, ?_⟩
      rw [final_cons, later.2, first.2, trace, List.flatMap_cons, List.append_assoc]
      rfl

end Steps

/-- A session that has been told the size of the terminal. -/
def sized (lib : Libraries) (key : SessionKey) (started : MonotonicTime) (columns rows : UInt16) :
    SessionRuntime lib.terminal :=
  (new lib.terminal key started).queueResize columns rows

/-- The server's stream, spelled by the actions: whatever the network does with the mail of a
server, what the session has its host do is the stream of the newest state that has come. -/
theorem server_stream_spelled (lawful : LawfulLibraries lib) (key : SessionKey)
    (started : MonotonicTime) (columns rows : UInt16)
    (mail : Mail lib server (viewportOf (max columns 1) (max rows 1)))
    (operations : List SessionOperation)
    (served : ∀ event ∈ trace (perform lib) (sized lib key started columns rows) operations,
      Served mail key event.before event.input)
    (succeed : PollsSucceed (trace (perform lib) (sized lib key started columns rows) operations)) :
    (trace (perform lib) (sized lib key started columns rows) operations).flatMap
        (fun event => spelled event.output.actions) =
      server.content (final (perform lib) (sized lib key started columns rows)
        operations).protocol.latestRemoteState := by
  obtain ⟨invariant, follows, blank⟩ := @with_viewport_follows lib key columns rows server
  have reads : Reads mail key (sized lib key started columns rows).protocol :=
    ⟨invariant, follows, (new_mailed mail key).set_initial_viewport columns rows⟩
  have spelled := (run_spells lawful reads served succeed).2
  rw [spelled]
  have empty : server.content (sized lib key started columns rows).protocol.latestRemoteState = [] :=
    blank
  rw [empty, List.nil_append]

/-- The first state, and the second on top of nothing. -/
def letters : UInt64 → Option StateUpdate
  | 1 => some (hostBytesUpdate 0 1 [0x61])
  | 2 => some (hostBytesUpdate 0 2 [0x61, 0x62])
  | _ => none

theorem letters_cases {identifier : UInt64} {update : StateUpdate}
    (posted : letters identifier = some update) :
    identifier = 1 ∧ update = hostBytesUpdate 0 1 [0x61] ∨
      identifier = 2 ∧ update = hostBytesUpdate 0 2 [0x61, 0x62] := by
  unfold letters at posted
  split at posted
  · exact Or.inl ⟨rfl, (Option.some.inj posted).symm⟩
  · exact Or.inr ⟨rfl, (Option.some.inj posted).symm⟩
  · cases posted

def letterMail : Mail plainLibraries letterServer (viewportOf 80 24) where
  letter := letters
  message identifier := ((letters identifier).map fun update => STORED_HEADER ++ update.encode).getD []
  written := by
    intro identifier update posted
    rcases letters_cases posted with ⟨_, same⟩ | ⟨_, same⟩ <;> exact same ▸ ⟨_, rfl⟩
  encoded := by
    intro identifier update posted
    rcases letters_cases posted with ⟨here, same⟩ | ⟨here, same⟩ <;> subst here same <;> rfl
  short := by
    intro identifier update posted
    rcases letters_cases posted with ⟨here, same⟩ | ⟨here, same⟩ <;> subst here same <;>
      decide +kernel
  few := by
    intro identifier update posted
    rcases letters_cases posted with ⟨here, same⟩ | ⟨here, same⟩ <;> subst here same <;>
      decide +kernel
  sends := by
    intro identifier update posted
    rcases letters_cases posted with ⟨here, same⟩ | ⟨here, same⟩ <;> subst here same
    · exact ⟨by decide, by decide, _, rfl, by decide⟩
    · exact ⟨by decide, by decide, _, rfl, by decide⟩

/-- The second state overtakes the first, and comes again. -/
def servedRun : List SessionOperation :=
  let packets := plainPackets [hostBytesUpdate 0 1 [0x61], hostBytesUpdate 0 2 [0x61, 0x62]]
  [.queueInput [0x6c], .poll ⟨0⟩] ++ packets.reverse.map (.receiveDatagramLossy · ⟨100⟩) ++
    packets.map (.receiveDatagramLossy · ⟨200⟩) ++ [.poll ⟨300⟩]

/-- A plaintext that is the piece of a letter. -/
def isLetter (plaintext : Bytes) : Bool :=
  [(1 : UInt64), 2].any fun identifier => plaintext =
    (Fragment.pieceAt (letterMail.message identifier) 0 0xffff identifier 0).encode

theorem is_letter_writes {plaintext : Bytes} (letter : isLetter plaintext = true) :
    letterMail.Writes plaintext := by
  obtain ⟨identifier, member, same⟩ := List.any_eq_true.mp letter
  have plaintext := of_decide_eq_true same
  simp only [List.mem_cons, List.not_mem_nil, or_false] at member
  rcases member with one | two
  · subst one
    exact Or.inr ⟨1, _, 0, 0xffff, 0, rfl, by decide, plaintext⟩
  · subst two
    exact Or.inr ⟨2, _, 0, 0xffff, 0, rfl, by decide, plaintext⟩

/-- The letter fits the history of its base, where the base is held. -/
def grows (event : RuntimeStep plainLibraries) (identifier : UInt64) : Prop :=
  ∀ update ∈ letters identifier,
    ∀ base ∈ event.before.protocol.receivedStates.lookup update.baseState,
    ∀ batch ∈ (update.decodeInstructions plainLibraries.codec).toOption,
      RemoteTerminalState.validateHistoryGrowth base batch = .ok ()

instance (event : RuntimeStep plainLibraries) (identifier : UInt64) :
    Decidable (grows event identifier) := by
  unfold grows
  infer_instance

theorem served_run_served (event : RuntimeStep plainLibraries)
    (member : event ∈ trace (perform plainLibraries) (sized plainLibraries zeroKey ⟨0⟩ 80 24)
      servedRun) : Served letterMail zeroKey event.before event.input := by
  have opens : ∀ event ∈ trace (perform plainLibraries) (sized plainLibraries zeroKey ⟨0⟩ 80 24)
      servedRun, ∀ packet ∈ packetOf event.input,
      ((SecureChannel.new .client zeroKey).openPacket plainLibraries.aead packet).toOption.all
        fun authenticated => isLetter authenticated.plaintext := by decide +kernel
  have keeps : ∀ event ∈ trace (perform plainLibraries) (sized plainLibraries zeroKey ⟨0⟩ 80 24)
      servedRun, resizeOf event.input = none := by decide +kernel
  have roomy : ∀ event ∈ trace (perform plainLibraries) (sized plainLibraries zeroKey ⟨0⟩ 80 24)
      servedRun, grows event 1 ∧ grows event 2 := by decide +kernel
  have small : ∀ event ∈ trace (perform plainLibraries) (sized plainLibraries zeroKey ⟨0⟩ 80 24)
      servedRun, ∀ packet ∈ packetOf event.input, ∀ delivered ∈ receiptAdvance
        (event.before.protocol.ingestPacket plainLibraries packet).1, FitsVector delivered.delta := by
    decide +kernel
  refine ⟨?_, ?_, ?_, fun packet delivered => small event member packet delivered⟩
  · intro packet delivered authenticated opened
    have letter := opens event member packet delivered
    rw [opened] at letter
    exact is_letter_writes letter
  · intro columns rows resized
    rw [keeps event member] at resized
    cases resized
  · intro identifier update posted base batch present decoded
    rcases letters_cases posted with ⟨here, _⟩ | ⟨here, _⟩
    · exact (roomy event member).1 update (here ▸ posted) base present batch (by rw [decoded]; rfl)
    · exact (roomy event member).2 update (here ▸ posted) base present batch (by rw [decoded]; rfl)

/-- What the host reads is what the server wrote, once. -/
theorem served_run_spelled :
    (trace (perform plainLibraries) (sized plainLibraries zeroKey ⟨0⟩ 80 24) servedRun).flatMap
        (fun event => spelled event.output.actions) =
      letterServer.content (final (perform plainLibraries) (sized plainLibraries zeroKey ⟨0⟩ 80 24)
        servedRun).protocol.latestRemoteState ∧
      (final (perform plainLibraries) (sized plainLibraries zeroKey ⟨0⟩ 80 24)
        servedRun).protocol.latestRemoteState = 2 :=
  ⟨server_stream_spelled lawful_plain_libraries zeroKey ⟨0⟩ 80 24 letterMail servedRun
    served_run_served (by decide +kernel), by decide +kernel⟩

end SessionRuntime

end FerrumTty.Runtime
