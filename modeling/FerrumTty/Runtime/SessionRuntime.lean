import FerrumTty.Session.ClientProtocol

/-!
# Session runtime

`SessionRuntime` of `ferrumtty-runtime`: the client protocol with its input queue, its
timers and the shutdown handshake. Times and counts that the source keeps in 64 bits are
natural numbers here, with its saturating operations written out.
-/

namespace FerrumTty.Runtime

set_option autoImplicit false

open Crypto Wire State Session

def INITIAL_RETRANSMIT_MILLISECONDS : Nat := 1000
def MINIMUM_RETRANSMIT_MILLISECONDS : Nat := 250
def MAXIMUM_RETRANSMIT_MILLISECONDS : Nat := 10000
def SERVER_UNRESPONSIVE_MILLISECONDS : Nat := 30000
def MAXIMUM_QUEUED_INPUT_BYTES : Nat := 1024 * 1024
def SHUTDOWN_RETRY_LIMIT : UInt8 := 16
def SHUTDOWN_TIMEOUT_MILLISECONDS : Nat := 10000

def U64_MAXIMUM : Nat := 2 ^ 64 - 1

def usizeAsU64 (value : Nat) : Nat := min value U64_MAXIMUM
def saturatingAdd (left right : Nat) : Nat := min (left + right) U64_MAXIMUM
def saturatingMul (left right : Nat) : Nat := min (left * right) U64_MAXIMUM
def clamp (value low high : Nat) : Nat := max low (min value high)

structure MonotonicTime where
  milliseconds : UInt64
  deriving DecidableEq, Repr

def MonotonicTime.elapsedSince (now earlier : MonotonicTime) : Nat :=
  now.milliseconds.toNat - earlier.milliseconds.toNat

def timestamp (now : MonotonicTime) : UInt16 := now.milliseconds.toUInt16

inductive ConnectionState where
  | connecting
  | connected
  | interrupted
  deriving DecidableEq, Repr

inductive SessionLifecycle where
  | running
  | paused
  | cancelled
  deriving DecidableEq, Repr

inductive ShutdownOutcome where
  | acknowledged
  | peerRequested
  | timedOut
  deriving DecidableEq, Repr

inductive ShutdownState where
  | open
  | localRequested (startedAt : MonotonicTime) (transmissions : UInt8)
  | peerRequested
  | complete (outcome : ShutdownOutcome)
  deriving DecidableEq, Repr

inductive AssociationState where
  | due
  | sent
  deriving DecidableEq, Repr

inductive DiagnosticEvent where
  | connectionStateChanged (state : ConnectionState)
  | freshUpdatePrepared (stateId : UInt64)
      (datagramCount datagramBytes instructionCount inputBytes : Nat)
  | retransmissionPrepared (stateId : UInt64)
      (datagramCount datagramBytes retransmitDelayMilliseconds : Nat)
  | inboundUpdateAccepted
      (packetCounter baseState targetState acknowledgedState discardBefore : UInt64)
      (deltaBytes : Nat) (advancesRemoteState : Bool)
  | roundTripUpdated (milliseconds : UInt16)
  | sessionLifecycleChanged (state : SessionLifecycle)
  | udpBindingChanged (generation : Nat)
  | shutdownStarted
  | shutdownComplete (outcome : ShutdownOutcome)
  deriving DecidableEq, Repr

inductive SessionAction where
  | sendDatagram (bytes : Bytes)
  | writeTerminal (bytes : Bytes)
  | resizeTerminal (columns rows : UInt16)
  | acknowledgePrediction (value : UInt64)
  | remoteStateAdvanced (state : UInt64)
  | connectionStateChanged (state : ConnectionState)
  | roundTripEstimate (milliseconds : UInt16)
  | capabilitiesChanged (capabilities : Bytes)
  | remoteSessionControl (kind : UInt32) (payload : Bytes)
  | sessionLifecycleChanged (state : SessionLifecycle)
  | shutdownComplete (outcome : ShutdownOutcome)
  | udpBindingChanged (generation : Nat)
  | diagnostic (event : DiagnosticEvent)
  deriving DecidableEq, Repr

inductive TerminalInputEvent where
  | bytes (value : Bytes)
  | resize (columns rows : UInt16)
  deriving DecidableEq, Repr

inductive RuntimeError where
  | inputQueueFull
  | capabilityNotNegotiated
  | sessionPaused
  | sessionCancelled
  | shutdownInProgress
  | session (error : SessionError)
  | message (error : MessageError)
  deriving DecidableEq, Repr

def lifecycleActions (state : SessionLifecycle) : List SessionAction :=
  [.sessionLifecycleChanged state, .diagnostic (.sessionLifecycleChanged state)]

def connectionActions (state : ConnectionState) : List SessionAction :=
  [.connectionStateChanged state, .diagnostic (.connectionStateChanged state)]

def totalPacketBytes (packets : List Bytes) : Nat :=
  packets.foldl (fun total packet => saturatingAdd total (usizeAsU64 packet.length)) 0

def freshUpdateDiagnostic (stateId : UInt64) (packets : List Bytes)
    (instructionCount inputBytes : Nat) : DiagnosticEvent :=
  .freshUpdatePrepared stateId (usizeAsU64 packets.length) (totalPacketBytes packets)
    (usizeAsU64 instructionCount) (usizeAsU64 inputBytes)

def retransmissionDiagnostic (stateId : UInt64) (packets : List Bytes)
    (retransmitDelayMilliseconds : Nat) : DiagnosticEvent :=
  .retransmissionPrepared stateId (usizeAsU64 packets.length) (totalPacketBytes packets)
    retransmitDelayMilliseconds

def sendActions (packets : List Bytes) : List SessionAction := packets.map .sendDatagram

structure SessionRuntime (terminal : Terminal) where
  protocol : ClientProtocol terminal
  queuedInstructions : List Instruction
  queuedInputBytes : Nat
  lastSend : Option MonotonicTime
  lastReceive : MonotonicTime
  retransmitMilliseconds : Nat
  smoothedRoundTripMilliseconds : Option Nat
  roundTripVariationMilliseconds : Nat
  association : AssociationState
  acknowledgementDue : Bool
  receivedServerState : Bool
  roundTripMilliseconds : Option UInt16
  connectionState : ConnectionState
  lifecycle : SessionLifecycle
  udpBindingGeneration : Nat
  shutdown : ShutdownState
  peerShutdownAcknowledgementDue : Bool

namespace SessionRuntime

def new (terminal : Terminal) (key : SessionKey) (now : MonotonicTime) : SessionRuntime terminal where
  protocol := .new terminal key
  queuedInstructions := []
  queuedInputBytes := 0
  lastSend := none
  lastReceive := now
  retransmitMilliseconds := INITIAL_RETRANSMIT_MILLISECONDS
  smoothedRoundTripMilliseconds := none
  roundTripVariationMilliseconds := 0
  association := .due
  acknowledgementDue := false
  receivedServerState := false
  roundTripMilliseconds := none
  connectionState := .connecting
  lifecycle := .running
  udpBindingGeneration := 0
  shutdown := .open
  peerShutdownAcknowledgementDue := false

section Host

variable {terminal : Terminal} (runtime : SessionRuntime terminal)

def ensureRunning : Except RuntimeError Unit :=
  match runtime.lifecycle with
  | .running => .ok ()
  | .paused => .error .sessionPaused
  | .cancelled => .error .sessionCancelled

def ensureAcceptingInput : Except RuntimeError Unit :=
  match runtime.ensureRunning with
  | .error error => .error error
  | .ok () => if runtime.shutdown ≠ .open then .error .shutdownInProgress else .ok ()

def bytesInstruction (bytes : Bytes) : Instruction where
  bytes := some { value := bytes }
  viewport := none
  marker := none
  sessionControl := none

def resizeInstruction (viewport : ViewportSize) : Instruction where
  bytes := none
  viewport := some viewport
  marker := none
  sessionControl := none

def controlInstruction (kind : UInt32) (payload : Bytes) : Instruction where
  bytes := none
  viewport := none
  marker := none
  sessionControl := some { kind, payload }

/-- The bound is far below `usize::MAX`, so a sum that overflows is over the bound as well. -/
def queueInstruction (added : Nat) (instruction : Instruction) :
    Except RuntimeError Unit × SessionRuntime terminal :=
  let newSize := runtime.queuedInputBytes + added
  if newSize > MAXIMUM_QUEUED_INPUT_BYTES then (.error .inputQueueFull, runtime)
  else
    (.ok (),
      { runtime with
        queuedInputBytes := newSize
        queuedInstructions := runtime.queuedInstructions ++ [instruction] })

def queueInput (bytes : Bytes) : Except RuntimeError Unit × SessionRuntime terminal :=
  match runtime.ensureAcceptingInput with
  | .error error => (.error error, runtime)
  | .ok () => runtime.queueInstruction bytes.length (bytesInstruction bytes)

def isResize (instruction : Instruction) : Bool :=
  instruction.bytes.isNone && instruction.marker.isNone && instruction.sessionControl.isNone &&
    instruction.viewport.isSome

/-- A resize directly behind a resize that still waits takes its place. -/
def pushResize (queue : List Instruction) (viewport : ViewportSize) : List Instruction :=
  match queue.getLast? with
  | none => queue ++ [resizeInstruction viewport]
  | some last =>
      if isResize last then queue.dropLast ++ [{ last with viewport := some viewport }]
      else queue ++ [resizeInstruction viewport]

def queueResize (columns rows : UInt16) : SessionRuntime terminal :=
  if runtime.lifecycle ≠ .running ∨ runtime.shutdown ≠ .open then runtime
  else
    { runtime with
      protocol := runtime.protocol.setInitialRemoteViewport columns rows
      queuedInstructions := pushResize runtime.queuedInstructions
        { columns := columns.toUInt64, rows := rows.toUInt64 } }

def queueTerminalEvent (event : TerminalInputEvent) :
    Except RuntimeError Unit × SessionRuntime terminal :=
  match runtime.ensureAcceptingInput with
  | .error error => (.error error, runtime)
  | .ok () =>
      match event with
      | .bytes bytes => runtime.queueInput bytes
      | .resize columns rows => (.ok (), runtime.queueResize columns rows)

def setLocalCapabilities (capabilities : Bytes) : SessionRuntime terminal :=
  { runtime with protocol := runtime.protocol.setLocalCapabilities capabilities }

def hasNegotiatedCapability (capability : UInt8) : Bool :=
  runtime.protocol.hasNegotiatedCapability capability

def queueSessionControl (kind : UInt32) (payload : Bytes) :
    Except RuntimeError Unit × SessionRuntime terminal :=
  match runtime.ensureAcceptingInput with
  | .error error => (.error error, runtime)
  | .ok () =>
      if !runtime.hasNegotiatedCapability SESSION_CONTROL_CAPABILITY then
        (.error .capabilityNotNegotiated, runtime)
      else runtime.queueInstruction payload.length (controlInstruction kind payload)

def pause : List SessionAction × SessionRuntime terminal :=
  if runtime.lifecycle ≠ .running then ([], runtime)
  else (lifecycleActions .paused, { runtime with lifecycle := .paused })

def cancel : List SessionAction × SessionRuntime terminal :=
  if runtime.lifecycle = .cancelled then ([], runtime)
  else
    (lifecycleActions .cancelled,
      { runtime with lifecycle := .cancelled, queuedInstructions := [], queuedInputBytes := 0 })

def requestShutdown (now : MonotonicTime) :
    Except RuntimeError (List SessionAction) × SessionRuntime terminal :=
  match runtime.ensureRunning with
  | .error error => (.error error, runtime)
  | .ok () =>
      if runtime.shutdown = .open then
        (.ok [.diagnostic .shutdownStarted], { runtime with shutdown := .localRequested now 0 })
      else (.ok [], runtime)

def notifyUdpRebound : List SessionAction × SessionRuntime terminal :=
  if runtime.lifecycle = .cancelled then ([], runtime)
  else
    let generation := saturatingAdd runtime.udpBindingGeneration 1
    ([.udpBindingChanged generation, .diagnostic (.udpBindingChanged generation)],
      { runtime with udpBindingGeneration := generation, lastSend := none })

def resumeState (now : MonotonicTime) : SessionRuntime terminal :=
  if runtime.lifecycle = .cancelled then runtime
  else { runtime with lifecycle := .running, lastReceive := now, lastSend := none }

def resume (now : MonotonicTime) : SessionRuntime terminal := runtime.resumeState now

def resumeWithActions (now : MonotonicTime) : List SessionAction × SessionRuntime terminal :=
  if runtime.lifecycle = .cancelled then ([], runtime)
  else
    (if runtime.lifecycle = .paused then lifecycleActions .running else [], runtime.resumeState now)

def updateRetransmitTimeout (sampleMilliseconds : Nat) : SessionRuntime terminal :=
  let (smoothed, variation) :=
    match runtime.smoothedRoundTripMilliseconds with
    | some smoothed =>
        let difference := (smoothed - sampleMilliseconds) + (sampleMilliseconds - smoothed)
        (saturatingAdd (saturatingMul smoothed 7) sampleMilliseconds / 8,
          saturatingAdd (saturatingMul runtime.roundTripVariationMilliseconds 3) difference / 4)
    | none => (sampleMilliseconds, sampleMilliseconds / 2)
  { runtime with
    smoothedRoundTripMilliseconds := some smoothed
    roundTripVariationMilliseconds := variation
    retransmitMilliseconds := clamp (saturatingAdd smoothed (saturatingMul variation 4))
      MINIMUM_RETRANSMIT_MILLISECONDS MAXIMUM_RETRANSMIT_MILLISECONDS }

def recordRoundTripSample (milliseconds : UInt16) : List SessionAction × SessionRuntime terminal :=
  let runtime := runtime.updateRetransmitTimeout milliseconds.toNat
  if runtime.roundTripMilliseconds = some milliseconds then ([], runtime)
  else
    ([.roundTripEstimate milliseconds, .diagnostic (.roundTripUpdated milliseconds)],
      { runtime with roundTripMilliseconds := some milliseconds })

def isServerResponsive (now : MonotonicTime) : Bool :=
  now.elapsedSince runtime.lastReceive < SERVER_UNRESPONSIVE_MILLISECONDS

end Host

section Receive

variable {terminal : Terminal} (runtime : SessionRuntime terminal)

def capabilityActions (previousCapabilities : Bytes) : List SessionAction :=
  if runtime.protocol.remoteCapabilities ≠ previousCapabilities then
    [.capabilitiesChanged runtime.protocol.remoteCapabilities]
  else []

/-- The part of `receive_datagram` that reports the first authenticated datagram. -/
def noteConnected : List SessionAction × SessionRuntime terminal :=
  if runtime.connectionState ≠ .connected then
    (connectionActions .connected, { runtime with connectionState := .connected })
  else ([], runtime)

/-- The part of `receive_datagram` that measures the round trip. -/
def noteEcho (echoedTimestamp : UInt16) (now : MonotonicTime) :
    List SessionAction × SessionRuntime terminal :=
  if echoedTimestamp ≠ 0xffff then
    let elapsed := timestamp now - echoedTimestamp
    if elapsed ≤ 30000 then runtime.recordRoundTripSample elapsed else ([], runtime)
  else ([], runtime)

/-- The part of `receive_datagram` that notes a received server state. -/
def noteState (state : ReceivedState) : SessionRuntime terminal :=
  let runtime : SessionRuntime terminal :=
    { runtime with
      acknowledgementDue := runtime.acknowledgementDue || state.advancesRemoteState
      receivedServerState := true }
  if state.update.targetState = MAXIMUM_STATE then
    { runtime with
      peerShutdownAcknowledgementDue := true
      shutdown := if runtime.shutdown = .open then .peerRequested else runtime.shutdown }
  else runtime

def inboundDiagnostic (state : ReceivedState) : DiagnosticEvent :=
  .inboundUpdateAccepted state.packetCounter state.update.baseState state.update.targetState
    state.update.acknowledgedState state.update.discardBefore (usizeAsU64 state.update.delta.length)
    state.advancesRemoteState

def instructionActions (instruction : Instruction) : List SessionAction :=
  (match instruction.bytes with
    | some bytes => [.writeTerminal bytes.value]
    | none => []) ++
  (match instruction.viewport with
    | some viewport =>
        if viewport.columns.toNat < 2 ^ 16 ∧ viewport.rows.toNat < 2 ^ 16 then
          [.resizeTerminal viewport.columns.toUInt16 viewport.rows.toUInt16]
        else []
    | none => []) ++
  (match instruction.marker with
    | some marker => [.acknowledgePrediction marker.value]
    | none => []) ++
  (match instruction.sessionControl with
    | some control => [.remoteSessionControl control.kind control.payload]
    | none => [])

end Receive

section Network

variable (lib : Libraries) (runtime : SessionRuntime lib.terminal)

/-- The actions for an update that advanced the remote state. -/
def advanceActions (update : StateUpdate) : Except RuntimeError (List SessionAction) :=
  match update.decodeInstructions lib.codec with
  | .error error => .error (.message error)
  | .ok batch =>
      .ok (.remoteStateAdvanced update.targetState :: batch.instructions.flatMap instructionActions)

/-- The part of `receive_datagram` behind a successful `ingest_packet`. -/
def handleReceipt (previousCapabilities : Bytes) (receipt : PacketReceipt) (now : MonotonicTime) :
    Except RuntimeError (List SessionAction) × SessionRuntime lib.terminal :=
  let runtime := { runtime with lastReceive := now }
  let capability := runtime.capabilityActions previousCapabilities
  let (connection, runtime) := runtime.noteConnected
  let (roundTrip, runtime) := runtime.noteEcho receipt.echoedTimestamp now
  let actions := capability ++ connection ++ roundTrip
  match receipt.state with
  | none => (.ok actions, runtime)
  | some state =>
      let runtime := runtime.noteState state
      let actions := actions ++ [.diagnostic (inboundDiagnostic state)]
      if !state.advancesRemoteState then (.ok actions, runtime)
      else ((advanceActions lib state.update).map (actions ++ ·), runtime)

def receiveDatagram (packet : Bytes) (now : MonotonicTime) :
    Except RuntimeError (List SessionAction) × SessionRuntime lib.terminal :=
  match runtime.ensureRunning with
  | .error error => (.error error, runtime)
  | .ok () =>
      let (receipt, protocol) := runtime.protocol.ingestPacket lib packet
      let received := { runtime with protocol }
      match receipt with
      | .error error => (.error (.session error), received)
      | .ok receipt => received.handleReceipt lib runtime.protocol.remoteCapabilities receipt now

def receiveDatagramLossy (packet : Bytes) (now : MonotonicTime) :
    List SessionAction × SessionRuntime lib.terminal :=
  match runtime.receiveDatagram lib packet now with
  | (.ok actions, runtime) => (actions, runtime)
  | (.error _, runtime) => ([], runtime)

end Network

section Timers

variable {terminal : Terminal} (runtime : SessionRuntime terminal)

def connectionStateAction (now : MonotonicTime) : Option ConnectionState × SessionRuntime terminal :=
  if runtime.connectionState = .connected ∧ runtime.isServerResponsive now = false then
    (some .interrupted, { runtime with connectionState := .interrupted })
  else (none, runtime)

def shutdownTimedOut (now : MonotonicTime) : Bool :=
  match runtime.shutdown with
  | .localRequested startedAt transmissions =>
      transmissions ≥ SHUTDOWN_RETRY_LIMIT ∨
        now.elapsedSince startedAt ≥ SHUTDOWN_TIMEOUT_MILLISECONDS
  | _ => false

/-- `saturating_add` on the transmission count. -/
def recordShutdownTransmission : SessionRuntime terminal :=
  match runtime.shutdown with
  | .localRequested startedAt transmissions =>
      { runtime with
        shutdown := .localRequested startedAt
          (if transmissions = 0xff then 0xff else transmissions + 1) }
  | _ => runtime

def completeShutdown (outcome : ShutdownOutcome) : List SessionAction × SessionRuntime terminal :=
  ([.shutdownComplete outcome, .diagnostic (.shutdownComplete outcome)],
    { runtime with shutdown := .complete outcome })

def completePeerShutdownAfterAck : List SessionAction × SessionRuntime terminal :=
  if runtime.peerShutdownAcknowledgementDue then
    { runtime with peerShutdownAcknowledgementDue := false }.completeShutdown .peerRequested
  else ([], runtime)

def shutdownIsComplete : Bool :=
  match runtime.shutdown with
  | .complete _ => true
  | _ => false

def shutdownIsRequested : Bool :=
  match runtime.shutdown with
  | .localRequested .. => true
  | _ => false

/-- The local shutdown was asked for and its state not sent yet. -/
def localShutdownUnsent : Bool := runtime.shutdownIsRequested && !runtime.protocol.localShutdownSent

/-- The peer's shutdown waits for an answer and the local one is confirmed already. -/
def shutdownAckDue : Bool :=
  runtime.peerShutdownAcknowledgementDue && runtime.protocol.localShutdownAcknowledged

def queuedStateId : UInt64 :=
  if runtime.localShutdownUnsent || runtime.shutdownAckDue then MAXIMUM_STATE
  else runtime.protocol.nextLocalState

/-- Too early for another transmission of the pending state. -/
def retransmitWaits (now : MonotonicTime) : Bool :=
  !runtime.acknowledgementDue && runtime.lastSend.any fun lastSend =>
    now.elapsedSince lastSend < runtime.retransmitMilliseconds

def heartbeatDue (now : MonotonicTime) : Bool :=
  runtime.lastSend.all fun lastSend => now.elapsedSince lastSend ≥ runtime.retransmitMilliseconds

def millisecondsUntilNextPoll (now : MonotonicTime) : Nat :=
  if runtime.lifecycle ≠ .running ∨ runtime.shutdownIsComplete then U64_MAXIMUM
  else
    let canSendQueued := !runtime.protocol.hasPendingUpdate
    let protocolWait :=
      if runtime.association = .due ∨ runtime.acknowledgementDue ∨
          (canSendQueued ∧ runtime.queuedInstructions ≠ []) ∨
          (runtime.localShutdownUnsent ∧ canSendQueued) then 0
      else
        (runtime.lastSend.map fun lastSend =>
          runtime.retransmitMilliseconds - now.elapsedSince lastSend).getD 0
    match runtime.shutdown with
    | .localRequested startedAt transmissions =>
        let timeoutWait :=
          if transmissions ≥ SHUTDOWN_RETRY_LIMIT then 0
          else SHUTDOWN_TIMEOUT_MILLISECONDS - now.elapsedSince startedAt
        min protocolWait timeoutWait
    | _ => protocolWait

def predictionFrameId : UInt64 := runtime.protocol.nextLocalState

def shutdownOutcome : Option ShutdownOutcome :=
  match runtime.shutdown with
  | .complete outcome => some outcome
  | _ => none

def shutdownInProgress : Bool :=
  match runtime.shutdown with
  | .open => false
  | .complete _ => false
  | _ => true

end Timers

section Poll

variable (lib : Libraries) (runtime : SessionRuntime lib.terminal)

/-- The part of `poll` that opens the association. -/
def pollAssociation (now : MonotonicTime) :
    Except RuntimeError (List SessionAction) × SessionRuntime lib.terminal :=
  if runtime.association = .due then
    match runtime.protocol.buildAssociation lib (timestamp now) with
    | (.error error, protocol) => (.error (.session error), { runtime with protocol })
    | (.ok packets, protocol) =>
        (.ok (sendActions packets ++ [.diagnostic (freshUpdateDiagnostic 0 packets 0 0)]),
          { runtime with protocol, association := .sent, lastSend := some now })
  else (.ok [], runtime)

/-- The choice of `build_queued_update` between the three builders. -/
def buildQueuedPackets (instructions : InstructionBatch) (now : MonotonicTime) :
    Except SessionError (List Bytes) × ClientProtocol lib.terminal :=
  if runtime.shutdownAckDue then runtime.protocol.buildShutdownAck lib (timestamp now)
  else if runtime.localShutdownUnsent then
    runtime.protocol.buildShutdown lib (timestamp now) instructions
  else runtime.protocol.buildUpdate lib (timestamp now) instructions

/-- The queue is drained before the builder runs, so a failing builder loses it. -/
def buildQueuedUpdate (now : MonotonicTime) :
    Except RuntimeError (List Bytes × DiagnosticEvent) × SessionRuntime lib.terminal :=
  let stateId := runtime.queuedStateId
  let inputBytes := runtime.queuedInputBytes
  let instructions : InstructionBatch := { instructions := runtime.queuedInstructions }
  let drained : SessionRuntime lib.terminal :=
    { runtime with queuedInstructions := [], queuedInputBytes := 0, acknowledgementDue := false }
  match drained.buildQueuedPackets lib instructions now with
  | (.error error, protocol) => (.error (.session error), { drained with protocol })
  | (.ok packets, protocol) =>
      (.ok (packets,
          freshUpdateDiagnostic stateId packets instructions.instructions.length inputBytes),
        { drained with protocol, lastSend := some now })

def pollQueued (now : MonotonicTime) :
    Except RuntimeError (List SessionAction) × SessionRuntime lib.terminal :=
  match runtime.buildQueuedUpdate lib now with
  | (.error error, runtime) => (.error error, runtime)
  | (.ok (packets, diagnostic), runtime) =>
      let (completion, runtime) := runtime.recordShutdownTransmission.completePeerShutdownAfterAck
      (.ok (sendActions packets ++ [.diagnostic diagnostic] ++ completion), runtime)

def pollPending (now : MonotonicTime) :
    Except RuntimeError (List SessionAction) × SessionRuntime lib.terminal :=
  if runtime.retransmitWaits now then (.ok [], runtime)
  else
    match runtime.protocol.retransmitPending lib (timestamp now) with
    | (.error error, protocol) => (.error (.session error), { runtime with protocol })
    | (.ok packets, protocol) =>
        let diagnostic := retransmissionDiagnostic protocol.latestLocalState packets
          runtime.retransmitMilliseconds
        let sent : SessionRuntime lib.terminal :=
          { runtime with protocol, lastSend := some now, acknowledgementDue := false }
        let (completion, runtime) := sent.recordShutdownTransmission.completePeerShutdownAfterAck
        (.ok (sendActions packets ++ [.diagnostic diagnostic] ++ completion), runtime)

def pollHeartbeat (now : MonotonicTime) :
    Except RuntimeError (List SessionAction) × SessionRuntime lib.terminal :=
  if !runtime.acknowledgementDue && !runtime.heartbeatDue now then (.ok [], runtime)
  else
    match runtime.protocol.buildAcknowledgement lib (timestamp now) with
    | (.error error, protocol) => (.error (.session error), { runtime with protocol })
    | (.ok packets, protocol) =>
        let diagnostic := freshUpdateDiagnostic protocol.latestLocalState packets 0 0
        let sent : SessionRuntime lib.terminal :=
          { runtime with protocol, lastSend := some now, acknowledgementDue := false }
        let (completion, runtime) := sent.completePeerShutdownAfterAck
        (.ok (sendActions packets ++ [.diagnostic diagnostic] ++ completion), runtime)

/-- The part of `poll` that chooses what to send. -/
def pollSend (now : MonotonicTime) :
    Except RuntimeError (List SessionAction) × SessionRuntime lib.terminal :=
  let hasQueuedState := !runtime.queuedInstructions.isEmpty
  if (hasQueuedState || runtime.localShutdownUnsent) && !runtime.protocol.hasPendingUpdate then
    runtime.pollQueued lib now
  else if runtime.protocol.hasPendingUpdate then runtime.pollPending lib now
  else runtime.pollHeartbeat lib now

/-- The part of `poll` behind the association: what ends the session goes before what is sent,
and the actions so far are dropped when it does. -/
def pollSession (now : MonotonicTime) (actions : List SessionAction) :
    Except RuntimeError (List SessionAction) × SessionRuntime lib.terminal :=
  if runtime.protocol.localShutdownAcknowledged && !runtime.peerShutdownAcknowledgementDue then
    let (actions, runtime) := runtime.completeShutdown .acknowledged
    (.ok actions, runtime)
  else if !runtime.peerShutdownAcknowledgementDue && runtime.shutdownTimedOut now then
    let (actions, runtime) := runtime.completeShutdown .timedOut
    (.ok actions, runtime)
  else
    let (state, runtime) := runtime.connectionStateAction now
    let actions := actions ++ state.toList.flatMap connectionActions
    let (sent, runtime) := runtime.pollSend lib now
    (sent.map (actions ++ ·), runtime)

def poll (now : MonotonicTime) :
    Except RuntimeError (List SessionAction) × SessionRuntime lib.terminal :=
  if runtime.lifecycle ≠ .running then (.ok [], runtime)
  else if runtime.shutdownIsComplete then (.ok [], runtime)
  else
    match runtime.pollAssociation lib now with
    | (.error error, runtime) => (.error error, runtime)
    | (.ok actions, runtime) => runtime.pollSession lib now actions

end Poll

end SessionRuntime

end FerrumTty.Runtime
