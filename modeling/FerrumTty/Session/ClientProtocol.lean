import FerrumTty.State.LineTerminal
import FerrumTty.Wire.Fragment
import FerrumTty.Wire.StoredCodec

/-!
# Client protocol

`ClientProtocol` of `ferrumtty-session`. A method that borrows the protocol mutably
returns its result next to the protocol it leaves behind, also when it fails.
-/

namespace FerrumTty.Session

set_option autoImplicit false

open Crypto Wire State

def NO_ECHO_TIMESTAMP : UInt16 := 0xffff
def MAXIMUM_REASSEMBLED_BYTES : Nat := 16 * 1024 * 1024
def MAXIMUM_ACTIVE_ASSEMBLIES : Nat := 64
def MAXIMUM_SENT_STATES : Nat := 32
def MAXIMUM_RECEIVED_STATES : Nat := 1024
def REPLAY_WINDOW_BITS : UInt64 := 128
def DEFAULT_REMOTE_COLUMNS : UInt16 := 80
def DEFAULT_REMOTE_ROWS : UInt16 := 24
def TIMESTAMP_HEADER_BYTES : Nat := 4
def MINIMUM_FRAGMENT_PLAINTEXT_BYTES : Nat := 14
def MAXIMUM_STATE : UInt64 := 0xffffffffffffffff

/-- The libraries outside this repository that the protocol runs on. -/
structure Libraries where
  aead : Aead
  codec : Codec
  terminal : Terminal

structure LawfulLibraries (lib : Libraries) : Prop where
  aead : LawfulAead lib.aead
  codec : LawfulCodec lib.codec
  terminal : LawfulTerminal lib.terminal

/-- Libraries that can be run. -/
def plainLibraries : Libraries where
  aead := taggingAead
  codec := storedCodec
  terminal := lineTerminal

theorem lawful_plain_libraries : LawfulLibraries plainLibraries where
  aead := lawful_tagging_aead
  codec := lawful_stored_codec
  terminal := lawful_line_terminal

inductive SessionError where
  | stateExhausted
  | shutdownAlreadySent
  | shutdownNotAcknowledged
  | stateHistoryUnavailable
  | updateAwaitingAcknowledgement
  | noPendingUpdate
  | replayDetected
  | tooManyActiveAssemblies
  | tooManyRemoteStates
  | invalidStateTransition
  | state (error : StateError)
  | sealing (error : SealError)
  | opening (error : OpenError)
  | fragment (error : FragmentError)
  | message (error : MessageError)
  deriving DecidableEq, Repr

structure SentState where
  stateId : UInt64
  instructionEnd : Nat
  deriving DecidableEq, Repr

structure ReplayWindow where
  highest : Option UInt64
  seen : BitVec 128
  deriving DecidableEq, Repr

namespace ReplayWindow

def default : ReplayWindow where
  highest := none
  seen := 0

def accept (window : ReplayWindow) (counter : UInt64) : Bool × ReplayWindow :=
  match window.highest with
  | none => (true, { highest := some counter, seen := 1 })
  | some highest =>
      if counter > highest then
        let advance := counter - highest
        let seen := if advance ≥ REPLAY_WINDOW_BITS then 1 else (window.seen <<< advance.toNat) ||| 1
        (true, { highest := some counter, seen })
      else
        let age := highest - counter
        if age ≥ REPLAY_WINDOW_BITS then (false, window)
        else
          let bit := (1 : BitVec 128) <<< age.toNat
          if window.seen &&& bit ≠ 0 then (false, window)
          else (true, { window with seen := window.seen ||| bit })

end ReplayWindow

structure ReceivedState where
  packetCounter : UInt64
  sentTimestamp : UInt16
  echoedTimestamp : UInt16
  advancesRemoteState : Bool
  update : StateUpdate
  deriving DecidableEq, Repr

structure PacketReceipt where
  packetCounter : UInt64
  sentTimestamp : UInt16
  echoedTimestamp : UInt16
  state : Option ReceivedState
  deriving DecidableEq, Repr

/-- `seal_next` over the fragments in order; the first failure ends the collection. -/
def sealAll (aead : Aead) (channel : SecureChannel) :
    List Fragment → Except SealError (List Bytes) × SecureChannel
  | [] => (.ok [], channel)
  | fragment :: rest =>
      match channel.sealNext aead fragment.encode with
      | (.error error, channel) => (.error error, channel)
      | (.ok packet, channel) =>
          match sealAll aead channel rest with
          | (.error error, channel) => (.error error, channel)
          | (.ok packets, channel) => (.ok (packet :: packets), channel)

def sealFragments (aead : Aead) (channel : SecureChannel) (compressed : Bytes)
    (sentTimestamp : UInt16) (latestPeerTimestamp : Option UInt16) (stateId : UInt64) :
    Except SessionError (List Bytes) × SecureChannel :=
  match Fragment.split compressed sentTimestamp (latestPeerTimestamp.getD NO_ECHO_TIMESTAMP) stateId with
  | .error error => (.error (.fragment error), channel)
  | .ok fragments =>
      let (result, channel) := sealAll aead channel fragments
      (result.mapError .sealing, channel)

structure ClientProtocol (terminal : Terminal) where
  secureChannel : SecureChannel
  nextLocalState : UInt64
  latestRemoteState : UInt64
  latestPeerTimestamp : Option UInt16
  assemblies : BTreeMap UInt64 FragmentAccumulator
  localInstructions : List Instruction
  sentStates : List SentState
  receivedStates : BTreeMap UInt64 (RemoteTerminalState terminal)
  deliveredRemoteState : RemoteTerminalState terminal
  remoteThrowawayFloor : UInt64
  localCapabilities : Bytes
  remoteCapabilities : Bytes
  replayWindow : ReplayWindow

/-- The state `new(DEFAULT_REMOTE_COLUMNS, DEFAULT_REMOTE_ROWS)` succeeds with. -/
def initialRemoteState (terminal : Terminal) : RemoteTerminalState terminal where
  initialColumns := DEFAULT_REMOTE_COLUMNS
  initialRows := DEFAULT_REMOTE_ROWS
  parser := .new DEFAULT_REMOTE_ROWS DEFAULT_REMOTE_COLUMNS
  history := .empty
  viewport := viewportOf DEFAULT_REMOTE_COLUMNS DEFAULT_REMOTE_ROWS
  echoAck := none

theorem initial_remote_state_new (terminal : Terminal) :
    RemoteTerminalState.new DEFAULT_REMOTE_COLUMNS DEFAULT_REMOTE_ROWS =
      .ok (initialRemoteState terminal) := rfl

namespace ClientProtocol

def new (terminal : Terminal) (key : SessionKey) : ClientProtocol terminal where
  secureChannel := .new .client key
  nextLocalState := 1
  latestRemoteState := 0
  latestPeerTimestamp := none
  assemblies := ∅
  localInstructions := []
  sentStates := [{ stateId := 0, instructionEnd := 0 }]
  receivedStates := AList.insert 0 (initialRemoteState terminal).clone ∅
  deliveredRemoteState := initialRemoteState terminal
  remoteThrowawayFloor := 0
  localCapabilities := []
  remoteCapabilities := []
  replayWindow := .default

section Queries

variable {terminal : Terminal} (protocol : ClientProtocol terminal)

def hasNegotiatedCapability (capability : UInt8) : Bool :=
  match protocol.localCapabilities.head?, protocol.remoteCapabilities.head? with
  | some ours, some theirs => ours &&& theirs &&& capability ≠ 0
  | _, _ => false

def latestLocalState : UInt64 := (protocol.sentStates.getLast?.map SentState.stateId).getD 0

def hasPendingUpdate : Bool := protocol.sentStates.length > 1

def localShutdownSent : Bool :=
  protocol.sentStates.getLast?.any fun state => state.stateId = MAXIMUM_STATE

def localShutdownAcknowledged : Bool :=
  protocol.sentStates.head?.any fun state => state.stateId = MAXIMUM_STATE

def remoteShutdownReceived : Bool := protocol.latestRemoteState = MAXIMUM_STATE

/-- The updates the build methods encode, from the confirmed front and the newest state. -/
def acknowledgementUpdate (front back : SentState) : StateUpdate :=
  { StateUpdate.new back.stateId back.stateId protocol.latestRemoteState with
    discardBefore := front.stateId
    capabilities := protocol.localCapabilities }

def shutdownAckUpdate : StateUpdate :=
  { StateUpdate.new MAXIMUM_STATE MAXIMUM_STATE protocol.latestRemoteState with
    discardBefore := MAXIMUM_STATE
    capabilities := protocol.localCapabilities
    delta := (InstructionBatch.mk []).encodeBytes }

def stateUpdate (front back : SentState) (instructions : InstructionBatch) (targetState : UInt64) :
    StateUpdate :=
  { StateUpdate.new back.stateId targetState protocol.latestRemoteState with
    discardBefore := front.stateId
    delta := instructions.encodeBytes
    capabilities := protocol.localCapabilities }

def pendingInstructions (confirmed latest : SentState) : InstructionBatch where
  instructions :=
    (protocol.localInstructions.take latest.instructionEnd).drop confirmed.instructionEnd

def retransmissionUpdate (confirmed latest : SentState) : StateUpdate :=
  { StateUpdate.new confirmed.stateId latest.stateId protocol.latestRemoteState with
    discardBefore := confirmed.stateId
    delta := (protocol.pendingInstructions confirmed latest).encodeBytes
    capabilities := protocol.localCapabilities }

end Queries

def limitSentStatesLoop : Nat → List SentState → List SentState
  | 0, states => states
  | fuel + 1, states =>
      if states.length > MAXIMUM_SENT_STATES then
        limitSentStatesLoop fuel (states.eraseIdx (states.length - 16))
      else states

/-- Every round removes a state, so as many rounds as states are enough. -/
def limitSentStates (states : List SentState) : List SentState :=
  limitSentStatesLoop states.length states

section Outbound

variable (lib : Libraries) (protocol : ClientProtocol lib.terminal)

/-- `encode_compressed_update` followed by `seal_fragments`. -/
def sealUpdate (sentTimestamp : UInt16) (update : StateUpdate) (stateId : UInt64) :
    Except SessionError (List Bytes) × ClientProtocol lib.terminal :=
  match encodeCompressedUpdate lib.codec update with
  | .error error => (.error (.message error), protocol)
  | .ok compressed =>
      let (result, secureChannel) := sealFragments lib.aead protocol.secureChannel compressed
        sentTimestamp protocol.latestPeerTimestamp stateId
      (result, { protocol with secureChannel })

def buildAcknowledgement (sentTimestamp : UInt16) :
    Except SessionError (List Bytes) × ClientProtocol lib.terminal :=
  match protocol.sentStates.head?, protocol.sentStates.getLast? with
  | some front, some back =>
      protocol.sealUpdate lib sentTimestamp (protocol.acknowledgementUpdate front back) back.stateId
  | _, _ => (.error .stateHistoryUnavailable, protocol)

def buildAssociation (sentTimestamp : UInt16) :
    Except SessionError (List Bytes) × ClientProtocol lib.terminal :=
  protocol.buildAcknowledgement lib sentTimestamp

def setLocalCapabilities {terminal : Terminal} (protocol : ClientProtocol terminal)
    (capabilities : Bytes) : ClientProtocol terminal :=
  { protocol with localCapabilities := capabilities }

/-- What a sealed update leaves in the send history. -/
def recordSentState {terminal : Terminal} (protocol : ClientProtocol terminal)
    (instructions : InstructionBatch) (targetState : UInt64) : ClientProtocol terminal :=
  let instructionEnd := protocol.localInstructions.length + instructions.instructions.length
  { protocol with
    localInstructions := protocol.localInstructions ++ instructions.instructions
    sentStates := limitSentStates
      (protocol.sentStates ++ [{ stateId := targetState, instructionEnd }]) }

def buildStateUpdate (sentTimestamp : UInt16) (instructions : InstructionBatch)
    (targetState : UInt64) : Except SessionError (List Bytes) × ClientProtocol lib.terminal :=
  match protocol.sentStates.head?, protocol.sentStates.getLast? with
  | some front, some back =>
      match protocol.sealUpdate lib sentTimestamp
          (protocol.stateUpdate front back instructions targetState) targetState with
      | (.error error, protocol) => (.error error, protocol)
      | (.ok packets, protocol) => (.ok packets, protocol.recordSentState instructions targetState)
  | _, _ => (.error .stateHistoryUnavailable, protocol)

def buildUpdate (sentTimestamp : UInt16) (instructions : InstructionBatch) :
    Except SessionError (List Bytes) × ClientProtocol lib.terminal :=
  let targetState := protocol.nextLocalState
  if targetState = MAXIMUM_STATE then (.error .stateExhausted, protocol)
  else
    match protocol.buildStateUpdate lib sentTimestamp instructions targetState with
    | (.error error, protocol) => (.error error, protocol)
    | (.ok packets, protocol) => (.ok packets, { protocol with nextLocalState := targetState + 1 })

def buildShutdown (sentTimestamp : UInt16) (instructions : InstructionBatch) :
    Except SessionError (List Bytes) × ClientProtocol lib.terminal :=
  if protocol.localShutdownSent then (.error .shutdownAlreadySent, protocol)
  else protocol.buildStateUpdate lib sentTimestamp instructions MAXIMUM_STATE

def buildShutdownAck (sentTimestamp : UInt16) :
    Except SessionError (List Bytes) × ClientProtocol lib.terminal :=
  if !protocol.localShutdownAcknowledged then (.error .shutdownNotAcknowledged, protocol)
  else protocol.sealUpdate lib sentTimestamp protocol.shutdownAckUpdate MAXIMUM_STATE

def retransmitPending (sentTimestamp : UInt16) :
    Except SessionError (List Bytes) × ClientProtocol lib.terminal :=
  if !protocol.hasPendingUpdate then (.error .noPendingUpdate, protocol)
  else
    match protocol.sentStates.head?, protocol.sentStates.getLast? with
    | some confirmed, some latest =>
        protocol.sealUpdate lib sentTimestamp (protocol.retransmissionUpdate confirmed latest)
          latest.stateId
    | _, _ => (.error .stateHistoryUnavailable, protocol)

end Outbound

section Inbound

def setInitialRemoteViewport {terminal : Terminal} (protocol : ClientProtocol terminal)
    (columns rows : UInt16) : ClientProtocol terminal :=
  if protocol.latestRemoteState ≠ 0 ∨ protocol.receivedStates.len ≠ 1 then protocol
  else
    match RemoteTerminalState.new (max columns 1) (max rows 1) with
    | .error _ => protocol
    | .ok initialState =>
        { protocol with
          receivedStates := protocol.receivedStates.insert 0 initialState.clone
          deliveredRemoteState := initialState }

def processAcknowledgement {terminal : Terminal} (protocol : ClientProtocol terminal)
    (acknowledgedState : UInt64) : ClientProtocol terminal :=
  match protocol.sentStates.findIdx? fun state => state.stateId = acknowledgedState with
  | none => protocol
  | some acknowledgedIndex =>
      let sentStates := protocol.sentStates.drop acknowledgedIndex
      let confirmedInstructionEnd := (sentStates.head?.map SentState.instructionEnd).getD 0
      if confirmedInstructionEnd = 0 then { protocol with sentStates }
      else
        { protocol with
          localInstructions := protocol.localInstructions.drop confirmedInstructionEnd
          sentStates := sentStates.map fun state =>
            { state with instructionEnd := state.instructionEnd - confirmedInstructionEnd } }

variable (lib : Libraries) (protocol : ClientProtocol lib.terminal)

def discardRemoteStates {terminal : Terminal} (protocol : ClientProtocol terminal)
    (throwawayFloor : UInt64) : ClientProtocol terminal :=
  { protocol with
    receivedStates := protocol.receivedStates.retain fun stateId => stateId ≥ throwawayFloor
    remoteThrowawayFloor := throwawayFloor }

def insertRemoteState {terminal : Terminal} (protocol : ClientProtocol terminal) (stateId : UInt64)
    (state : RemoteTerminalState terminal) : ClientProtocol terminal :=
  { protocol with receivedStates := protocol.receivedStates.insert stateId state.clone }

def advanceRemoteState {terminal : Terminal} (protocol : ClientProtocol terminal) (stateId : UInt64)
    (state : RemoteTerminalState terminal) : ClientProtocol terminal :=
  { protocol with latestRemoteState := stateId, deliveredRemoteState := state }

/-- The part of `accept_remote_update` after the target state was stored. -/
def deliverRemoteState (update : StateUpdate) (targetState : RemoteTerminalState lib.terminal) :
    (Bool × StateUpdate) × ClientProtocol lib.terminal :=
  if update.targetState ≤ protocol.latestRemoteState then ((false, update), protocol)
  else
    match targetState.diffFrom protocol.deliveredRemoteState with
    | .error _ => ((false, update), protocol)
    | .ok diff =>
        ((true, { update with delta := diff.encodeBytes }),
          protocol.advanceRemoteState update.targetState targetState)

/-- The part of `accept_remote_update` between an applied batch and the delivery. -/
def storeRemoteState (update : StateUpdate) (targetState : RemoteTerminalState lib.terminal) :
    Except SessionError (Bool × StateUpdate) × ClientProtocol lib.terminal :=
  let protocol := protocol.discardRemoteStates
    (max protocol.remoteThrowawayFloor update.discardBefore)
  if protocol.receivedStates.len ≥ MAXIMUM_RECEIVED_STATES then (.error .tooManyRemoteStates, protocol)
  else
    let protocol := protocol.insertRemoteState update.targetState targetState
    let (result, protocol) := protocol.deliverRemoteState lib update targetState
    (.ok result, protocol)

def acceptRemoteUpdate (update : StateUpdate) :
    Except SessionError (Bool × StateUpdate) × ClientProtocol lib.terminal :=
  if update.targetState ∈ protocol.receivedStates then (.ok (false, update), protocol)
  else if update.discardBefore > update.baseState ∨ update.targetState ≤ update.baseState then
    (.error .invalidStateTransition, protocol)
  else
    match protocol.receivedStates.lookup update.baseState with
    | none => (.ok (false, update), protocol)
    | some baseState =>
        match update.decodeInstructions lib.codec with
        | .error error => (.error (.message error), protocol)
        | .ok instructions =>
            match baseState.clone.apply instructions with
            | .error error => (.error (.state error), protocol)
            | .ok targetState => protocol.storeRemoteState lib update targetState

/-- The part of `ingest_packet` that handles a decoded update. -/
def handleUpdate (update : StateUpdate) :
    Except SessionError (Bool × StateUpdate) × ClientProtocol lib.terminal :=
  match (protocol.processAcknowledgement update.acknowledgedState).acceptRemoteUpdate lib update with
  | (.error error, protocol) => (.error error, protocol)
  | (.ok result, protocol) =>
      if update.capabilities.isEmpty then (.ok result, protocol)
      else (.ok result, { protocol with remoteCapabilities := update.capabilities })

/-- The part of `ingest_packet` that handles a completed message. -/
def handleMessage (authenticated : AuthenticatedPacket) (header : FragmentHeader) (compressed : Bytes) :
    Except SessionError PacketReceipt × ClientProtocol lib.terminal :=
  match decodeCompressedUpdate lib.codec compressed with
  | .error error => (.error (.message error), protocol)
  | .ok update =>
      match protocol.handleUpdate lib update with
      | (.error error, protocol) => (.error error, protocol)
      | (.ok (advancesRemoteState, deliveredUpdate), protocol) =>
          (.ok
            { packetCounter := authenticated.counter
              sentTimestamp := header.sentTimestamp
              echoedTimestamp := header.echoedTimestamp
              state := some
                { packetCounter := authenticated.counter
                  sentTimestamp := header.sentTimestamp
                  echoedTimestamp := header.echoedTimestamp
                  advancesRemoteState
                  update := deliveredUpdate } },
            protocol)

/-- The part of `ingest_packet` that handles a parsed fragment. -/
def handleFragment (authenticated : AuthenticatedPacket) (fragment : Fragment) :
    Except SessionError PacketReceipt × ClientProtocol lib.terminal :=
  let stateId := fragment.header.stateId
  if stateId ∉ protocol.assemblies ∧ protocol.assemblies.len ≥ MAXIMUM_ACTIVE_ASSEMBLIES then
    (.error .tooManyActiveAssemblies, protocol)
  else
    let assembly := (protocol.assemblies.lookup stateId).getD
      (.new stateId MAXIMUM_REASSEMBLED_BYTES)
    let (pushed, assembly) := assembly.push fragment
    let protocol : ClientProtocol lib.terminal :=
      { protocol with assemblies := protocol.assemblies.insert stateId assembly }
    match pushed with
    | .error error => (.error (.fragment error), protocol)
    | .ok none =>
        (.ok
          { packetCounter := authenticated.counter
            sentTimestamp := fragment.header.sentTimestamp
            echoedTimestamp := fragment.header.echoedTimestamp
            state := none },
          protocol)
    | .ok (some compressed) =>
        let protocol : ClientProtocol lib.terminal :=
          { protocol with assemblies := protocol.assemblies.erase stateId }
        protocol.handleMessage lib authenticated fragment.header compressed

/-- The part of `ingest_packet` behind the replay window. -/
def handlePlaintext (authenticated : AuthenticatedPacket) :
    Except SessionError PacketReceipt × ClientProtocol lib.terminal :=
  let plaintext := authenticated.plaintext
  if plaintext.length < TIMESTAMP_HEADER_BYTES then (.error (.fragment .headerTooShort), protocol)
  else
    let sentTimestamp := readWord16 (plaintext.take 2)
    let echoedTimestamp := readWord16 ((plaintext.drop 2).take 2)
    let protocol : ClientProtocol lib.terminal :=
      { protocol with latestPeerTimestamp := some sentTimestamp }
    if plaintext.length < MINIMUM_FRAGMENT_PLAINTEXT_BYTES then
      (.ok { packetCounter := authenticated.counter, sentTimestamp, echoedTimestamp, state := none },
        protocol)
    else
      match Fragment.parse plaintext with
      | .error error => (.error (.fragment error), protocol)
      | .ok fragment => protocol.handleFragment lib authenticated fragment

def ingestPacket (packet : Bytes) : Except SessionError PacketReceipt × ClientProtocol lib.terminal :=
  match protocol.secureChannel.openPacket lib.aead packet with
  | .error error => (.error (.opening error), protocol)
  | .ok authenticated =>
      let (accepted, replayWindow) := protocol.replayWindow.accept authenticated.counter
      let protocol : ClientProtocol lib.terminal := { protocol with replayWindow }
      if !accepted then (.error .replayDetected, protocol)
      else protocol.handlePlaintext lib authenticated

def ingest (packet : Bytes) :
    Except SessionError (Option ReceivedState) × ClientProtocol lib.terminal :=
  let (receipt, protocol) := protocol.ingestPacket lib packet
  (receipt.map PacketReceipt.state, protocol)

end Inbound

end ClientProtocol

end FerrumTty.Session
