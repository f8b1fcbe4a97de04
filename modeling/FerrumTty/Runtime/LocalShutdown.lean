import FerrumTty.Runtime.Handshake
import FerrumTty.Runtime.LocalInput
import FerrumTty.Runtime.PeerShutdown
import FerrumTty.Session.ReceivedStates

/-!
# The local shutdown

The handshake of a whole run: it ends at most once and in silence, transmits a bounded number
of times, and when it is acknowledged nothing that was accepted is left behind.
-/

namespace FerrumTty.Runtime

set_option autoImplicit false

open Crypto Wire State Session Runs

namespace SessionRuntime

variable {lib : Libraries}

def allActions (events : List (RuntimeStep lib)) : List SessionAction :=
  events.flatMap fun event => event.output.actions

/-- The session ends at most once, and nothing is sent behind its end. -/
def EndsOnce (actions : List SessionAction) : Prop :=
  ∀ left outcome right, actions = left ++ .shutdownComplete outcome :: right → Plain right

def HandshakeSteps (events : List (RuntimeStep lib)) : Prop :=
  ∀ event ∈ events, Handshake event.before ∧
    HandshakeStep event.input event.before event.after event.output.actions

section Ending

variable {runtime : SessionRuntime lib.terminal}

theorem plain_of_complete {operation : SessionOperation} {before after : SessionRuntime lib.terminal}
    {actions : List SessionAction} {outcome : ShutdownOutcome}
    (step : HandshakeStep operation before after actions)
    (complete : before.shutdown = .complete outcome) :
    Plain actions ∧ after.shutdown = .complete outcome := by
  have ended : before.shutdownIsComplete = true := by
    rw [shutdownIsComplete, complete]
  have move := step.move
  rw [complete] at move
  constructor
  · cases step.report with
    | plain plain => exact plain
    | ongoing incomplete absent =>
        rw [ended] at incomplete
        cases incomplete
    | completed incomplete left other reported absent after =>
        rw [ended] at incomplete
        cases incomplete
  · generalize after.shutdown = last at move
    cases move
    rfl

theorem complete_run_plain {outcome : ShutdownOutcome} (complete : runtime.shutdown = .complete outcome)
    {operations : List SessionOperation}
    (steps : HandshakeSteps (trace (perform lib) runtime operations)) :
    Plain (allActions (trace (perform lib) runtime operations)) := by
  induction operations generalizing runtime with
  | nil => exact no_actions_plain
  | cons operation rest induction =>
      rcases plain_of_complete (steps _ List.mem_cons_self).2 complete with ⟨plain, stillComplete⟩
      exact plain.append (induction stillComplete
        fun event member => steps event (List.mem_cons_of_mem _ member))

theorem run_ends_once {operations : List SessionOperation}
    (steps : HandshakeSteps (trace (perform lib) runtime operations)) :
    EndsOnce (allActions (trace (perform lib) runtime operations)) := by
  induction operations generalizing runtime with
  | nil =>
      intro left outcome right split
      simp [allActions] at split
  | cons operation rest induction =>
      have later : HandshakeSteps (trace (perform lib) (perform lib runtime operation).2 rest) :=
        fun event member => steps event (List.mem_cons_of_mem _ member)
      have step := (steps _ List.mem_cons_self).2
      intro left outcome right split
      change (stepAt (perform lib) runtime operation).output.actions ++
        allActions (trace (perform lib) (perform lib runtime operation).2 rest) = _ at split
      have unended : (∀ action ∈ (stepAt (perform lib) runtime operation).output.actions,
          isShutdownComplete action = false) → Plain right := by
        intro ongoing
        have absent : .shutdownComplete outcome ∉
            (stepAt (perform lib) runtime operation).output.actions := by
          intro member
          have ends := ongoing _ member
          cases ends
        obtain ⟨others, same⟩ := split_after absent split
        rw [same, List.append_assoc] at split
        exact induction later others outcome right (List.append_cancel_left split)
      cases step.report with
      | plain plain => exact unended fun action member => (plain action member).2
      | ongoing incomplete absent => exact unended absent
      | completed incomplete early other reported absent complete =>
          have rest := complete_run_plain complete later
          have quiet : Plain ([.diagnostic (.shutdownComplete other)] ++
              allActions (trace (perform lib) (perform lib runtime operation).2 _)) :=
            Plain.append (by simp [Plain, isDatagram, isShutdownComplete]) rest
          have absentEarly : .shutdownComplete outcome ∉ early := by
            intro member
            have ends := absent _ member
            cases ends
          rw [reported, List.append_assoc] at split
          obtain ⟨others, same⟩ := split_after absentEarly split
          rw [same, List.append_assoc] at split
          have tail := List.append_cancel_left split
          cases others with
          | nil =>
              injection tail with _ same
              rw [← same]
              exact quiet
          | cons head others =>
              injection tail with _ same
              have shown : [.diagnostic (.shutdownComplete other)] ++ allActions
                  (trace (perform lib) (perform lib runtime operation).2 _) =
                    others ++ .shutdownComplete outcome :: right := same
              rw [shown] at quiet
              have ends := (quiet (.shutdownComplete outcome) (by simp)).2
              cases ends

end Ending

section Transmissions

/-- The step sends a message that leads from one state to another: a fresh state or a pending
one again. An acknowledgement leads from a state to itself. -/
def TransmitsState (lib : Libraries) (key : SessionKey) (event : RuntimeStep lib) : Prop :=
  ∃ packets ∈ messages event.output.actions, ∃ update batch,
    ClientProtocol.Carries lib key packets update batch ∧ update.baseState ≠ update.targetState

def completes (event : RuntimeStep lib) : Bool := event.output.actions.any isShutdownComplete

def transmissionsLeft {terminal : Terminal} (runtime : SessionRuntime terminal) : Nat :=
  match runtime.shutdown with
  | .open => SHUTDOWN_RETRY_LIMIT.toNat
  | .localRequested _ transmissions => SHUTDOWN_RETRY_LIMIT.toNat - transmissions.toNat
  | .peerRequested => 0
  | .complete _ => 0

def completionsLeft {terminal : Terminal} (runtime : SessionRuntime terminal) : Nat :=
  if runtime.shutdownIsComplete then 0 else 1

variable {key : SessionKey}

theorem next_transmission {transmissions : UInt8} (room : transmissions < SHUTDOWN_RETRY_LIMIT) :
    (transmissions + 1).toNat = transmissions.toNat + 1 := by
  have below : transmissions.toNat < 16 := UInt8.lt_iff_toNat_lt.mp room
  rw [UInt8.toNat_add]
  have one : (1 : UInt8).toNat = 1 := rfl
  omega

theorem counted_transmission {transmissions : UInt8} (room : transmissions < SHUTDOWN_RETRY_LIMIT) :
    SHUTDOWN_RETRY_LIMIT.toNat - (transmissions + 1).toNat <
      SHUTDOWN_RETRY_LIMIT.toNat - transmissions.toNat := by
  have below : transmissions.toNat < 16 := UInt8.lt_iff_toNat_lt.mp room
  have next := next_transmission room
  have limit : SHUTDOWN_RETRY_LIMIT.toNat = 16 := rfl
  omega

theorem move_transmissions {terminal : Terminal} {before after : SessionRuntime terminal}
    (move : ShutdownMove before.shutdown after.shutdown) :
    transmissionsLeft after ≤ transmissionsLeft before ∧
      completionsLeft after ≤ completionsLeft before := by
  unfold transmissionsLeft completionsLeft shutdownIsComplete
  generalize before.shutdown = first at move
  generalize after.shutdown = second at move
  cases move with
  | stays state => exact ⟨Nat.le_refl _, Nat.le_refl _⟩
  | requested now => simp
  | peerRequested => simp
  | transmitted startedAt transmissions room =>
      exact ⟨Nat.le_of_lt (counted_transmission room), Nat.le_refl _⟩
  | completed startedAt transmissions outcome => simp
  | answered => simp

theorem acknowledgement_level {terminal : Terminal} {protocol : ClientProtocol terminal}
    {sentTimestamp : UInt16} {update : StateUpdate} {stateId : UInt64}
    (out : protocol.outgoing (.buildAcknowledgement sentTimestamp) = some (update, stateId)) :
    update.baseState = update.targetState := by
  cases ClientProtocol.outgoing_cases out with
  | acknowledgement _ first last => rfl

theorem acknowledgement_carries_level (sentTimestamp : UInt16) (lawful : LawfulLibraries lib)
    {protocol : ClientProtocol lib.terminal} (seals : ClientProtocol.SealsWith key protocol)
    {operation : ProtocolOperation} {packets : List Bytes}
    (performed : (protocol.perform lib operation).1 = .packets (.ok packets))
    (level : protocol.outgoing operation = protocol.outgoing (.buildAcknowledgement sentTimestamp))
    {update : StateUpdate} {batch : InstructionBatch}
    (carries : ClientProtocol.Carries lib key packets update batch) :
    update.baseState = update.targetState := by
  obtain ⟨sent, stateId, out, carried⟩ :=
    ClientProtocol.perform_carries lawful.aead seals performed
  rcases ClientProtocol.outgoing_message out with ⟨_, sentBatch, written⟩
  rw [(carries.unique lawful.codec (carried sentBatch written)).1]
  rw [level] at out
  exact acknowledgement_level out

variable {runtime middle after : SessionRuntime lib.terminal} {now : MonotonicTime}

theorem AssociationOutcome.level (lawful : LawfulLibraries lib) {opening : List SessionAction}
    (seals : ClientProtocol.SealsWith key runtime.protocol)
    (association : AssociationOutcome lib runtime now (.ok opening, middle)) :
    ∀ packets ∈ messages opening, ∀ update batch,
      ClientProtocol.Carries lib key packets update batch → update.baseState = update.targetState := by
  have apart := (association.acknowledges lawful.aead seals).2.1
  cases association with
  | kept opened =>
      intro packets member
      cases member
  | opened packets protocol event due performed =>
      intro group member update batch carries
      have performed := congrArg Prod.fst performed
      obtain ⟨sent, stateId, _, carried⟩ :=
        ClientProtocol.perform_carries lawful.aead seals performed
      rcases ClientProtocol.perform_message lawful.aead seals performed with ⟨other, _, opens, _⟩
      obtain ⟨packet, others, listed⟩ := opens.nonempty
      have alone : messages (sendActions packets ++ [.diagnostic event]) = [packets] := by
        rw [listed, messages_send]
        rfl
      rw [alone] at member
      rw [List.mem_singleton.mp member] at carries
      exact acknowledgement_carries_level (timestamp now) lawful seals performed rfl
        carries

theorem PollOutcome.transmission_counted (lawful : LawfulLibraries lib) {actions : List SessionAction}
    (seals : ClientProtocol.SealsWith key runtime.protocol) (handshake : Handshake runtime)
    (requested : runtime.shutdown ≠ .open)
    (polled : PollOutcome lib runtime now (.ok actions, after))
    (transmits : ∃ packets ∈ messages actions, ∃ update batch,
      ClientProtocol.Carries lib key packets update batch ∧ update.baseState ≠ update.targetState)
    (ongoing : actions.any isShutdownComplete = false) :
    transmissionsLeft after < transmissionsLeft runtime := by
  obtain ⟨packets, member, update, batch, carries, states⟩ := transmits
  cases polled with
  | idle stopped => cases member
  | ended opening middle outcome running incomplete association ends => cases member
  | went opening sent middle after running incomplete association goesOn sending =>
      have level := association.level lawful seals
      have reached := association.reached goesOn
      have sealsHere := association.seals_reached lawful.aead seals
      rw [association.messages_apart lawful.aead seals] at member
      generalize (middle.connectionStateAction now).1.toList.flatMap connectionActions = notes at *
      generalize (middle.connectionStateAction now).2 = here at *
      rcases List.mem_append.mp member with early | late
      · exact absurd (level packets early update batch carries) states
      · cases sending with
        | waited waits => cases late
        | sent operation queue sentPackets event after sends choice performed queued moved answered =>
            have undue : here.peerShutdownAcknowledgementDue = false := by
              apply Bool.eq_false_iff.mpr
              intro waiting
              rw [peerCompletion, if_pos waiting] at ongoing
              simp [isShutdownComplete] at ongoing
            have output := congrArg Prod.fst performed
            rcases ClientProtocol.perform_message lawful.aead sealsHere output with ⟨_, _, opens, _⟩
            obtain ⟨packet, others, listed⟩ := opens.nonempty
            rw [peerCompletion, if_neg (by rw [undue]; decide), listed, messages_send, ← listed] at late
            rw [List.mem_singleton.mp late] at carries
            have counted : here.countedShutdown operation =
                here.recordShutdownTransmission.shutdown := by
              cases choice with
              | acknowledgement sentTimestamp =>
                  exact absurd (acknowledgement_carries_level sentTimestamp lawful
                    sealsHere output rfl carries) states
              | _ => rfl
            rw [shutdownAfter, if_neg (by rw [undue]; decide), counted] at moved
            cases state : runtime.shutdown with
            | «open» => exact absurd state requested
            | localRequested startedAt transmissions =>
                have same := reached.shutdown.trans state
                have room := goes_on_room reached.goes_on undue same
                rw [record_transmission_requested same room] at moved
                unfold transmissionsLeft
                rw [moved, state]
                exact counted_transmission room
            | peerRequested =>
                rw [reached.due, handshake.asked state] at undue
                cases undue
            | complete outcome => simp [shutdownIsComplete, state] at incomplete

theorem PollOutcome.completion {actions : List SessionAction}
    (polled : PollOutcome lib runtime now (.ok actions, after)) {outcome : ShutdownOutcome}
    (completes : .shutdownComplete outcome ∈ actions) :
    outcome = .peerRequested ∨ messages actions = [] ∧ runtime.lifecycle = .running ∧
      runtime.shutdownIsComplete = false ∧ ∃ opening middle,
        AssociationOutcome lib runtime now (.ok opening, middle) ∧
          middle.endsAt now = some outcome := by
  cases polled with
  | idle stopped => cases completes
  | ended opening middle other running incomplete association ends =>
      right
      have same : outcome = other := by simpa using completes
      rw [same]
      exact ⟨rfl, running, incomplete, opening, middle, association, ends⟩
  | went opening sent middle after running incomplete association goesOn sending =>
      left
      rcases List.mem_append.mp completes with early | late
      · have ends := (association.reached goesOn).ongoing _ early
        cases ends
      · cases sending with
        | waited waits => cases late
        | sent operation queue packets event after sends choice performed queued moved answered =>
            unfold peerCompletion at late
            split_ifs at late
            · simpa [sendActions] using late
            · simp [sendActions] at late

end Transmissions

section Counting

variable {key : SessionKey} {start : MonotonicTime} {earlier later : List SessionOperation}

theorem event_counted (lawful : LawfulLibraries lib) {operations : List SessionOperation}
    (succeed : PollsSucceed (trace (perform lib) (new lib.terminal key start) operations))
    {event : RuntimeStep lib}
    (member : event ∈ trace (perform lib) (new lib.terminal key start) operations)
    (requested : event.before.shutdown ≠ .open) (transmits : TransmitsState lib key event)
    (ongoing : completes event = false) :
    transmissionsLeft event.after < transmissionsLeft event.before := by
  rcases event_handshake lawful.aead succeed member with ⟨handshake, step⟩
  have seals := seals_with_run lawful.aead member
  obtain ⟨packets, listed, carried⟩ := transmits
  cases input : event.input with
  | poll now =>
      have fine := succeed event member (by rw [input]; rfl)
      obtain ⟨actions, output, polled⟩ := event_poll member input fine
      unfold completes at ongoing
      rw [output] at listed ongoing
      exact polled.transmission_counted lawful seals handshake requested
        ⟨packets, listed, carried⟩ ongoing
  | _ =>
      have plain := step.quiet (by rw [input]; rfl)
      rw [plain.silent.messages] at listed
      cases listed

theorem completion_counted {event : RuntimeStep lib}
    (step : HandshakeStep event.input event.before event.after event.output.actions)
    (ends : completes event = true) : completionsLeft event.after < completionsLeft event.before := by
  obtain ⟨action, member, ending⟩ := List.any_eq_true.mp ends
  cases step.report with
  | plain plain =>
      rw [(plain action member).2] at ending
      cases ending
  | ongoing incomplete absent =>
      rw [absent action member] at ending
      cases ending
  | completed incomplete left outcome reported absent complete =>
      unfold completionsLeft
      rw [incomplete, shutdownIsComplete, complete]
      simp

theorem still_closed {first second : ShutdownState} (move : ShutdownMove first second)
    (closed : first ≠ .open) : second ≠ .open := by
  intro opened
  rw [opened] at move
  cases move
  exact closed rfl

theorem requested_stays {runtime : SessionRuntime lib.terminal} (requested : runtime.shutdown ≠ .open)
    {operations : List SessionOperation}
    (steps : HandshakeSteps (trace (perform lib) runtime operations)) :
    ∀ event ∈ trace (perform lib) runtime operations, event.before.shutdown ≠ .open := by
  intro event member
  apply invariant_before_when (perform lib) (fun runtime => runtime.shutdown ≠ .open) _ _ requested
    steps member
  intro before operation closed here
  exact still_closed here.2.move closed

/-- Behind a request at most so many polls transmit a state and go on, and at most one step ends
the session. -/
theorem transmissions_bounded (lawful : LawfulLibraries lib)
    (succeed : PollsSucceed (trace (perform lib) (new lib.terminal key start) (earlier ++ later)))
    (requested : (final (perform lib) (new lib.terminal key start) earlier).shutdown ≠ .open)
    {polls : List (RuntimeStep lib)}
    (among : List.Sublist polls (trace (perform lib)
      (final (perform lib) (new lib.terminal key start) earlier) later)) :
    ((∀ event ∈ polls, TransmitsState lib key event ∧ completes event = false) →
        polls.length ≤ SHUTDOWN_RETRY_LIMIT.toNat) ∧
      ((∀ event ∈ polls, completes event = true) → polls.length ≤ 1) := by
  have behind : ∀ event ∈ trace (perform lib)
      (final (perform lib) (new lib.terminal key start) earlier) later,
      event ∈ trace (perform lib) (new lib.terminal key start) (earlier ++ later) := by
    intro event member
    rw [trace_append]
    exact List.mem_append_right _ member
  have steps : HandshakeSteps (trace (perform lib)
      (final (perform lib) (new lib.terminal key start) earlier) later) :=
    fun event member => event_handshake lawful.aead succeed (behind event member)
  have closed := requested_stays requested steps
  constructor
  · intro all
    have spent := spending_le (perform lib) transmissionsLeft
      (fun event => TransmitsState lib key event ∧ completes event = false)
      (fun event member => (move_transmissions (steps event member).2.move).1)
      (fun event member spends => event_counted lawful succeed (behind event member)
        (closed event member) spends.1 spends.2) among all
    apply Nat.le_trans spent
    unfold transmissionsLeft
    split
    · exact Nat.le_refl _
    · exact Nat.sub_le _ _
    · exact Nat.zero_le _
    · exact Nat.zero_le _
  · intro all
    have spent := spending_le (perform lib) completionsLeft (fun event => completes event = true)
      (fun event member => (move_transmissions (steps event member).2.move).2)
      (fun event member spends => completion_counted (steps event member).2 spends) among all
    apply Nat.le_trans spent
    unfold completionsLeft
    split_ifs
    · exact Nat.zero_le _
    · exact Nat.le_refl _

end Counting

section Acknowledgement

variable {key : SessionKey} {start : MonotonicTime} {before after : SessionRuntime lib.terminal}
  {log : InputLog} {content : UInt64 → List Instruction}

def confirmedState {terminal : Terminal} (protocol : ClientProtocol terminal) : Option UInt64 :=
  protocol.sentStates.head?.map SentState.stateId

/-- The step receives an update of the server that acknowledges the state. -/
def ReceivesAcknowledgement (event : RuntimeStep lib) (state : UInt64) : Prop :=
  ∃ packet now update, (event.input = .receiveDatagram packet now ∨
      event.input = .receiveDatagramLossy packet now) ∧
    event.before.lifecycle = .running ∧
    event.before.protocol.packetUpdate lib packet = some update ∧ update.acknowledgedState = state

theorem confirmed_of_same_sent {terminal : Terminal} {first second : ClientProtocol terminal}
    (same : ClientProtocol.SameSent first second) : confirmedState second = confirmedState first := by
  rw [confirmedState, confirmedState, same.states]

theorem acknowledgement_confirms {terminal : Terminal} (protocol : ClientProtocol terminal)
    (acknowledgedState : UInt64) :
    confirmedState (protocol.processAcknowledgement acknowledgedState) = confirmedState protocol ∨
      confirmedState (protocol.processAcknowledgement acknowledgedState) = some acknowledgedState := by
  unfold ClientProtocol.processAcknowledgement
  cases found : protocol.sentStates.findIdx? fun state => state.stateId = acknowledgedState with
  | none => exact Or.inl rfl
  | some index =>
      obtain ⟨inside, named, _⟩ := List.findIdx?_eq_some_iff_getElem.mp found
      have head : (protocol.sentStates.drop index).head? = some (protocol.sentStates[index]) := by
        rw [List.head?_drop, List.getElem?_eq_getElem inside]
      have stateId := of_decide_eq_true named
      right
      unfold confirmedState
      dsimp only
      split_ifs
      · rw [head, Option.map_some, stateId]
      · rw [List.head?_map, head, Option.map_some, Option.map_some, stateId]

theorem receive_datagram_protocol (running : before.lifecycle = .running) (packet : Bytes)
    (now : MonotonicTime) :
    (before.receiveDatagram lib packet now).2.protocol = (before.protocol.ingestPacket lib packet).2 := by
  unfold receiveDatagram ensureRunning
  rw [running]
  dsimp only
  split
  · rfl
  · rw [(handle_receipt_notes lib _ _ _ now).protocol]

theorem receive_datagram_confirms (packet : Bytes) (now : MonotonicTime) :
    confirmedState (before.receiveDatagram lib packet now).2.protocol = confirmedState before.protocol ∨
      ∃ update, before.lifecycle = .running ∧
        before.protocol.packetUpdate lib packet = some update ∧
        confirmedState (before.receiveDatagram lib packet now).2.protocol =
          some update.acknowledgedState := by
  cases ready : before.ensureRunning with
  | error error =>
      rw [receiveDatagram, ready]
      exact Or.inl rfl
  | ok granted =>
      have running := running_of_ensure before ready
      rw [receive_datagram_protocol running]
      have arrival := ClientProtocol.ingest_packet_arrival lib before.protocol packet
      generalize (before.protocol.ingestPacket lib packet).2 = last at arrival
      generalize arrived : before.protocol.packetUpdate lib packet = update at arrival
      cases arrival with
      | nothing same kept => exact Or.inl (confirmed_of_same_sent kept)
      | update middle update unmoved accepted acknowledged =>
          rcases acknowledgement_confirms before.protocol update.acknowledgedState with same | named
          · exact Or.inl ((confirmed_of_same_sent acknowledged).trans same)
          · exact Or.inr ⟨update, running, rfl, (confirmed_of_same_sent acknowledged).trans named⟩

theorem PollOutcome.confirmed {now : MonotonicTime} {actions : List SessionAction}
    (ledger : Ledger key before log content)
    (polled : PollOutcome lib before now (.ok actions, after)) :
    confirmedState after.protocol = confirmedState before.protocol := by
  cases polled with
  | idle stopped => rfl
  | ended opening middle outcome running incomplete association ends =>
      obtain ⟨_, _, ⟨channel, same⟩, _⟩ := association.handshake_fields
      change confirmedState middle.protocol = _
      rw [same]
      rfl
  | went opening sent middle after running incomplete association goesOn sending =>
      rcases (association.reached goesOn).protocol with ⟨channel, same⟩
      generalize (middle.connectionStateAction now).1.toList.flatMap connectionActions = notes at *
      generalize (middle.connectionStateAction now).2 = here at *
      have opened : confirmedState here.protocol = confirmedState before.protocol := by
        rw [same]
        rfl
      have outbox : here.protocol.Outbox content log.drained := by
        rw [same]
        exact ledger.outbox.of_same_sent (ClientProtocol.with_channel_same_sent channel)
      rw [← opened]
      cases sending with
      | waited waits => rfl
      | sent operation queue packets event after sends choice performed =>
          have keeps : operation.keepsHistory = true →
              confirmedState after.protocol = confirmedState here.protocol := by
            intro keeps
            obtain ⟨channel, moved⟩ := ClientProtocol.perform_keeps keeps performed
            rw [moved]
            rfl
          cases choice with
          | acknowledgement sentTimestamp => exact keeps rfl
          | retransmission sentTimestamp => exact keeps rfl
          | shutdownAck sentTimestamp => exact keeps rfl
          | update sentTimestamp settled waiting requested =>
              obtain ⟨_, channel, moved⟩ := ClientProtocol.perform_update_after performed
              obtain ⟨confirmed, only, drained, _⟩ := outbox.settled_of settled
              rw [confirmedState, confirmedState, moved, only]
              dsimp only
              rw [ClientProtocol.record_states_of_settled only drained]
              rfl
          | shutdown sentTimestamp settled requested =>
              obtain ⟨_, channel, moved⟩ := ClientProtocol.perform_shutdown_after performed
              obtain ⟨confirmed, only, drained, _⟩ := outbox.settled_of settled
              rw [confirmedState, confirmedState, moved, only,
                ClientProtocol.record_states_of_settled only drained]
              rfl

theorem step_confirms
    (ledger : before.lifecycle = .cancelled ∨ ∃ log content, Ledger key before log content)
    {operation : SessionOperation}
    (succeeds : operation.isPoll = true →
      (stepAt (perform lib) before operation).output.isError = false) :
    confirmedState (stepAt (perform lib) before operation).after.protocol =
        confirmedState before.protocol ∨
      ∃ state, ReceivesAcknowledgement (stepAt (perform lib) before operation) state ∧
        confirmedState (stepAt (perform lib) before operation).after.protocol = some state := by
  have unsent {later : SessionRuntime lib.terminal}
      (same : later.protocol.sentStates = before.protocol.sentStates) :
      confirmedState later.protocol = confirmedState before.protocol := by
    rw [confirmedState, confirmedState, same]
  rcases step_cases lib before operation with ⟨output, after, outcome, kind⟩
  rw [outcome] at succeeds ⊢
  cases kind with
  | receive packet now asked plain =>
      rcases receive_datagram_confirms packet now with
        same | ⟨update, running, arrived, named⟩
      · exact Or.inl same
      · exact Or.inr ⟨update.acknowledgedState,
          ⟨packet, now, update, asked, running, arrived, rfl⟩, named⟩
  | request now running opened => exact Or.inl rfl
  | host other step => exact Or.inl (unsent step.protocol.sent_states)
  | poll now =>
      left
      rcases ledger with cancelled | ⟨log, content, ledger⟩
      · have same : (before.poll lib now).2 = before := congrArg Prod.snd (poll_cancelled cancelled)
        rw [same]
      · obtain ⟨actions, output, polled⟩ := poll_succeeds (outcome ▸ succeeds rfl)
        exact polled.confirmed ledger

end Acknowledgement

section Run

variable {key : SessionKey} {start : MonotonicTime} {operations : List SessionOperation}

/-- The confirmed state of a run is the blank one or one that the server acknowledged. -/
theorem run_confirms (lawful : LawfulAead lib.aead)
    (succeed : PollsSucceed (trace (perform lib) (new lib.terminal key start) operations)) :
    confirmedState (final (perform lib) (new lib.terminal key start) operations).protocol = some 0 ∨
      ∃ event ∈ trace (perform lib) (new lib.terminal key start) operations, ∃ state,
        ReceivesAcknowledgement event state ∧
          confirmedState (final (perform lib) (new lib.terminal key start) operations).protocol =
            some state := by
  induction operations using List.reverseRecOn with
  | nil => exact Or.inl rfl
  | append_singleton operations operation induction =>
      obtain ⟨earlier, last⟩ := polls_succeed_append succeed
      have step := step_confirms (run_ledger lawful earlier) (last _ List.mem_cons_self)
      rw [final_concat]
      rcases step with same | ⟨state, receives, named⟩
      · rw [← same] at induction
        rcases induction earlier with blank | ⟨event, member, state, receives, named⟩
        · exact Or.inl blank
        · exact Or.inr ⟨event, (mem_trace_concat _ _ _ _ _).mpr (Or.inl member), state, receives,
            named⟩
      · exact Or.inr ⟨_, (mem_trace_concat _ _ _ _ _).mpr (Or.inr rfl), state, receives, named⟩

/-- A requested shutdown goes back to an accepted `request_shutdown`. -/
theorem requested_split (lawful : LawfulAead lib.aead)
    (succeed : PollsSucceed (trace (perform lib) (new lib.terminal key start) operations))
    (requested : ∃ startedAt transmissions,
      (final (perform lib) (new lib.terminal key start) operations).shutdown =
        .localRequested startedAt transmissions) :
    ∃ earlier now between, operations = earlier ++ .requestShutdown now :: between ∧
      (final (perform lib) (new lib.terminal key start) earlier).lifecycle = .running ∧
      (final (perform lib) (new lib.terminal key start) earlier).shutdown = .open := by
  induction operations using List.reverseRecOn with
  | nil =>
      obtain ⟨startedAt, transmissions, state⟩ := requested
      cases state
  | append_singleton operations operation induction =>
      obtain ⟨first, _⟩ := polls_succeed_append succeed
      have step := (event_handshake lawful succeed
        ((mem_trace_concat _ _ _ _ _).mpr (Or.inr rfl))).2
      have grows : (∃ startedAt transmissions,
          (final (perform lib) (new lib.terminal key start) operations).shutdown =
            .localRequested startedAt transmissions) →
          ∃ earlier now between,
            operations ++ [operation] = earlier ++ .requestShutdown now :: between ∧
              (final (perform lib) (new lib.terminal key start) earlier).lifecycle = .running ∧
              (final (perform lib) (new lib.terminal key start) earlier).shutdown = .open := by
        intro already
        rcases induction first already with ⟨earlier, now, between, split, facts⟩
        exact ⟨earlier, now, between ++ [operation], by rw [split]; simp, facts⟩
      rw [final_concat] at requested
      cases state : (final (perform lib) (new lib.terminal key start) operations).shutdown with
      | «open» =>
          rcases step.starts state requested with ⟨running, now, same⟩
          change operation = .requestShutdown now at same
          exact ⟨operations, now, [], by rw [same], running, state⟩
      | localRequested startedAt transmissions => exact grows ⟨startedAt, transmissions, state⟩
      | _ =>
          have move := step.move
          obtain ⟨startedAt, transmissions, reached⟩ := requested
          change ShutdownMove (final (perform lib) (new lib.terminal key start) operations).shutdown
            (perform lib (final (perform lib) (new lib.terminal key start) operations)
              operation).2.shutdown at move
          rw [state, reached] at move
          cases move

theorem closed_rejects {terminal : Terminal} {runtime : SessionRuntime terminal}
    (closed : runtime.shutdown ≠ .open) : ∃ error, runtime.ensureAcceptingInput = .error error := by
  unfold ensureAcceptingInput
  split
  · exact ⟨_, rfl⟩
  · rw [if_pos closed]
    exact ⟨_, rfl⟩

theorem closed_step_entries {runtime : SessionRuntime lib.terminal} (closed : runtime.shutdown ≠ .open)
    (log : InputLog) (operation : SessionOperation) :
    (logStep log (stepAt (perform lib) runtime operation)).entries = log.entries := by
  rcases closed_rejects closed with ⟨error, rejects⟩
  exact rejecting_step_entries rejects log operation

theorem closed_run_entries {runtime : SessionRuntime lib.terminal} (closed : runtime.shutdown ≠ .open)
    (steps : HandshakeSteps (trace (perform lib) runtime operations)) (log : InputLog) :
    (logOf log (trace (perform lib) runtime operations)).entries = log.entries := by
  induction operations generalizing runtime log with
  | nil => rfl
  | cons operation rest induction =>
      have later : HandshakeSteps (trace (perform lib) (perform lib runtime operation).2 rest) :=
        fun event member => steps event (List.mem_cons_of_mem _ member)
      have still : (perform lib runtime operation).2.shutdown ≠ .open :=
        still_closed (steps _ List.mem_cons_self).2.move closed
      change (logOf (logStep log _) (trace (perform lib) (perform lib runtime operation).2 rest)).entries = _
      rw [induction still later]
      exact closed_step_entries closed log operation

end Run

end SessionRuntime

end FerrumTty.Runtime
