import FerrumTty.Runtime.Endings
import FerrumTty.Runtime.LocalInput
import FerrumTty.Runtime.LocalShutdown
import Mathlib.Data.Set.Basic
import Mathlib.Logic.Relation

/-!
# Both ends of a connection

The session and the peer that it sends to, with every message of the session in flight from the
moment it was sent. The peer takes messages in any order and any number of times, acknowledges
states that it came to hold, and forgets what the messages tell it to discard. Whatever the order
of steps, the peer holds the confirmed state, and what the session has let go of is in it.
-/

namespace FerrumTty.Runtime

set_option autoImplicit false

open Crypto Wire State Session Runs

/-- The session with its log, the messages it sent so far, the states that the peer holds and the
numbers of those that it ever held. -/
structure BothEnds (lib : Libraries) where
  runtime : SessionRuntime lib.terminal
  log : InputLog
  sent : List (List Bytes)
  holdings : StateSync.Holdings UInt64 Instruction
  known : Set UInt64

namespace BothEnds

variable {lib : Libraries}

def start (lib : Libraries) (key : SessionKey) (now : MonotonicTime) : BothEnds lib where
  runtime := .new lib.terminal key now
  log := ⟨[], []⟩
  sent := []
  holdings := StateSync.initial 0
  known := {0}

def call (ends : BothEnds lib) (operation : SessionOperation) : BothEnds lib :=
  let event := stepAt (SessionRuntime.perform lib) ends.runtime operation
  { ends with
    runtime := event.after
    log := SessionRuntime.logStep ends.log event
    sent := ends.sent ++ messages event.output.actions }

/-- A call of the session, or the arrival of one of its messages at the peer. No update that the
session receives acknowledges a state that the peer never held. -/
inductive Step (key : SessionKey) (ends : BothEnds lib) : BothEnds lib → Prop
  | call (operation : SessionOperation) (kept : operation ≠ .cancel)
      (succeeds : operation.isPoll = true →
        (stepAt (SessionRuntime.perform lib) ends.runtime operation).output.isError = false)
      (honest : ∀ state, SessionRuntime.ReceivesAcknowledgement
        (stepAt (SessionRuntime.perform lib) ends.runtime operation) state → state ∈ ends.known) :
      Step key ends (ends.call operation)
  | arrival (packets : List Bytes) (update : StateUpdate) (batch : InstructionBatch)
      (holdings : StateSync.Holdings UInt64 Instruction) (listed : packets ∈ ends.sent)
      (carries : ClientProtocol.Carries lib key packets update batch)
      (forgets : StateSync.Forgets update.discardBefore
        (StateSync.receive ends.holdings (SessionRuntime.differenceOf update batch)) holdings) :
      Step key ends { ends with
        holdings
        known := ends.known ∪ { number | (holdings number).isSome } }

abbrev Steps (key : SessionKey) : BothEnds lib → BothEnds lib → Prop :=
  Relation.ReflTransGen (Step key)

end BothEnds

namespace SessionRuntime

variable {lib : Libraries} {key : SessionKey}

section Discards

theorem outgoing_discards {terminal : Terminal} {protocol : ClientProtocol terminal}
    {operation : ProtocolOperation} {update : StateUpdate} {stateId : UInt64}
    (out : protocol.outgoing operation = some (update, stateId)) :
    confirmedState protocol = some update.discardBefore := by
  unfold confirmedState
  cases ClientProtocol.outgoing_cases out with
  | association _ first last => rw [first]; rfl
  | acknowledgement _ first last => rw [first]; rfl
  | update _ _ first last room => rw [first]; rfl
  | shutdown _ _ first last unsent => rw [first]; rfl
  | retransmission _ first last pending => rw [first]; rfl
  | shutdownAck _ acknowledged =>
      unfold ClientProtocol.localShutdownAcknowledged at acknowledged
      cases front : protocol.sentStates.head? with
      | none =>
          rw [front] at acknowledged
          cases acknowledged
      | some confirmed =>
          rw [front] at acknowledged
          exact congrArg some (of_decide_eq_true acknowledged)

/-- The messages tell the peer to discard what lies before the state confirmed now. -/
def DiscardsAt {terminal : Terminal} (lib : Libraries) (key : SessionKey)
    (protocol : ClientProtocol terminal) (groups : List (List Bytes)) : Prop :=
  ∀ packets ∈ groups, ∀ update batch, ClientProtocol.Carries lib key packets update batch →
    confirmedState protocol = some update.discardBefore

variable {protocol protocol' : ClientProtocol lib.terminal} {operation : ProtocolOperation}
  {packets : List Bytes}

theorem performed_messages (lawful : LawfulAead lib.aead)
    (seals : ClientProtocol.SealsWith key protocol)
    (performed : protocol.perform lib operation = (.packets (.ok packets), protocol'))
    (event : DiagnosticEvent) {rest : List SessionAction} (quiet : Silent rest) :
    messages (sendActions packets ++ .diagnostic event :: rest) = [packets] := by
  obtain ⟨update, batch, carries, _⟩ := ClientProtocol.perform_message lawful seals
    (congrArg Prod.fst performed)
  obtain ⟨packet, others, listed⟩ := carries.nonempty
  rw [listed, messages_send, quiet.messages]

theorem performed_discards (lawful : LawfulLibraries lib)
    (seals : ClientProtocol.SealsWith key protocol)
    (performed : protocol.perform lib operation = (.packets (.ok packets), protocol')) :
    DiscardsAt lib key protocol [packets] := by
  intro group member update batch carries
  rw [List.mem_singleton.mp member] at carries
  obtain ⟨known, stateId, out, carried⟩ := ClientProtocol.perform_carries lawful.aead seals
    (congrArg Prod.fst performed)
  obtain ⟨_, knownBatch, written⟩ := ClientProtocol.outgoing_message out
  rw [(carries.unique lawful.codec (carried knownBatch written)).1]
  exact outgoing_discards out

theorem DiscardsAt.of_confirmed {terminal other : Terminal} {first : ClientProtocol terminal}
    {second : ClientProtocol other} {groups : List (List Bytes)}
    (discards : DiscardsAt lib key first groups)
    (same : confirmedState first = confirmedState second) : DiscardsAt lib key second groups := by
  intro packets member update batch carries
  rw [← same]
  exact discards packets member update batch carries

theorem no_messages_discard {terminal : Terminal} (protocol : ClientProtocol terminal) :
    DiscardsAt lib key protocol [] := by
  intro packets member
  cases member

variable {before middle after : SessionRuntime lib.terminal} {now : MonotonicTime}
  {log : InputLog} {content : UInt64 → List Instruction}

theorem AssociationOutcome.discards (lawful : LawfulLibraries lib)
    (ledger : Ledger key before log content) {opening : List SessionAction}
    (association : AssociationOutcome lib before now (.ok opening, middle)) :
    DiscardsAt lib key before.protocol (messages opening) := by
  cases association with
  | kept opened => exact no_messages_discard before.protocol
  | opened packets protocol event due performed =>
      rw [performed_messages lawful.aead ledger.seals performed event silent_nil]
      exact performed_discards lawful ledger.seals performed

theorem SendOutcome.discards (lawful : LawfulLibraries lib)
    (seals : ClientProtocol.SealsWith key before.protocol) {sent : List SessionAction}
    (sending : SendOutcome lib before now (.ok sent, after)) :
    DiscardsAt lib key before.protocol (messages sent) := by
  cases sending with
  | waited waits => exact no_messages_discard before.protocol
  | sent operation queue packets event _ sends choice performed =>
      have completion : Silent before.peerCompletion := by
        unfold peerCompletion
        split_ifs <;> simp [Silent, isDatagram]
      rw [performed_messages lawful.aead seals performed event completion]
      exact performed_discards lawful seals performed

theorem PollOutcome.discards (lawful : LawfulLibraries lib)
    (ledger : Ledger key before log content) {actions : List SessionAction}
    (polled : PollOutcome lib before now (.ok actions, after)) :
    DiscardsAt lib key before.protocol (messages actions) := by
  cases polled with
  | idle stopped => exact no_messages_discard before.protocol
  | ended opening middle outcome running incomplete association ends =>
      exact no_messages_discard before.protocol
  | went opening sent middle after running incomplete association goesOn sending =>
      obtain ⟨_, apart⟩ := association.advance lawful.aead ledger
      rw [List.append_assoc, apart,
        messages_silent_append (connection_notes_plain middle now).silent]
      have opened := association.discards lawful ledger
      have reached := (association.reached goesOn).protocol
      have seals := association.seals_reached lawful.aead ledger.seals
      have sentNow := sending.discards lawful seals
      intro packets member
      rcases List.mem_append.mp member with early | late
      · exact opened packets early
      · apply sentNow.of_confirmed _ packets late
        obtain ⟨channel, same⟩ := reached
        rw [same]
        rfl

end Discards

section Confirmation

variable {before : SessionRuntime lib.terminal} {log : InputLog}
  {content : UInt64 → List Instruction} {sent : List Instruction} {confirmed : UInt64}

theorem in_flight_confirmed {terminal : Terminal} {protocol : ClientProtocol terminal}
    (inFlight : protocol.InFlight content sent) :
    ∃ confirmed, confirmedState protocol = some confirmed ∧
      content confirmed ++ protocol.localInstructions = sent := by
  cases inFlight with
  | settled confirmed states drained all =>
      refine ⟨confirmed, by rw [confirmedState, states]; rfl, ?_⟩
      rw [drained, List.append_nil, all]
  | waiting confirmed latest states newer grown all =>
      exact ⟨confirmed, by rw [confirmedState, states]; rfl, grown.trans all⟩

theorem acknowledgement_confirmed_le {terminal : Terminal} {protocol : ClientProtocol terminal}
    (inFlight : protocol.InFlight content sent)
    (named : confirmedState protocol = some confirmed) (acknowledgedState : UInt64) :
    ∃ later, confirmedState (protocol.processAcknowledgement acknowledgedState) = some later ∧
      confirmed ≤ later := by
  rcases acknowledgement_confirms protocol acknowledgedState with same | moved
  · exact ⟨confirmed, same.trans named, UInt64.le_refl _⟩
  · refine ⟨acknowledgedState, moved, ?_⟩
    cases inFlight with
    | settled oldest states drained all =>
        rw [confirmedState, states] at named
        cases named
        by_cases here : oldest = acknowledgedState
        · exact here ▸ UInt64.le_refl _
        · rw [ClientProtocol.acknowledgement_unknown (by simpa [states] using here), confirmedState,
            states] at moved
          exact absurd (Option.some.inj moved) here
    | waiting oldest latest states newer grown all =>
        rw [confirmedState, states] at named
        cases named
        by_cases here : oldest = acknowledgedState
        · exact here ▸ UInt64.le_refl _
        · by_cases newest : latest = acknowledgedState
          · exact newest ▸ UInt64.le_of_lt newer
          · rw [ClientProtocol.acknowledgement_unknown (by simpa [states] using ⟨here, newest⟩),
              confirmedState, states] at moved
            exact absurd (Option.some.inj moved) here

theorem settles_confirmed_le {terminal : Terminal} {protocol after : ClientProtocol terminal}
    (inFlight : protocol.InFlight content sent) (settles : ClientProtocol.Settles protocol after)
    (named : confirmedState protocol = some confirmed) :
    ∃ later, confirmedState after = some later ∧ confirmed ≤ later := by
  rcases settles.history with same | ⟨acknowledgedState, same⟩
  · exact ⟨confirmed, (confirmed_of_same_sent same).trans named, UInt64.le_refl _⟩
  · rw [confirmed_of_same_sent same]
    exact acknowledgement_confirmed_le inFlight named acknowledgedState

theorem step_confirmed (lawful : LawfulLibraries lib) (ledger : Ledger key before log content)
    (named : confirmedState before.protocol = some confirmed) {operation : SessionOperation}
    (succeeds : operation.isPoll = true →
      (stepAt (perform lib) before operation).output.isError = false) :
    (∃ later, confirmedState (stepAt (perform lib) before operation).after.protocol = some later ∧
      confirmed ≤ later) ∧
      DiscardsAt lib key before.protocol
        (messages (stepAt (perform lib) before operation).output.actions) := by
  rcases step_cases lib before operation with ⟨output, after, outcome, kind⟩
  rw [outcome] at succeeds ⊢
  have unsent {later : SessionRuntime lib.terminal}
      (same : later.protocol.sentStates = before.protocol.sentStates) :
      ∃ number, confirmedState later.protocol = some number ∧ confirmed ≤ number :=
    ⟨confirmed, by rw [confirmedState, same]; exact named, UInt64.le_refl _⟩
  cases kind with
  | receive packet now asked plain =>
      refine ⟨settles_confirmed_le ledger.outbox.inFlight
        (receive_datagram_receives lib before packet now).settles named, ?_⟩
      dsimp only
      rw [plain.silent.messages]
      exact no_messages_discard before.protocol
  | request now running opened => exact ⟨unsent rfl, no_messages_discard before.protocol⟩
  | host other step =>
      refine ⟨unsent step.protocol.sent_states, ?_⟩
      dsimp only
      rw [step.plain.silent.messages]
      exact no_messages_discard before.protocol
  | poll now =>
      obtain ⟨actions, output, polled⟩ := poll_succeeds (outcome ▸ succeeds rfl)
      rw [outcome] at output polled
      refine ⟨⟨confirmed, polled.confirmed ledger |>.trans named, UInt64.le_refl _⟩, ?_⟩
      dsimp only at output ⊢
      rw [output]
      exact polled.discards lawful ledger

end Confirmation

end SessionRuntime

namespace BothEnds

variable {lib : Libraries} {key : SessionKey} {ends next : BothEnds lib}
  {content : UInt64 → List Instruction} {confirmed : UInt64}

/-- The two ends agree: every message is explained by the contents and discards nothing from the
confirmed state on, and the peer holds contents, the confirmed one and all that it knew since. -/
structure Agree (key : SessionKey) (ends : BothEnds lib) (content : UInt64 → List Instruction)
    (confirmed : UInt64) : Prop where
  ledger : SessionRuntime.Ledger key ends.runtime ends.log content
  named : SessionRuntime.confirmedState ends.runtime.protocol = some confirmed
  explained : ∀ packets ∈ ends.sent, ∃ update batch,
    ClientProtocol.Carries lib key packets update batch ∧
      ends.runtime.protocol.Explained content update batch
  discards : ∀ packets ∈ ends.sent, ∀ update batch,
    ClientProtocol.Carries lib key packets update batch → update.discardBefore ≤ confirmed
  held : ∀ number entries, ends.holdings number = some entries →
    ends.runtime.protocol.Issued number ∧ entries = content number
  known : ∀ number ∈ ends.known, confirmed ≤ number → (ends.holdings number).isSome
  acknowledged : confirmed ∈ ends.known

/-- A number that was issued stands for what it stood for. -/
def Onward (ends next : BothEnds lib) (content later : UInt64 → List Instruction) : Prop :=
  ∀ number, ends.runtime.protocol.Issued number →
    next.runtime.protocol.Issued number ∧ later number = content number

theorem start_agrees (key : SessionKey) (now : MonotonicTime) :
    Agree key (start lib key now) (fun _ => []) 0 where
  ledger := SessionRuntime.new_ledger lib key now
  named := rfl
  explained := by
    intro packets member
    cases member
  discards := by
    intro packets member
    cases member
  held := by
    intro number entries found
    by_cases here : number = 0
    · rw [here]
      refine ⟨Or.inl (UInt64.lt_iff_toNat_lt.mpr Nat.one_pos), ?_⟩
      change StateSync.initial 0 number = some entries at found
      rw [here, StateSync.initial, Function.update_self] at found
      exact (Option.some.inj found).symm
    · change StateSync.initial 0 number = some entries at found
      rw [StateSync.initial, Function.update_of_ne here] at found
      cases found
  known := by
    intro number member _
    rw [Set.mem_singleton_iff.mp member]
    rfl
  acknowledged := Set.mem_singleton 0

theorem Agree.call (lawful : LawfulLibraries lib) (agree : Agree key ends content confirmed)
    {operation : SessionOperation} (kept : operation ≠ .cancel)
    (succeeds : operation.isPoll = true →
      (stepAt (SessionRuntime.perform lib) ends.runtime operation).output.isError = false)
    (honest : ∀ state, SessionRuntime.ReceivesAcknowledgement
      (stepAt (SessionRuntime.perform lib) ends.runtime operation) state → state ∈ ends.known) :
    ∃ later number, Agree key (ends.call operation) later number ∧
      Onward ends (ends.call operation) content later := by
  obtain ⟨later, advance⟩ := SessionRuntime.step_advance lawful.aead agree.ledger kept succeeds
  obtain ⟨⟨number, named, grown⟩, discards⟩ :=
    SessionRuntime.step_confirmed lawful agree.ledger agree.named succeeds
  have acknowledged : number ∈ ends.known := by
    rcases SessionRuntime.step_confirms (Or.inr ⟨_, _, agree.ledger⟩) succeeds with
      same | ⟨state, receives, moved⟩
    · have kept : confirmed = number := by
        rw [named, agree.named] at same
        exact (Option.some.inj same).symm
      exact kept ▸ agree.acknowledged
    · rw [named] at moved
      exact Option.some.inj moved ▸ honest state receives
  refine ⟨later, number, ⟨advance.ledger, named, ?_, ?_, ?_, ?_, acknowledged⟩,
    fun other issued => ⟨advance.issued other issued, advance.agree other issued⟩⟩
  · intro packets member
    rcases List.mem_append.mp member with early | late
    · obtain ⟨update, batch, carries, explained⟩ := agree.explained packets early
      exact ⟨update, batch, carries, explained.later advance.agree advance.issued⟩
    · exact advance.explained packets late
  · intro packets member update batch carries
    rcases List.mem_append.mp member with early | late
    · exact UInt64.le_trans (agree.discards packets early update batch carries) grown
    · have floor := discards packets late update batch carries
      rw [agree.named] at floor
      exact Option.some.inj floor ▸ grown
  · intro other entries found
    obtain ⟨issued, same⟩ := agree.held other entries found
    exact ⟨advance.issued other issued, same.trans (advance.agree other issued).symm⟩
  · intro other member above
    exact agree.known other member (UInt64.le_trans grown above)

theorem Agree.arrival (lawful : LawfulLibraries lib) (agree : Agree key ends content confirmed)
    {packets : List Bytes} {update : StateUpdate} {batch : InstructionBatch}
    {holdings : StateSync.Holdings UInt64 Instruction} (listed : packets ∈ ends.sent)
    (carries : ClientProtocol.Carries lib key packets update batch)
    (forgets : StateSync.Forgets update.discardBefore
      (StateSync.receive ends.holdings (SessionRuntime.differenceOf update batch)) holdings) :
    Agree key { ends with
      holdings
      known := ends.known ∪ { number | (holdings number).isSome } } content confirmed := by
  have floor := agree.discards packets listed update batch carries
  obtain ⟨known, knownBatch, carried, explained⟩ := agree.explained packets listed
  obtain ⟨sameUpdate, sameBatch⟩ := carried.unique lawful.codec carries
  rw [sameUpdate, sameBatch] at explained
  refine ⟨agree.ledger, agree.named, agree.explained, agree.discards, ?_, ?_, Or.inl agree.acknowledged⟩
  · intro number entries found
    have received := forgets.found found
    have issued : ends.runtime.protocol.Issued number := by
      rcases StateSync.receive_found received with already | target
      · exact (agree.held number entries already).1
      · exact target ▸ explained.target
    refine ⟨issued, ?_⟩
    have labelled : StateSync.Labelled content ends.holdings :=
      fun other held found => (agree.held other held found).2
    have respects : (SessionRuntime.differenceOf update batch).Respects content := explained.respects
    exact StateSync.receive_labelled labelled respects number entries received
  · intro number member above
    rcases member with before | now
    · obtain ⟨entries, found⟩ := Option.isSome_iff_exists.mp (agree.known number before above)
      change (holdings number).isSome
      have outside : ¬ number < update.discardBefore :=
        UInt64.not_lt.mpr (UInt64.le_trans floor above)
      rw [forgets.kept outside, StateSync.receive_keeps _ found]
      rfl
    · exact now

theorem Agree.step (lawful : LawfulLibraries lib) (agree : Agree key ends content confirmed)
    (step : Step key ends next) :
    ∃ later number, Agree key next later number ∧ Onward ends next content later := by
  cases step with
  | call operation kept succeeds honest => exact agree.call lawful kept succeeds honest
  | arrival packets update batch holdings listed carries forgets =>
      exact ⟨content, confirmed, agree.arrival lawful listed carries forgets,
        fun number issued => ⟨issued, rfl⟩⟩

theorem Agree.steps (lawful : LawfulLibraries lib) (agree : Agree key ends content confirmed)
    (steps : Steps key ends next) :
    ∃ later number, Agree key next later number ∧ Onward ends next content later := by
  induction steps with
  | refl => exact ⟨content, confirmed, agree, fun number issued => ⟨issued, rfl⟩⟩
  | tail _ step induction =>
      obtain ⟨middle, _, agreeMiddle, onward⟩ := induction
      obtain ⟨later, number, agreeLater, further⟩ := agreeMiddle.step lawful step
      refine ⟨later, number, agreeLater, fun other issued => ?_⟩
      obtain ⟨kept, same⟩ := onward other issued
      obtain ⟨stays, still⟩ := further other kept
      exact ⟨stays, still.trans same⟩

theorem steps_agree (lawful : LawfulLibraries lib) {now : MonotonicTime}
    (steps : Steps key (start lib key now) ends) :
    ∃ content confirmed, Agree key ends content confirmed := by
  obtain ⟨content, confirmed, agree, _⟩ := (start_agrees key now).steps lawful steps
  exact ⟨content, confirmed, agree⟩

/-- What the session has let go of is at the peer: the confirmed state that the peer holds, what the
session keeps to send again and what waits in its queue are everything that was accepted. -/
theorem peer_holds_what_is_let_go (lawful : LawfulLibraries lib) (key : SessionKey)
    (now : MonotonicTime) (ends : BothEnds lib) (steps : Steps key (start lib key now) ends) :
    (∃ confirmed held, SessionRuntime.confirmedState ends.runtime.protocol = some confirmed ∧
      ends.holdings confirmed = some held ∧
      held ++ ends.runtime.protocol.localInstructions ++ ends.runtime.queuedInstructions =
        ends.log.entries) ∧
      ∀ number held, ends.holdings number = some held → held <+: ends.log.entries := by
  obtain ⟨content, confirmed, agree⟩ := steps_agree lawful steps
  constructor
  · obtain ⟨entries, found⟩ := Option.isSome_iff_exists.mp
      (agree.known confirmed agree.acknowledged (UInt64.le_refl _))
    obtain ⟨number, named, all⟩ := SessionRuntime.in_flight_confirmed agree.ledger.outbox.inFlight
    have here : number = confirmed := by
      rw [agree.named] at named
      exact (Option.some.inj named).symm
    refine ⟨confirmed, entries, agree.named, found, ?_⟩
    rw [(agree.held confirmed entries found).2, ← here, all, agree.ledger.queue]
    rfl
  · intro number held found
    rw [(agree.held number held found).2]
    exact (agree.ledger.outbox.within number).trans (List.prefix_append _ _)

/-- An arrival after which the peer forgets nothing. -/
def deliver (ends : BothEnds lib) (update : StateUpdate) (batch : InstructionBatch) : BothEnds lib :=
  let holdings := StateSync.receive ends.holdings (SessionRuntime.differenceOf update batch)
  { ends with
    holdings
    known := ends.known ∪ { number | (holdings number).isSome } }

theorem Step.deliver {packets : List Bytes} {update : StateUpdate} {batch : InstructionBatch}
    (listed : packets ∈ ends.sent) (carries : ClientProtocol.Carries lib key packets update batch) :
    Step key ends (ends.deliver update batch) :=
  .arrival packets update batch _ listed carries fun _ => Or.inl rfl

theorem Step.receive {packet : Bytes} {now : MonotonicTime} {update : StateUpdate}
    (completes : ends.runtime.protocol.packetUpdate lib packet = some update)
    (known : update.acknowledgedState ∈ ends.known) :
    Step key ends (ends.call (.receiveDatagram packet now)) := by
  apply Step.call (.receiveDatagram packet now) (by simp) (fun polls => by cases polls)
  rintro state ⟨other, time, arrived, asked | asked, running, completed, names⟩
  · cases asked
    change ends.runtime.protocol.packetUpdate lib packet = some arrived at completed
    rw [completes] at completed
    cases completed
    exact names ▸ known
  · cases asked

theorem few_carried {packets : List Bytes} {update : StateUpdate} {batch : InstructionBatch}
    (sentTimestamp echoedTimestamp : UInt16) (stateId : UInt64)
    (version : update.protocolVersion = PROTOCOL_VERSION) (written : update.delta = batch.encodeBytes)
    (few : Fragment.chunkCount (STORED_HEADER ++ update.encode) ≤ 2 ^ 15)
    (opened : List.Forall₂ (ClientProtocol.OpensAs plainLibraries.aead (.new .server zeroKey)) packets
      (Fragment.pieces (STORED_HEADER ++ update.encode) sentTimestamp echoedTimestamp stateId)) :
    ClientProtocol.Carries plainLibraries zeroKey packets update batch := by
  refine ⟨written, STORED_HEADER ++ update.encode, sentTimestamp, echoedTimestamp, stateId, _, ?_,
    ?_, opened⟩
  · rw [encodeCompressedUpdate, if_neg (not_not.mpr version)]
    rfl
  · rw [Fragment.split_eq, if_pos few]

theorem Step.quiet {operation : SessionOperation} (kept : operation ≠ .cancel)
    (silent : ∀ packet now, operation ≠ .receiveDatagram packet now ∧
      operation ≠ .receiveDatagramLossy packet now)
    (succeeds : operation.isPoll = true →
      (stepAt (SessionRuntime.perform lib) ends.runtime operation).output.isError = false) :
    Step key ends (ends.call operation) := by
  apply Step.call operation kept succeeds
  rintro state ⟨packet, now, update, asked | asked, _⟩
  · exact absurd asked (silent packet now).1
  · exact absurd asked (silent packet now).2

/-- Two letters, each in an update of its own. -/
def letterBatch (letter : UInt8) : InstructionBatch := ⟨[SessionRuntime.bytesInstruction [letter]]⟩

def firstLetter : StateUpdate := { StateUpdate.new 0 1 0 with delta := (letterBatch 0x6c).encodeBytes }

def secondLetter : StateUpdate :=
  { StateUpdate.new 1 2 1 with
    discardBefore := 1
    delta := (letterBatch 0x73).encodeBytes }

/-- What the server answers to the first letter and to the second. -/
def firstAnswer : StateUpdate := { hostBytesUpdate 0 1 [0x24] with acknowledgedState := 1 }

def secondAnswer : StateUpdate := { hostBytesUpdate 1 2 [0x23] with acknowledgedState := 2 }

def answerAt (index : Nat) : SessionOperation :=
  .receiveDatagram ((plainPackets [firstAnswer, secondAnswer]).getD index []) ⟨1100⟩

def sentEnds : BothEnds plainLibraries :=
  ((start plainLibraries zeroKey ⟨0⟩).call (.queueInput [0x6c])).call (.poll ⟨0⟩)

/-- The first letter is at the peer, and the second waits in the queue. -/
def typedEnds : BothEnds plainLibraries :=
  (sentEnds.deliver firstLetter (letterBatch 0x6c)).call (.queueInput [0x73])

def answeredEnds : BothEnds plainLibraries := typedEnds.call (answerAt 0)

theorem typed_steps : Steps zeroKey (start plainLibraries zeroKey ⟨0⟩) typedEnds := by
  have queued : Step zeroKey (start plainLibraries zeroKey ⟨0⟩) (.call _ (.queueInput [0x6c])) :=
    .quiet (by simp) (by simp) (by simp [SessionOperation.isPoll])
  have sent : Step zeroKey _ sentEnds := .quiet (by simp) (by simp) (fun _ => by decide +kernel)
  have carried : ClientProtocol.Carries plainLibraries zeroKey
      (sentEnds.sent.getLast (by decide +kernel)) firstLetter (letterBatch 0x6c) :=
    few_carried 0 NO_ECHO_TIMESTAMP 1 rfl rfl (by decide +kernel)
      (.cons ⟨1, by decide +kernel⟩ .nil)
  have delivered : Step zeroKey sentEnds _ := .deliver (List.getLast_mem _) carried
  have typed : Step zeroKey _ typedEnds :=
    .quiet (by simp) (by simp) (by simp [SessionOperation.isPoll])
  exact (((Relation.ReflTransGen.single queued).tail sent).tail delivered).tail typed

theorem answered_step : Step zeroKey typedEnds answeredEnds := by
  have completes : typedEnds.runtime.protocol.packetUpdate plainLibraries
      ((plainPackets [firstAnswer, secondAnswer]).getD 0 []) = some firstAnswer := by decide +kernel
  exact .receive completes (Or.inr rfl)

/-- The first letter has left the session, and the second one waits. -/
theorem first_letter_let_go :
    answeredEnds.runtime.protocol.localInstructions = [] ∧
    answeredEnds.runtime.queuedInstructions = (letterBatch 0x73).instructions ∧
    ∃ confirmed held,
      SessionRuntime.confirmedState answeredEnds.runtime.protocol = some confirmed ∧
      answeredEnds.holdings confirmed = some held ∧
      held ++ answeredEnds.runtime.protocol.localInstructions ++
        answeredEnds.runtime.queuedInstructions = answeredEnds.log.entries :=
  ⟨by decide +kernel, by decide +kernel, (peer_holds_what_is_let_go lawful_plain_libraries zeroKey ⟨0⟩
    answeredEnds (typed_steps.tail answered_step)).1⟩

end BothEnds

end FerrumTty.Runtime
