import FerrumTty.Session.Carried

/-!
# The send history

What each building method and each acknowledgement does to the numbered states and the
instructions that the client has sent, and the contents those numbers stand for while at
most one state is in flight.
-/

namespace FerrumTty.Session

set_option autoImplicit false

open Crypto Wire State Runs

/-- The building methods that record no new state. -/
def ProtocolOperation.keepsHistory : ProtocolOperation → Bool
  | .buildAssociation _ => true
  | .buildAcknowledgement _ => true
  | .buildShutdownAck _ => true
  | .retransmitPending _ => true
  | _ => false

namespace ClientProtocol

def withChannel {terminal : Terminal} (protocol : ClientProtocol terminal)
    (secureChannel : SecureChannel) : ClientProtocol terminal :=
  { protocol with secureChannel }

section Recorded

variable {lib : Libraries} {protocol after : ClientProtocol lib.terminal}

theorem seal_update_after {sentTimestamp : UInt16} {update : StateUpdate} {stateId : UInt64}
    {result : Except SessionError (List Bytes)}
    (sealed : protocol.sealUpdate lib sentTimestamp update stateId = (result, after)) :
    ∃ channel, after = protocol.withChannel channel := by
  obtain ⟨counter, moved⟩ := seal_update_frame lib protocol sentTimestamp update stateId
  rw [sealed] at moved
  exact ⟨_, moved⟩

theorem build_acknowledgement_after {sentTimestamp : UInt16}
    {result : Except SessionError (List Bytes)}
    (built : protocol.buildAcknowledgement lib sentTimestamp = (result, after)) :
    ∃ channel, after = protocol.withChannel channel := by
  unfold buildAcknowledgement at built
  split at built
  · exact seal_update_after built
  · cases built
    exact ⟨protocol.secureChannel, rfl⟩

theorem retransmit_pending_after {sentTimestamp : UInt16}
    {result : Except SessionError (List Bytes)}
    (built : protocol.retransmitPending lib sentTimestamp = (result, after)) :
    ∃ channel, after = protocol.withChannel channel := by
  unfold retransmitPending at built
  split_ifs at built
  · cases built
    exact ⟨protocol.secureChannel, rfl⟩
  · split at built
    · exact seal_update_after built
    · cases built
      exact ⟨protocol.secureChannel, rfl⟩

theorem build_shutdown_ack_after {sentTimestamp : UInt16}
    {result : Except SessionError (List Bytes)}
    (built : protocol.buildShutdownAck lib sentTimestamp = (result, after)) :
    ∃ channel, after = protocol.withChannel channel := by
  unfold buildShutdownAck at built
  split_ifs at built
  · cases built
    exact ⟨protocol.secureChannel, rfl⟩
  · exact seal_update_after built

theorem perform_keeps {operation : ProtocolOperation} {output : ProtocolOutput}
    (keeps : operation.keepsHistory = true)
    (performed : protocol.perform lib operation = (output, after)) :
    ∃ channel, after = protocol.withChannel channel := by
  have moved : after = (protocol.perform lib operation).2 := by rw [performed]
  cases operation with
  | buildAssociation sentTimestamp =>
      rw [moved]
      exact build_acknowledgement_after rfl
  | buildAcknowledgement sentTimestamp =>
      rw [moved]
      exact build_acknowledgement_after rfl
  | buildShutdownAck sentTimestamp =>
      rw [moved]
      exact build_shutdown_ack_after rfl
  | retransmitPending sentTimestamp =>
      rw [moved]
      exact retransmit_pending_after rfl
  | _ => cases keeps

theorem build_state_update_after {sentTimestamp : UInt16} {instructions : InstructionBatch}
    {targetState : UInt64} {packets : List Bytes}
    (built : protocol.buildStateUpdate lib sentTimestamp instructions targetState =
      (.ok packets, after)) :
    ∃ channel, after = (protocol.withChannel channel).recordSentState instructions targetState := by
  unfold buildStateUpdate at built
  split at built
  · rename_i front back first last
    cases sealed : protocol.sealUpdate lib sentTimestamp
        (protocol.stateUpdate front back instructions targetState) targetState with
    | mk result next =>
        rw [sealed] at built
        cases result with
        | error error => cases built
        | ok written =>
            obtain ⟨channel, moved⟩ := seal_update_after sealed
            cases built
            exact ⟨channel, by rw [moved]⟩
  · cases built

theorem build_update_after {sentTimestamp : UInt16} {instructions : InstructionBatch}
    {packets : List Bytes}
    (built : protocol.buildUpdate lib sentTimestamp instructions = (.ok packets, after)) :
    protocol.nextLocalState ≠ MAXIMUM_STATE ∧ ∃ channel,
      after = { (protocol.withChannel channel).recordSentState instructions
        protocol.nextLocalState with nextLocalState := protocol.nextLocalState + 1 } := by
  unfold buildUpdate at built
  dsimp only at built
  split_ifs at built with exhausted
  · cases built
  · cases sealed : protocol.buildStateUpdate lib sentTimestamp instructions
        protocol.nextLocalState with
    | mk result next =>
        rw [sealed] at built
        cases result with
        | error error => cases built
        | ok written =>
            obtain ⟨channel, moved⟩ := build_state_update_after sealed
            cases built
            exact ⟨exhausted, channel, by rw [moved]⟩

theorem build_shutdown_after {sentTimestamp : UInt16} {instructions : InstructionBatch}
    {packets : List Bytes}
    (built : protocol.buildShutdown lib sentTimestamp instructions = (.ok packets, after)) :
    protocol.localShutdownSent = false ∧ ∃ channel,
      after = (protocol.withChannel channel).recordSentState instructions MAXIMUM_STATE := by
  unfold buildShutdown at built
  split_ifs at built with sent
  · cases built
  · exact ⟨Bool.eq_false_iff.mpr sent, build_state_update_after built⟩

theorem perform_update_after {sentTimestamp : UInt16} {instructions : InstructionBatch}
    {packets : List Bytes}
    (performed : protocol.perform lib (.buildUpdate sentTimestamp instructions) =
      (.packets (.ok packets), after)) :
    protocol.nextLocalState ≠ MAXIMUM_STATE ∧ ∃ channel,
      after = { (protocol.withChannel channel).recordSentState instructions
        protocol.nextLocalState with nextLocalState := protocol.nextLocalState + 1 } := by
  simp only [perform, Prod.mk.injEq, ProtocolOutput.packets.injEq] at performed
  exact build_update_after (Prod.ext performed.1 performed.2)

theorem perform_shutdown_after {sentTimestamp : UInt16} {instructions : InstructionBatch}
    {packets : List Bytes}
    (performed : protocol.perform lib (.buildShutdown sentTimestamp instructions) =
      (.packets (.ok packets), after)) :
    protocol.localShutdownSent = false ∧ ∃ channel,
      after = (protocol.withChannel channel).recordSentState instructions MAXIMUM_STATE := by
  simp only [perform, Prod.mk.injEq, ProtocolOutput.packets.injEq] at performed
  exact build_shutdown_after (Prod.ext performed.1 performed.2)

end Recorded

section Contents

variable {terminal : Terminal} {protocol after : ClientProtocol terminal}
  {content : UInt64 → List Instruction} {sent : List Instruction}

/-- The numbers that were given to states so far. -/
def Issued (protocol : ClientProtocol terminal) (number : UInt64) : Prop :=
  number < protocol.nextLocalState ∨ number = MAXIMUM_STATE ∧ protocol.localShutdownSent = true

/-- The newest state is confirmed, or waits behind the confirmed one. -/
inductive InFlight (protocol : ClientProtocol terminal) (content : UInt64 → List Instruction)
    (sent : List Instruction) : Prop
  | settled (confirmed : UInt64) (states : protocol.sentStates = [⟨confirmed, 0⟩])
      (drained : protocol.localInstructions = []) (all : content confirmed = sent)
  | waiting (confirmed latest : UInt64)
      (states : protocol.sentStates =
        [⟨confirmed, 0⟩, ⟨latest, protocol.localInstructions.length⟩])
      (newer : confirmed < latest)
      (grown : content confirmed ++ protocol.localInstructions = content latest)
      (all : content latest = sent)

/-- The contents of the issued numbers, of which the newest is everything that was sent. -/
structure Outbox (protocol : ClientProtocol terminal) (content : UInt64 → List Instruction)
    (sent : List Instruction) : Prop where
  inFlight : protocol.InFlight content sent
  positive : 0 < protocol.nextLocalState
  issued : ∀ state ∈ protocol.sentStates, protocol.Issued state.stateId
  origin : content 0 = []
  within : ∀ number, content number <+: sent

theorem new_outbox (terminal : Terminal) (key : SessionKey) :
    (new terminal key).Outbox (fun _ => []) [] where
  inFlight := .settled 0 rfl rfl rfl
  positive := UInt64.lt_iff_toNat_lt.mpr Nat.one_pos
  issued := by
    intro state member
    rw [List.mem_singleton.mp member]
    exact Or.inl (UInt64.lt_iff_toNat_lt.mpr Nat.one_pos)
  origin := rfl
  within := fun _ => List.nil_prefix

structure SameSent (before after : ClientProtocol terminal) : Prop where
  next : after.nextLocalState = before.nextLocalState
  instructions : after.localInstructions = before.localInstructions
  states : after.sentStates = before.sentStates

theorem SameSent.refl (protocol : ClientProtocol terminal) : SameSent protocol protocol := ⟨rfl, rfl, rfl⟩

theorem SameSent.trans {first second third : ClientProtocol terminal} (earlier : SameSent first second)
    (later : SameSent second third) : SameSent first third :=
  ⟨later.next.trans earlier.next, later.instructions.trans earlier.instructions,
    later.states.trans earlier.states⟩

theorem SameOutbound.same_sent (same : SameOutbound protocol after) : SameSent protocol after :=
  ⟨same.next, same.instructions, same.sent⟩

theorem with_channel_same_sent (channel : SecureChannel) :
    SameSent protocol (protocol.withChannel channel) := ⟨rfl, rfl, rfl⟩

theorem SameSent.shutdown_sent (same : SameSent protocol after) :
    after.localShutdownSent = protocol.localShutdownSent := by
  rw [localShutdownSent, localShutdownSent, same.states]

theorem SameSent.issued (same : SameSent protocol after) (number : UInt64) :
    after.Issued number ↔ protocol.Issued number := by
  rw [Issued, Issued, same.next, same.shutdown_sent]

theorem Outbox.of_same_sent (outbox : protocol.Outbox content sent) (same : SameSent protocol after) :
    after.Outbox content sent where
  inFlight := by
    cases outbox.inFlight with
    | settled confirmed states drained all =>
        exact .settled confirmed (same.states.trans states) (same.instructions.trans drained) all
    | waiting confirmed latest states newer grown all =>
        apply InFlight.waiting confirmed latest _ newer _ all
        · rw [same.states, same.instructions]
          exact states
        · rw [same.instructions]
          exact grown
  positive := same.next ▸ outbox.positive
  issued := by
    intro state member
    rw [same.issued]
    exact outbox.issued state (same.states ▸ member)
  origin := outbox.origin
  within := outbox.within

theorem acknowledgement_cases (protocol : ClientProtocol terminal) (acknowledgedState : UInt64) :
    (protocol.processAcknowledgement acknowledgedState).nextLocalState = protocol.nextLocalState ∧
      ∃ index ≤ protocol.sentStates.length - 1,
        (protocol.processAcknowledgement acknowledgedState).sentStates.map SentState.stateId =
          (protocol.sentStates.map SentState.stateId).drop index := by
  unfold processAcknowledgement
  cases found : protocol.sentStates.findIdx? fun state => state.stateId = acknowledgedState with
  | none => exact ⟨rfl, 0, Nat.zero_le _, rfl⟩
  | some index =>
      have inside := List.findIdx?_eq_some_iff_findIdx_eq.mp found
      have bound : index ≤ protocol.sentStates.length - 1 := by omega
      dsimp only
      split_ifs
      · exact ⟨rfl, index, bound, List.map_drop⟩
      · refine ⟨rfl, index, bound, ?_⟩
        rw [List.map_map, ← List.map_drop]
        rfl

theorem shutdown_sent_eq (protocol : ClientProtocol terminal) :
    protocol.localShutdownSent =
      (protocol.sentStates.map SentState.stateId).getLast?.any fun number => number = MAXIMUM_STATE := by
  rw [localShutdownSent, List.getLast?_map, Option.any_map]

theorem acknowledgement_shutdown_sent (protocol : ClientProtocol terminal) (acknowledgedState : UInt64) :
    (protocol.processAcknowledgement acknowledgedState).localShutdownSent =
      protocol.localShutdownSent := by
  obtain ⟨_, index, bound, dropped⟩ := acknowledgement_cases protocol acknowledgedState
  rw [shutdown_sent_eq, shutdown_sent_eq, dropped, List.getLast?_drop]
  split_ifs with short
  · rw [List.length_map] at short
    have empty : protocol.sentStates = [] := List.length_eq_zero_iff.mp (by omega)
    rw [empty]
    rfl
  · rfl

theorem acknowledgement_unknown {acknowledgedState : UInt64}
    (unknown : ∀ state ∈ protocol.sentStates, state.stateId ≠ acknowledgedState) :
    protocol.processAcknowledgement acknowledgedState = protocol := by
  have missing : protocol.sentStates.findIdx? (fun state => state.stateId = acknowledgedState) =
      none := by
    rw [List.findIdx?_eq_none_iff]
    intro state member
    exact decide_eq_false (unknown state member)
  rw [processAcknowledgement, missing]

theorem acknowledgement_oldest {confirmed : UInt64} {rest : List SentState}
    (states : protocol.sentStates = ⟨confirmed, 0⟩ :: rest) :
    protocol.processAcknowledgement confirmed = protocol := by
  have found : protocol.sentStates.findIdx? (fun state => state.stateId = confirmed) = some 0 := by
    rw [states, List.findIdx?_cons, if_pos (decide_eq_true rfl)]
  rw [processAcknowledgement, found]
  simp only [List.drop_zero, states, List.head?_cons, Option.map_some, Option.getD_some, if_true]
  rw [← states]

theorem acknowledgement_newest {confirmed latest : UInt64} (different : confirmed ≠ latest)
    (states : protocol.sentStates =
      [⟨confirmed, 0⟩, ⟨latest, protocol.localInstructions.length⟩]) :
    (protocol.processAcknowledgement latest).sentStates = [⟨latest, 0⟩] ∧
      (protocol.processAcknowledgement latest).localInstructions = [] := by
  have found : protocol.sentStates.findIdx? (fun state => state.stateId = latest) = some 1 := by
    rw [states, List.findIdx?_cons, if_neg (by simpa using different), List.findIdx?_cons,
      if_pos (decide_eq_true rfl)]
    rfl
  rw [processAcknowledgement, found]
  simp only [states, List.drop_succ_cons, List.drop_zero, List.head?_cons, Option.map_some,
    Option.getD_some]
  split_ifs with empty
  · rw [empty]
    exact ⟨rfl, List.length_eq_zero_iff.mp empty⟩
  · simp

theorem acknowledgement_in_flight (acknowledgedState : UInt64)
    (inFlight : protocol.InFlight content sent) :
    (protocol.processAcknowledgement acknowledgedState).InFlight content sent := by
  cases inFlight with
  | settled confirmed states drained all =>
      have unchanged : protocol.processAcknowledgement acknowledgedState = protocol := by
        by_cases here : confirmed = acknowledgedState
        · exact here ▸ acknowledgement_oldest states
        · apply acknowledgement_unknown
          simpa [states] using here
      rw [unchanged]
      exact .settled confirmed states drained all
  | waiting confirmed latest states newer grown all =>
      have different : confirmed ≠ latest := UInt64.ne_of_lt newer
      by_cases newest : latest = acknowledgedState
      · rw [← newest]
        obtain ⟨only, drained⟩ := acknowledgement_newest different states
        exact .settled latest only drained all
      · have unchanged : protocol.processAcknowledgement acknowledgedState = protocol := by
          by_cases here : confirmed = acknowledgedState
          · exact here ▸ acknowledgement_oldest states
          · apply acknowledgement_unknown
            simpa [states] using ⟨here, newest⟩
        rw [unchanged]
        exact .waiting confirmed latest states newer grown all

theorem acknowledgement_issued (protocol : ClientProtocol terminal) (acknowledgedState number : UInt64) :
    (protocol.processAcknowledgement acknowledgedState).Issued number ↔ protocol.Issued number := by
  rw [Issued, Issued, acknowledgement_shutdown_sent, (acknowledgement_cases protocol _).1]

theorem Outbox.acknowledgement (outbox : protocol.Outbox content sent) (acknowledgedState : UInt64) :
    (protocol.processAcknowledgement acknowledgedState).Outbox content sent where
  inFlight := acknowledgement_in_flight acknowledgedState outbox.inFlight
  positive := (acknowledgement_cases protocol acknowledgedState).1 ▸ outbox.positive
  issued := by
    intro state member
    rw [acknowledgement_issued]
    obtain ⟨_, index, _, dropped⟩ := acknowledgement_cases protocol acknowledgedState
    have listed : state.stateId ∈ (protocol.sentStates.map SentState.stateId).drop index := by
      rw [← dropped]
      exact List.mem_map_of_mem member
    obtain ⟨earlier, present, same⟩ := List.mem_map.mp (List.mem_of_mem_drop listed)
    rw [← same]
    exact outbox.issued earlier present
  origin := outbox.origin
  within := outbox.within

/-- What everything but the building methods does to the sending side: it keeps the channel,
and the send history as one acknowledgement leaves it, if there is one. -/
structure Settles (before after : ClientProtocol terminal) : Prop where
  channel : after.secureChannel = before.secureChannel
  history : SameSent before after ∨
    ∃ acknowledgedState, SameSent (before.processAcknowledgement acknowledgedState) after

theorem Settles.refl (protocol : ClientProtocol terminal) : Settles protocol protocol :=
  ⟨rfl, Or.inl ⟨rfl, rfl, rfl⟩⟩

theorem Acknowledged.settles (acknowledged : Acknowledged protocol after) : Settles protocol after where
  channel := acknowledged.channel
  history := by
    rcases acknowledged with same | ⟨acknowledgedState, same⟩
    · exact Or.inl same.same_sent
    · exact Or.inr ⟨acknowledgedState, same.same_sent⟩

theorem Settles.issued (settles : Settles protocol after) (number : UInt64) :
    after.Issued number ↔ protocol.Issued number := by
  rcases settles.history with same | ⟨acknowledgedState, same⟩
  · exact same.issued number
  · rw [same.issued, acknowledgement_issued]

theorem Settles.shutdown_sent (settles : Settles protocol after) :
    after.localShutdownSent = protocol.localShutdownSent := by
  rcases settles.history with same | ⟨acknowledgedState, same⟩
  · exact same.shutdown_sent
  · rw [same.shutdown_sent, acknowledgement_shutdown_sent]

theorem Outbox.settles (outbox : protocol.Outbox content sent) (settles : Settles protocol after) :
    after.Outbox content sent := by
  rcases settles.history with same | ⟨acknowledgedState, same⟩
  · exact outbox.of_same_sent same
  · exact (outbox.acknowledgement acknowledgedState).of_same_sent same

theorem set_initial_remote_viewport_settles (columns rows : UInt16) :
    Settles protocol (protocol.setInitialRemoteViewport columns rows) := by
  unfold setInitialRemoteViewport
  split_ifs
  · exact .refl protocol
  · split
    · exact .refl protocol
    · exact ⟨rfl, Or.inl ⟨rfl, rfl, rfl⟩⟩

theorem Outbox.latest (outbox : protocol.Outbox content sent) :
    content protocol.latestLocalState = sent := by
  cases outbox.inFlight with
  | settled confirmed states drained all => simpa [latestLocalState, states] using all
  | waiting confirmed latest states newer grown all => simpa [latestLocalState, states] using all

theorem Outbox.settled_of (outbox : protocol.Outbox content sent)
    (settled : protocol.hasPendingUpdate = false) :
    ∃ confirmed, protocol.sentStates = [⟨confirmed, 0⟩] ∧ protocol.localInstructions = [] ∧
      content confirmed = sent := by
  cases outbox.inFlight with
  | settled confirmed states drained all => exact ⟨confirmed, states, drained, all⟩
  | waiting confirmed latest states newer grown all => simp [hasPendingUpdate, states] at settled

theorem record_states_of_settled {confirmed : UInt64}
    (only : protocol.sentStates = [⟨confirmed, 0⟩]) (drained : protocol.localInstructions = [])
    (batch : InstructionBatch) (target : UInt64) (channel : SecureChannel) :
    ((protocol.withChannel channel).recordSentState batch target).sentStates =
      [⟨confirmed, 0⟩, ⟨target, batch.instructions.length⟩] := by
  simp [recordSentState, withChannel, only, drained, limitSentStates, limitSentStatesLoop,
    MAXIMUM_SENT_STATES]

theorem Outbox.record (outbox : protocol.Outbox content sent)
    (settled : protocol.hasPendingUpdate = false) (unsent : protocol.localShutdownSent = false)
    {target : UInt64} (fresh : ¬ protocol.Issued target)
    (batch : InstructionBatch) (channel : SecureChannel)
    (states : after.sentStates =
      ((protocol.withChannel channel).recordSentState batch target).sentStates)
    (instructions : after.localInstructions =
      ((protocol.withChannel channel).recordSentState batch target).localInstructions)
    (positive : 0 < after.nextLocalState) (issuedTarget : after.Issued target)
    (stillIssued : ∀ number, protocol.Issued number → after.Issued number) :
    after.Outbox (Function.update content target (sent ++ batch.instructions))
      (sent ++ batch.instructions) := by
  obtain ⟨confirmed, only, drained, all⟩ := outbox.settled_of settled
  have issuedConfirmed : protocol.Issued confirmed := outbox.issued ⟨confirmed, 0⟩ (by simp [only])
  have different : confirmed ≠ target := by
    intro same
    exact fresh (same ▸ issuedConfirmed)
  have newer : confirmed < target := by
    have high : protocol.nextLocalState ≤ target :=
      UInt64.not_lt.mp fun low => fresh (Or.inl low)
    rcases issuedConfirmed with low | ⟨_, sentAlready⟩
    · exact UInt64.lt_of_lt_of_le low high
    · rw [unsent] at sentAlready
      cases sentAlready
  have recorded : after.sentStates = [⟨confirmed, 0⟩, ⟨target, batch.instructions.length⟩] := by
    rw [states]
    exact record_states_of_settled only drained batch target channel
  have kept : after.localInstructions = batch.instructions := by
    rw [instructions]
    simp [recordSentState, withChannel, drained]
  constructor
  · apply InFlight.waiting confirmed target _ newer
    · rw [Function.update_of_ne different, Function.update_self, kept, all]
    · exact Function.update_self ..
    · rw [recorded, kept]
  · exact positive
  · intro state member
    rw [recorded] at member
    simp only [List.mem_cons, List.not_mem_nil, or_false] at member
    rcases member with old | new
    · rw [old]
      exact stillIssued confirmed issuedConfirmed
    · rw [new]
      exact issuedTarget
  · rw [Function.update_of_ne _]
    · exact outbox.origin
    · intro same
      exact fresh (same ▸ Or.inl outbox.positive)
  · intro number
    by_cases here : number = target
    · have newest : Function.update content target (sent ++ batch.instructions) number =
          sent ++ batch.instructions := by
        rw [here, Function.update_self]
      exact ⟨[], by rw [newest, List.append_nil]⟩
    · rw [Function.update_of_ne here]
      exact (outbox.within number).trans (List.prefix_append _ _)

/-- The content of the target is the content of the base and what the update adds to it. -/
structure Explained (protocol : ClientProtocol terminal) (content : UInt64 → List Instruction)
    (update : StateUpdate) (batch : InstructionBatch) : Prop where
  respects : content update.baseState ++ batch.instructions = content update.targetState
  base : protocol.Issued update.baseState
  target : protocol.Issued update.targetState

theorem Explained.later {update : StateUpdate} {batch : InstructionBatch}
    (explained : protocol.Explained content update batch) {later : UInt64 → List Instruction}
    (agree : ∀ number, protocol.Issued number → later number = content number)
    (stillIssued : ∀ number, protocol.Issued number → after.Issued number) :
    after.Explained later update batch where
  respects := by
    rw [agree _ explained.base, agree _ explained.target]
    exact explained.respects
  base := stillIssued _ explained.base
  target := stillIssued _ explained.target

theorem Outbox.acknowledgement_explained (outbox : protocol.Outbox content sent)
    {front back : SentState} (last : protocol.sentStates.getLast? = some back) :
    protocol.Explained content (protocol.acknowledgementUpdate front back) ⟨[]⟩ := by
  have issued := outbox.issued back (List.mem_of_getLast? last)
  exact ⟨List.append_nil _, issued, issued⟩

theorem Outbox.retransmission_explained (outbox : protocol.Outbox content sent)
    {confirmed latest : SentState} (first : protocol.sentStates.head? = some confirmed)
    (last : protocol.sentStates.getLast? = some latest) :
    protocol.Explained content (protocol.retransmissionUpdate confirmed latest)
      (protocol.pendingInstructions confirmed latest) := by
  constructor
  · cases outbox.inFlight with
    | settled number states drained all =>
        rw [states] at first last
        cases first
        cases last
        simp [retransmissionUpdate, StateUpdate.new, pendingInstructions, drained]
    | waiting oldest newest states newer grown all =>
        rw [states] at first last
        cases first
        cases last
        simpa [retransmissionUpdate, StateUpdate.new, pendingInstructions] using grown
  · exact outbox.issued confirmed (List.mem_of_head? first)
  · exact outbox.issued latest (List.mem_of_getLast? last)

end Contents

section Transmission

variable {lib : Libraries} {protocol after : ClientProtocol lib.terminal}
  {content : UInt64 → List Instruction} {sent : List Instruction} {key : SessionKey}

/-- A message went out: the contents explain it, and the numbers issued before keep theirs. -/
structure Transmitted (lib : Libraries) (key : SessionKey) (before : ClientProtocol lib.terminal)
    (content : UInt64 → List Instruction) (packets : List Bytes) (after : ClientProtocol lib.terminal)
    (later : UInt64 → List Instruction) (sent : List Instruction) : Prop where
  outbox : after.Outbox later sent
  agree : ∀ number, before.Issued number → later number = content number
  issued : ∀ number, before.Issued number → after.Issued number
  explained : ∃ update batch, Carries lib key packets update batch ∧
    after.Explained later update batch

theorem transmitted_unchanged (outbox : protocol.Outbox content sent) {channel : SecureChannel}
    (same : after = protocol.withChannel channel) {packets : List Bytes} {update : StateUpdate}
    {batch : InstructionBatch} (carries : Carries lib key packets update batch)
    (explained : protocol.Explained content update batch) :
    Transmitted lib key protocol content packets after content sent := by
  have kept : SameSent protocol after := by
    rw [same]
    exact with_channel_same_sent channel
  constructor
  · exact outbox.of_same_sent kept
  · intro number _
    rfl
  · intro number issued
    exact (kept.issued number).mpr issued
  · refine ⟨update, batch, carries, explained.later (fun _ _ => rfl) ?_⟩
    intro number issued
    exact (kept.issued number).mpr issued

theorem empty_batch_encode : ([] : Bytes) = (InstructionBatch.mk []).encodeBytes := rfl

theorem acknowledgement_transmitted (lawful : LawfulAead lib.aead) (sealsWith : SealsWith key protocol)
    (outbox : protocol.Outbox content sent) {sentTimestamp : UInt16} {packets : List Bytes}
    (performed : protocol.perform lib (.buildAcknowledgement sentTimestamp) =
      (.packets (.ok packets), after)) :
    Transmitted lib key protocol content packets after content sent := by
  obtain ⟨update, stateId, out, carries⟩ := perform_carries lawful sealsWith (congrArg Prod.fst performed)
  obtain ⟨channel, same⟩ := perform_keeps rfl performed
  cases outgoing_cases out with
  | acknowledgement _ first last =>
      exact transmitted_unchanged outbox same (carries _ empty_batch_encode)
        (outbox.acknowledgement_explained last)

theorem retransmission_transmitted (lawful : LawfulAead lib.aead) (sealsWith : SealsWith key protocol)
    (outbox : protocol.Outbox content sent) {sentTimestamp : UInt16} {packets : List Bytes}
    (performed : protocol.perform lib (.retransmitPending sentTimestamp) =
      (.packets (.ok packets), after)) :
    Transmitted lib key protocol content packets after content sent := by
  obtain ⟨update, stateId, out, carries⟩ := perform_carries lawful sealsWith (congrArg Prod.fst performed)
  obtain ⟨channel, same⟩ := perform_keeps rfl performed
  cases outgoing_cases out with
  | retransmission _ first last pending =>
      exact transmitted_unchanged outbox same (carries _ rfl)
        (outbox.retransmission_explained first last)

/-- The message that carries a new state: its number was not used before, and its content is
everything that was sent before and the new batch. -/
theorem record_transmitted (channel : SecureChannel) (outbox : protocol.Outbox content sent)
    (settled : protocol.hasPendingUpdate = false) (unsent : protocol.localShutdownSent = false)
    {target : UInt64} (fresh : ¬ protocol.Issued target) {batch : InstructionBatch}
    (states : after.sentStates =
      ((protocol.withChannel channel).recordSentState batch target).sentStates)
    (instructions : after.localInstructions =
      ((protocol.withChannel channel).recordSentState batch target).localInstructions)
    (positive : 0 < after.nextLocalState) (issuedTarget : after.Issued target)
    (stillIssued : ∀ number, protocol.Issued number → after.Issued number)
    {front back : SentState} (last : protocol.sentStates.getLast? = some back)
    {packets : List Bytes}
    (carries : Carries lib key packets (protocol.stateUpdate front back batch target) batch) :
    Transmitted lib key protocol content packets after
      (Function.update content target (sent ++ batch.instructions)) (sent ++ batch.instructions) := by
  obtain ⟨confirmed, only, _, all⟩ := outbox.settled_of settled
  have base : back = ⟨confirmed, 0⟩ := by
    rw [only] at last
    exact (Option.some.inj last).symm
  have issuedBase : protocol.Issued back.stateId := outbox.issued back (List.mem_of_getLast? last)
  have agree : ∀ number, protocol.Issued number →
      Function.update content target (sent ++ batch.instructions) number = content number := by
    intro number issued
    apply Function.update_of_ne
    intro same
    exact fresh (same ▸ issued)
  constructor
  · exact outbox.record settled unsent fresh batch channel states instructions positive issuedTarget
      stillIssued
  · exact agree
  · exact stillIssued
  · refine ⟨_, batch, carries, ?_, stillIssued _ issuedBase, issuedTarget⟩
    change Function.update content target (sent ++ batch.instructions) back.stateId ++
      batch.instructions = Function.update content target (sent ++ batch.instructions) target
    rw [agree _ issuedBase, Function.update_self, base, all]

theorem le_maximum_state (number : UInt64) : number ≤ MAXIMUM_STATE := by
  have bound := number.toNat_lt
  have top : MAXIMUM_STATE.toNat = 2 ^ 64 - 1 := by decide
  rw [UInt64.le_iff_toNat_le, top]
  omega

theorem lt_next_of_not_last {number : UInt64} (notLast : number ≠ MAXIMUM_STATE) :
    number < number + 1 := by
  have below := UInt64.lt_iff_toNat_lt.mp (UInt64.lt_of_le_of_ne (le_maximum_state number) notLast)
  have top : MAXIMUM_STATE.toNat = 2 ^ 64 - 1 := by decide
  rw [UInt64.lt_iff_toNat_lt, UInt64.toNat_add]
  have one : (1 : UInt64).toNat = 1 := rfl
  omega

theorem update_transmitted (lawful : LawfulAead lib.aead) (sealsWith : SealsWith key protocol)
    (outbox : protocol.Outbox content sent) (settled : protocol.hasPendingUpdate = false)
    (unsent : protocol.localShutdownSent = false) {sentTimestamp : UInt16} {batch : InstructionBatch}
    {packets : List Bytes}
    (performed : protocol.perform lib (.buildUpdate sentTimestamp batch) =
      (.packets (.ok packets), after)) :
    ∃ later, Transmitted lib key protocol content packets after later (sent ++ batch.instructions) := by
  obtain ⟨update, stateId, out, carries⟩ := perform_carries lawful sealsWith (congrArg Prod.fst performed)
  obtain ⟨room, channel, recorded⟩ := perform_update_after performed
  have above := lt_next_of_not_last room
  have issuedBefore : ∀ number, protocol.Issued number → number < protocol.nextLocalState := by
    intro number issued
    rcases issued with low | ⟨_, sentAlready⟩
    · exact low
    · rw [unsent] at sentAlready
      cases sentAlready
  have fresh : ¬ protocol.Issued protocol.nextLocalState := by
    intro issued
    exact UInt64.lt_irrefl _ (issuedBefore _ issued)
  have next : after.nextLocalState = protocol.nextLocalState + 1 := by rw [recorded]
  cases outgoing_cases out with
  | update _ _ first last =>
      refine ⟨_, record_transmitted channel outbox settled unsent fresh ?_ ?_ ?_ ?_ ?_
        last (carries batch rfl)⟩
      · rw [recorded]
      · rw [recorded]
      · rw [next]
        exact UInt64.lt_of_le_of_lt UInt64.zero_le above
      · exact Or.inl (next ▸ above)
      · intro number issued
        exact Or.inl (next ▸ UInt64.lt_trans (issuedBefore number issued) above)

theorem update_shutdown_unsent (outbox : protocol.Outbox content sent)
    (settled : protocol.hasPendingUpdate = false) {sentTimestamp : UInt16} {batch : InstructionBatch}
    {packets : List Bytes}
    (performed : protocol.perform lib (.buildUpdate sentTimestamp batch) =
      (.packets (.ok packets), after)) : after.localShutdownSent = false := by
  obtain ⟨room, channel, recorded⟩ := perform_update_after performed
  obtain ⟨confirmed, only, drained, _⟩ := outbox.settled_of settled
  rw [localShutdownSent, recorded, record_states_of_settled only drained]
  exact decide_eq_false room

theorem shutdown_transmitted (lawful : LawfulAead lib.aead) (sealsWith : SealsWith key protocol)
    (outbox : protocol.Outbox content sent) (settled : protocol.hasPendingUpdate = false)
    {sentTimestamp : UInt16} {batch : InstructionBatch} {packets : List Bytes}
    (performed : protocol.perform lib (.buildShutdown sentTimestamp batch) =
      (.packets (.ok packets), after)) :
    ∃ later, Transmitted lib key protocol content packets after later (sent ++ batch.instructions) := by
  obtain ⟨update, stateId, out, carries⟩ := perform_carries lawful sealsWith (congrArg Prod.fst performed)
  obtain ⟨unsent, channel, recorded⟩ := perform_shutdown_after performed
  have fresh : ¬ protocol.Issued MAXIMUM_STATE := by
    intro issued
    rcases issued with low | ⟨_, sentAlready⟩
    · exact UInt64.not_lt.mpr (le_maximum_state _) low
    · rw [unsent] at sentAlready
      cases sentAlready
  obtain ⟨confirmed, only, drained, _⟩ := outbox.settled_of settled
  have shutdownSent : after.localShutdownSent = true := by
    rw [localShutdownSent, recorded, record_states_of_settled only drained]
    rfl
  have next : after.nextLocalState = protocol.nextLocalState := by
    rw [recorded]
    rfl
  cases outgoing_cases out with
  | shutdown _ _ first last =>
      refine ⟨_, record_transmitted channel outbox settled unsent fresh ?_ ?_ ?_ ?_ ?_
        last (carries batch rfl)⟩
      · rw [recorded]
      · rw [recorded]
      · exact next ▸ outbox.positive
      · exact Or.inr ⟨rfl, shutdownSent⟩
      · intro number issued
        rcases issued with low | ⟨_, sentAlready⟩
        · exact Or.inl (next ▸ low)
        · rw [unsent] at sentAlready
          cases sentAlready

end Transmission

end ClientProtocol

end FerrumTty.Session
