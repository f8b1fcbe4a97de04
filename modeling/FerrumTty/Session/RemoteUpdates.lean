import FerrumTty.Session.Operations

/-!
# Remote states over whole runs

What one received update does to the remote states, the invariant that every run keeps,
and the diff that an advance of the newest state delivers.
-/

namespace FerrumTty.Session

set_option autoImplicit false

open Crypto Wire State Runs

theorem word_max_eq (left right : UInt64) : max left right = if left ≤ right then right else left := rfl

theorem left_le_word_max (left right : UInt64) : left ≤ max left right := by
  rw [word_max_eq]
  split_ifs with ordered
  · exact ordered
  · exact UInt64.le_refl left

theorem word_max_lt {left right bound : UInt64} (leftBelow : left < bound)
    (rightBelow : right < bound) : max left right < bound := by
  rw [word_max_eq]
  split_ifs
  · exact rightBelow
  · exact leftBelow

theorem half_word_max_ne_zero (value : UInt16) : max value 1 ≠ 0 := by
  have unfolded : max value 1 = if value ≤ 1 then 1 else value := rfl
  rw [unfolded]
  split_ifs with small
  · decide
  · intro zero
    rw [zero] at small
    exact small (by decide)

/-- The update that is delivered when the newest remote state advances. -/
def advanceOf : Except SessionError (Bool × StateUpdate) → Option StateUpdate
  | .ok (true, update) => some update
  | _ => none

def receiptAdvance : Except SessionError PacketReceipt → Option StateUpdate
  | .ok receipt => receipt.state.bind fun state =>
      if state.advancesRemoteState then some state.update else none
  | .error _ => none

def ProtocolOutput.advance? : ProtocolOutput → Option StateUpdate
  | .receipt result => receiptAdvance result
  | _ => none

namespace ClientProtocol

variable (lib : Libraries)

/-- A received packet leaves the remote states alone or passes one update to
`accept_remote_update`. -/
inductive RemoteStep (protocol : ClientProtocol lib.terminal)
    (outcome : Except SessionError PacketReceipt × ClientProtocol lib.terminal) : Prop
  | unchanged (same : SameRemote protocol outcome.2) (quiet : receiptAdvance outcome.1 = none)
  | accepted (middle : ClientProtocol lib.terminal) (update : StateUpdate)
      (before : SameRemote protocol middle)
      (after : SameRemote (middle.acceptRemoteUpdate lib update).2 outcome.2)
      (advance : receiptAdvance outcome.1 = advanceOf (middle.acceptRemoteUpdate lib update).1)

theorem RemoteStep.of_same {first second : ClientProtocol lib.terminal}
    {outcome : Except SessionError PacketReceipt × ClientProtocol lib.terminal}
    (same : SameRemote first second) (step : RemoteStep lib second outcome) :
    RemoteStep lib first outcome := by
  cases step with
  | unchanged kept quiet => exact .unchanged (same.trans kept) quiet
  | accepted middle update before after advance =>
      exact .accepted middle update (same.trans before) after advance

variable (protocol : ClientProtocol lib.terminal)

/-- `handle_update` is `accept_remote_update` between two steps that do not touch the
remote states. -/
theorem handle_update_accepts (update : StateUpdate) :
    (protocol.handleUpdate lib update).1 =
        ((protocol.processAcknowledgement update.acknowledgedState).acceptRemoteUpdate lib update).1 ∧
      SameRemote ((protocol.processAcknowledgement update.acknowledgedState).acceptRemoteUpdate lib
        update).2 (protocol.handleUpdate lib update).2 := by
  unfold handleUpdate
  cases accepted : (protocol.processAcknowledgement update.acknowledgedState).acceptRemoteUpdate lib
      update with
  | mk result next =>
      cases result with
      | error error => exact ⟨rfl, .refl next⟩
      | ok value =>
          dsimp only
          split_ifs
          · exact ⟨rfl, .refl next⟩
          · exact ⟨rfl, rfl, rfl, rfl, rfl⟩

theorem handle_message_remote (authenticated : AuthenticatedPacket) (header : FragmentHeader)
    (compressed : Bytes) :
    RemoteStep lib protocol (protocol.handleMessage lib authenticated header compressed) := by
  unfold handleMessage
  cases decoded : decodeCompressedUpdate lib.codec compressed with
  | error error => exact .unchanged (.refl protocol) rfl
  | ok update =>
      obtain ⟨sameResult, sameRemote⟩ := handle_update_accepts lib protocol update
      apply RemoteStep.accepted _ update
        (process_acknowledgement_inbound protocol update.acknowledgedState).toSameRemote
      · dsimp only
        cases handled : protocol.handleUpdate lib update with
        | mk result next =>
            rw [handled] at sameRemote
            cases result <;> exact sameRemote
      · rw [← sameResult]
        dsimp only
        cases handled : protocol.handleUpdate lib update with
        | mk result next =>
            cases result with
            | error error => rfl
            | ok value =>
                obtain ⟨advances, delivered⟩ := value
                cases advances <;> rfl

theorem handle_fragment_remote (authenticated : AuthenticatedPacket) (fragment : Fragment) :
    RemoteStep lib protocol (protocol.handleFragment lib authenticated fragment) := by
  unfold handleFragment
  dsimp only
  split_ifs
  · exact .unchanged (.refl protocol) rfl
  · split
    · exact .unchanged ⟨rfl, rfl, rfl, rfl⟩ rfl
    · exact .unchanged ⟨rfl, rfl, rfl, rfl⟩ rfl
    · apply RemoteStep.of_same lib _ (handle_message_remote lib _ _ _ _)
      exact ⟨rfl, rfl, rfl, rfl⟩

theorem handle_plaintext_remote (authenticated : AuthenticatedPacket) :
    RemoteStep lib protocol (protocol.handlePlaintext lib authenticated) := by
  unfold handlePlaintext
  dsimp only
  split_ifs
  · exact .unchanged (.refl protocol) rfl
  · exact .unchanged ⟨rfl, rfl, rfl, rfl⟩ rfl
  · split
    · exact .unchanged ⟨rfl, rfl, rfl, rfl⟩ rfl
    · apply RemoteStep.of_same lib _ (handle_fragment_remote lib _ _ _)
      exact ⟨rfl, rfl, rfl, rfl⟩

theorem ingest_packet_remote (packet : Bytes) :
    RemoteStep lib protocol (protocol.ingestPacket lib packet) := by
  unfold ingestPacket
  split
  · exact .unchanged (.refl protocol) rfl
  · dsimp only
    split_ifs
    · exact .unchanged ⟨rfl, rfl, rfl, rfl⟩ rfl
    · apply RemoteStep.of_same lib _ (handle_plaintext_remote lib _ _)
      exact ⟨rfl, rfl, rfl, rfl⟩

/-- How far `accept_remote_update` got. -/
inductive Acceptance (update : StateUpdate) :
    Except SessionError (Bool × StateUpdate) × ClientProtocol lib.terminal → Prop
  | ignored {result : Except SessionError (Bool × StateUpdate)} (quiet : advanceOf result = none) :
      Acceptance update (result, protocol)
  | stored (base target : RemoteTerminalState lib.terminal) (batch : InstructionBatch)
      (fresh : update.targetState ∉ protocol.receivedStates)
      (discards : update.discardBefore ≤ update.baseState)
      (forward : update.baseState < update.targetState)
      (present : protocol.receivedStates.lookup update.baseState = some base)
      (decoded : update.decodeInstructions lib.codec = .ok batch)
      (applied : base.clone.apply batch = .ok target) :
      Acceptance update (protocol.storeRemoteState lib update target)

theorem accept_cases (update : StateUpdate) :
    Acceptance lib protocol update (protocol.acceptRemoteUpdate lib update) := by
  unfold acceptRemoteUpdate
  split_ifs with known invalid
  · exact .ignored rfl
  · exact .ignored rfl
  · rw [not_or] at invalid
    have discards : update.discardBefore ≤ update.baseState := UInt64.not_lt.mp invalid.1
    have forward : update.baseState < update.targetState := UInt64.not_le.mp invalid.2
    split
    · exact .ignored rfl
    · rename_i base present
      split
      · exact .ignored rfl
      · rename_i batch decoded
        split
        · exact .ignored rfl
        · rename_i target applied
          exact .stored base target batch known discards forward present decoded applied

/-- The protocol after the states below the floor of an update were dropped. -/
def discardedFor {terminal : Terminal} (protocol : ClientProtocol terminal) (update : StateUpdate) :
    ClientProtocol terminal :=
  protocol.discardRemoteStates (max protocol.remoteThrowawayFloor update.discardBefore)

/-- What became of a target state. -/
inductive Storage (update : StateUpdate) (target : RemoteTerminalState lib.terminal) :
    Except SessionError (Bool × StateUpdate) × ClientProtocol lib.terminal → Prop
  | full (crowded : MAXIMUM_RECEIVED_STATES ≤ (protocol.discardedFor update).receivedStates.len) :
      Storage update target (.error .tooManyRemoteStates, protocol.discardedFor update)
  | held (room : (protocol.discardedFor update).receivedStates.len < MAXIMUM_RECEIVED_STATES)
      (late : update.targetState ≤ protocol.latestRemoteState ∨
        ∃ error, target.diffFrom protocol.deliveredRemoteState = .error error) :
      Storage update target (.ok (false, update),
        (protocol.discardedFor update).insertRemoteState update.targetState target)
  | advanced (room : (protocol.discardedFor update).receivedStates.len < MAXIMUM_RECEIVED_STATES)
      (newer : protocol.latestRemoteState < update.targetState) (diff : InstructionBatch)
      (built : target.diffFrom protocol.deliveredRemoteState = .ok diff) :
      Storage update target (.ok (true, { update with delta := diff.encodeBytes }),
        ((protocol.discardedFor update).insertRemoteState update.targetState target).advanceRemoteState
          update.targetState target)

theorem store_cases (update : StateUpdate) (target : RemoteTerminalState lib.terminal) :
    Storage lib protocol update target (protocol.storeRemoteState lib update target) := by
  unfold storeRemoteState
  dsimp only
  split_ifs with crowded
  · exact .full crowded
  · have room : (protocol.discardedFor update).receivedStates.len < MAXIMUM_RECEIVED_STATES :=
      Nat.lt_of_not_ge crowded
    unfold deliverRemoteState
    split_ifs with old
    · exact .held room (Or.inl old)
    · have delivered : ((protocol.discardRemoteStates
          (max protocol.remoteThrowawayFloor update.discardBefore)).insertRemoteState update.targetState
            target).deliveredRemoteState = protocol.deliveredRemoteState := rfl
      rw [delivered]
      cases built : target.diffFrom protocol.deliveredRemoteState with
      | error error => exact .held room (Or.inr ⟨error, built⟩)
      | ok diff => exact .advanced room (UInt64.not_le.mp old) diff built

/-- What every run keeps of the remote states: the retained ones are well formed and above
the floor, the newest one, while retained, is the delivered one, and before the first
delivery there is only the blank state zero. -/
structure RemoteInvariant {terminal : Terminal} (protocol : ClientProtocol terminal) : Prop where
  formed : ∀ stateId state, protocol.receivedStates.lookup stateId = some state → WellFormed state
  delivered : WellFormed protocol.deliveredRemoteState
  above : ∀ stateId ∈ protocol.receivedStates, protocol.remoteThrowawayFloor ≤ stateId
  present : protocol.remoteThrowawayFloor ≤ protocol.latestRemoteState →
    protocol.latestRemoteState ∈ protocol.receivedStates
  agrees : ∀ state, protocol.receivedStates.lookup protocol.latestRemoteState = some state →
    state.history = protocol.deliveredRemoteState.history ∧
      state.viewport = protocol.deliveredRemoteState.viewport
  blank : protocol.latestRemoteState = 0 → (∀ stateId ∈ protocol.receivedStates, stateId = 0) ∧
    protocol.remoteThrowawayFloor = 0 ∧ protocol.deliveredRemoteState.history.stream = []

namespace RemoteInvariant

theorem of_same {terminal : Terminal} {before after : ClientProtocol terminal}
    (same : SameRemote before after) (invariant : RemoteInvariant before) :
    RemoteInvariant after := by
  constructor
  · rw [same.received]
    exact invariant.formed
  · rw [same.delivered]
    exact invariant.delivered
  · rw [same.received, same.floor]
    exact invariant.above
  · rw [same.received, same.floor, same.latest]
    exact invariant.present
  · rw [same.received, same.latest, same.delivered]
    exact invariant.agrees
  · rw [same.received, same.latest, same.delivered, same.floor]
    exact invariant.blank

/-- The invariant of a protocol whose remote side is one blank state. -/
theorem of_blank {terminal : Terminal} {protocol : ClientProtocol terminal}
    {blank : RemoteTerminalState terminal} (formed : WellFormed blank)
    (empty : blank.history.stream = []) (zero : protocol.latestRemoteState = 0)
    (floor : protocol.remoteThrowawayFloor = 0) (delivered : protocol.deliveredRemoteState = blank)
    (only : ∀ stateId, protocol.receivedStates.lookup stateId =
      if stateId = 0 then some blank.clone else none) : RemoteInvariant protocol := by
  have members (stateId : UInt64) (member : stateId ∈ protocol.receivedStates) : stateId = 0 := by
    obtain ⟨state, found⟩ := AList.lookup_of_mem member
    rw [only] at found
    split_ifs at found with same
    exact same
  constructor
  · intro stateId state found
    rw [only] at found
    split_ifs at found with same
    rw [← Option.some.inj found]
    exact RemoteTerminalState.clone_formed formed
  · rw [delivered]
    exact formed
  · intro stateId _
    rw [floor]
    exact UInt64.zero_le
  · intro _
    apply AList.mem_of_lookup
    rw [only, if_pos zero]
  · intro state found
    rw [only, if_pos zero] at found
    rw [← Option.some.inj found, delivered]
    exact ⟨rfl, rfl⟩
  · intro _
    rw [delivered]
    exact ⟨members, floor, empty⟩

theorem initial (terminal : Terminal) (key : SessionKey) :
    RemoteInvariant (ClientProtocol.new terminal key) := by
  apply of_blank (RemoteTerminalState.new_formed (initial_remote_state_new terminal)).1 rfl rfl rfl rfl
  intro stateId
  exact AList.lookup_insert_cases

theorem set_initial_viewport {terminal : Terminal} {protocol : ClientProtocol terminal}
    (invariant : RemoteInvariant protocol) (columns rows : UInt16) :
    RemoteInvariant (protocol.setInitialRemoteViewport columns rows) := by
  unfold setInitialRemoteViewport
  split_ifs with started
  · exact invariant
  · split
    · exact invariant
    · rename_i blank created
      obtain ⟨formed, history, _, _⟩ := RemoteTerminalState.new_formed created
      rw [not_or, not_not, not_not] at started
      obtain ⟨members, floor, _⟩ := invariant.blank started.1
      have empty : blank.history.stream = [] := by
        rw [history]
        rfl
      refine of_blank formed empty started.1 floor rfl ?_
      intro stateId
      dsimp only
      rw [AList.lookup_insert_cases]
      split_ifs with zero
      · rfl
      · apply AList.lookup_eq_none.mpr
        intro member
        exact zero (members stateId member)

variable {lib} {protocol}

theorem discarded (invariant : RemoteInvariant protocol) {update : StateUpdate}
    (known : update.baseState ∈ protocol.receivedStates)
    (discards : update.discardBefore ≤ update.baseState) :
    RemoteInvariant (protocol.discardedFor update) := by
  have floorLe : protocol.remoteThrowawayFloor ≤
      max protocol.remoteThrowawayFloor update.discardBefore :=
    left_le_word_max _ _
  constructor
  · intro stateId state found
    exact invariant.formed stateId state (AList.lookup_retain_some found).2
  · exact invariant.delivered
  · intro stateId member
    exact of_decide_eq_true (AList.mem_retain.mp member).1
  · intro low
    apply AList.mem_retain.mpr
    exact ⟨decide_eq_true low, invariant.present (UInt64.le_trans floorLe low)⟩
  · intro state found
    exact invariant.agrees state (AList.lookup_retain_some found).2
  · intro zero
    obtain ⟨members, floor, empty⟩ := invariant.blank zero
    have baseZero := members _ known
    have discardZero : update.discardBefore = 0 := by
      rw [baseZero] at discards
      exact UInt64.le_zero_iff.mp discards
    refine ⟨fun stateId member => members stateId (AList.mem_retain.mp member).2, ?_, empty⟩
    change max protocol.remoteThrowawayFloor update.discardBefore = 0
    rw [floor, discardZero]
    rfl

/-- The floor of an update that was applied lies below its target. -/
theorem floor_below_target (invariant : RemoteInvariant protocol) {update : StateUpdate}
    (known : update.baseState ∈ protocol.receivedStates)
    (discards : update.discardBefore ≤ update.baseState)
    (forward : update.baseState < update.targetState) :
    max protocol.remoteThrowawayFloor update.discardBefore < update.targetState :=
  word_max_lt (UInt64.lt_of_le_of_lt (invariant.above _ known) forward)
    (UInt64.lt_of_le_of_lt discards forward)

omit protocol in
theorem inserted {terminal : Terminal} {protocol : ClientProtocol terminal}
    (invariant : RemoteInvariant protocol) {stateId : UInt64} {state : RemoteTerminalState terminal}
    (formed : WellFormed state) (above : protocol.remoteThrowawayFloor ≤ stateId)
    (other : stateId ≠ protocol.latestRemoteState) (started : protocol.latestRemoteState ≠ 0) :
    RemoteInvariant (protocol.insertRemoteState stateId state) := by
  constructor
  · intro known found_state found
    rw [insertRemoteState, AList.lookup_insert_cases] at found
    split_ifs at found
    · rw [← Option.some.inj found]
      exact RemoteTerminalState.clone_formed formed
    · exact invariant.formed known found_state found
  · exact invariant.delivered
  · intro known member
    rcases (AList.mem_insert _).mp member with here | earlier
    · rw [here]
      exact above
    · exact invariant.above known earlier
  · intro low
    exact (AList.mem_insert _).mpr (Or.inr (invariant.present low))
  · intro found_state found
    rw [insertRemoteState, AList.lookup_insert_cases, if_neg (Ne.symm other)] at found
    exact invariant.agrees found_state found
  · intro zero
    exact absurd zero started

omit protocol in
theorem advanced {terminal : Terminal} {protocol : ClientProtocol terminal}
    (invariant : RemoteInvariant protocol) {stateId : UInt64} {state : RemoteTerminalState terminal}
    (formed : WellFormed state) (above : protocol.remoteThrowawayFloor ≤ stateId)
    (positive : stateId ≠ 0) :
    RemoteInvariant ((protocol.insertRemoteState stateId state).advanceRemoteState stateId state) := by
  have lookup (known : UInt64) :
      ((protocol.insertRemoteState stateId state).advanceRemoteState stateId state).receivedStates.lookup
        known = if known = stateId then some state.clone else protocol.receivedStates.lookup known :=
    AList.lookup_insert_cases
  constructor
  · intro known found_state found
    rw [lookup] at found
    split_ifs at found
    · rw [← Option.some.inj found]
      exact RemoteTerminalState.clone_formed formed
    · exact invariant.formed known found_state found
  · exact formed
  · intro known member
    rcases (AList.mem_insert _).mp member with here | earlier
    · rw [here]
      exact above
    · exact invariant.above known earlier
  · intro _
    exact (AList.mem_insert _).mpr (Or.inl rfl)
  · intro found_state found
    have here : ((protocol.insertRemoteState stateId state).advanceRemoteState stateId
      state).latestRemoteState = stateId := rfl
    rw [lookup, if_pos here] at found
    rw [← Option.some.inj found]
    exact ⟨rfl, rfl⟩
  · intro zero
    exact absurd zero positive

theorem accept (lawful : LawfulParser lib.terminal) (invariant : RemoteInvariant protocol)
    (update : StateUpdate) : RemoteInvariant (protocol.acceptRemoteUpdate lib update).2 := by
  have cases_of := accept_cases lib protocol update
  generalize protocol.acceptRemoteUpdate lib update = outcome at cases_of
  cases cases_of with
  | ignored quiet => exact invariant
  | stored base target batch fresh discards forward present decoded applied =>
      have known := AList.mem_of_lookup present
      have baseFormed := RemoteTerminalState.clone_formed (invariant.formed _ _ present)
      have targetFormed := (RemoteTerminalState.apply_spec lawful baseFormed applied).1
      have kept := invariant.discarded known discards
      have below := invariant.floor_below_target known discards forward
      have positive : update.targetState ≠ 0 := by
        intro zero
        rw [zero] at forward
        exact UInt64.not_lt.mpr UInt64.zero_le forward
      have storage := store_cases lib protocol update target
      generalize protocol.storeRemoteState lib update target = outcome at storage
      cases storage with
      | full crowded => exact kept
      | held room late =>
          apply kept.inserted targetFormed (UInt64.le_of_lt below)
          · intro same
            apply fresh
            rw [same]
            apply invariant.present
            change update.targetState = protocol.latestRemoteState at same
            rw [← same]
            exact UInt64.le_trans (invariant.above _ known) (UInt64.le_of_lt forward)
          · intro zero
            obtain ⟨_, _, empty⟩ := invariant.blank zero
            have prefixed : protocol.deliveredRemoteState.history.stream <+: target.history.stream := by
              rw [empty]
              exact List.nil_prefix
            obtain ⟨diff, built⟩ := (RemoteTerminalState.diff_from_ok_iff lawful targetFormed
              invariant.delivered).mpr (Or.inl prefixed)
            rcases late with old | ⟨error, failed⟩
            · change protocol.latestRemoteState = 0 at zero
              rw [zero] at old
              exact positive (UInt64.le_zero_iff.mp old)
            · rw [built] at failed
              cases failed
      | advanced room newer diff built =>
          exact kept.advanced targetFormed (UInt64.le_of_lt below) positive

theorem perform (lawful : LawfulParser lib.terminal) (invariant : RemoteInvariant protocol)
    (operation : ProtocolOperation) :
    RemoteInvariant (protocol.perform lib operation).2 := by
  by_cases inbound : operation.isInbound = true
  · cases operation with
    | ingestPacket packet =>
        cases ingest_packet_remote lib protocol packet with
        | unchanged same quiet => exact invariant.of_same same
        | accepted middle update before after advance =>
            exact ((invariant.of_same before).accept lawful update).of_same after
    | setInitialRemoteViewport columns rows => exact invariant.set_initial_viewport columns rows
    | _ => cases inbound
  · have frame := (perform_outbound lib protocol operation (Bool.not_eq_true _ ▸ inbound)).1
    exact invariant.of_same frame.toSameRemote

theorem reachable (lawful : LawfulParser lib.terminal) (key : SessionKey)
    (operations : List ProtocolOperation) :
    RemoteInvariant (ClientProtocol.after lib key operations) := by
  apply invariant_final _ RemoteInvariant _ (initial lib.terminal key)
  intro protocol operation invariant
  exact invariant.perform lawful operation

end RemoteInvariant

variable {lib}

/-- The instructions that the host decodes from a delivered update. -/
def deliveredInstructions (codec : Codec) (update : StateUpdate) : List Instruction :=
  ((codec.decodeBatch update.delta).map InstructionBatch.instructions).getD []

theorem delivered_instructions_encoded (lawful : LawfulCodec lib.codec) (update : StateUpdate)
    (diff : InstructionBatch) :
    deliveredInstructions lib.codec { update with delta := diff.encodeBytes } = diff.instructions := by
  rw [deliveredInstructions, lawful.decode_batch]
  rfl

/-- The echo acknowledgement of a diff adds nothing to the stream. -/
theorem instructions_stream_echo {terminal : Terminal} (target delivered : RemoteTerminalState terminal)
    (rest : List Instruction) :
    instructionsStream (target.echoInstructions delivered ++ rest) = instructionsStream rest := by
  rw [instructions_stream_append]
  unfold RemoteTerminalState.echoInstructions
  split_ifs
  · cases target.echoAck <;> rfl
  · rfl

/-- An update that advances the newest remote state carries the diff between the state
that is delivered after it and the one before. -/
theorem accept_advance_diff (lawful : LawfulLibraries lib) {protocol : ClientProtocol lib.terminal}
    (invariant : RemoteInvariant protocol) {update delivered : StateUpdate}
    (advanced : advanceOf (protocol.acceptRemoteUpdate lib update).1 = some delivered) :
    ∃ diff, (protocol.acceptRemoteUpdate lib update).2.deliveredRemoteState.diffFrom
          protocol.deliveredRemoteState = .ok diff ∧
      deliveredInstructions lib.codec delivered = diff.instructions ∧
      WellFormed (protocol.acceptRemoteUpdate lib update).2.deliveredRemoteState := by
  have cases_of := accept_cases lib protocol update
  generalize protocol.acceptRemoteUpdate lib update = outcome at cases_of advanced
  cases cases_of with
  | ignored quiet =>
      rw [quiet] at advanced
      cases advanced
  | stored base target batch fresh discards forward present decoded applied =>
      have baseFormed := RemoteTerminalState.clone_formed (invariant.formed _ _ present)
      have targetFormed :=
        (RemoteTerminalState.apply_spec lawful.terminal.toLawfulParser baseFormed applied).1
      have storage := store_cases lib protocol update target
      generalize protocol.storeRemoteState lib update target = outcome at storage advanced
      cases storage with
      | full crowded => cases advanced
      | held room late => cases advanced
      | advanced room newer diff built =>
          rw [advanceOf, Option.some.injEq] at advanced
          rw [← advanced]
          exact ⟨diff, built, delivered_instructions_encoded lawful.codec update diff, targetFormed⟩

theorem perform_advance_diff (lawful : LawfulLibraries lib) {protocol : ClientProtocol lib.terminal}
    (invariant : RemoteInvariant protocol) {operation : ProtocolOperation} {delivered : StateUpdate}
    (advanced : (protocol.perform lib operation).1.advance? = some delivered) :
    ∃ diff, (protocol.perform lib operation).2.deliveredRemoteState.diffFrom
          protocol.deliveredRemoteState = .ok diff ∧
      deliveredInstructions lib.codec delivered = diff.instructions ∧
      WellFormed (protocol.perform lib operation).2.deliveredRemoteState := by
  cases operation with
  | ingestPacket packet =>
      cases ingest_packet_remote lib protocol packet with
      | unchanged same quiet =>
          have none_delivered : (protocol.perform lib (.ingestPacket packet)).1.advance? = none := quiet
          rw [none_delivered] at advanced
          cases advanced
      | accepted middle update before after advance =>
          have passed : advanceOf (middle.acceptRemoteUpdate lib update).1 = some delivered := by
            rw [← advance]
            exact advanced
          have diffed := accept_advance_diff lawful (invariant.of_same before) passed
          rw [before.delivered] at diffed
          have last : (protocol.perform lib (.ingestPacket packet)).2.deliveredRemoteState =
              (middle.acceptRemoteUpdate lib update).2.deliveredRemoteState := after.delivered
          rw [last]
          exact diffed
  | _ => cases advanced

end ClientProtocol

end FerrumTty.Session
