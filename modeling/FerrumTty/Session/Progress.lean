import FerrumTty.Session.RemoteUpdates
import FerrumTty.Session.Transport
import FerrumTty.State.FullHistory

/-!
# Whether remote output goes on

An update on the newest remote state is delivered unless a compaction cut the history
that the host was shown and no screen diff is open.
-/

namespace FerrumTty.Session

set_option autoImplicit false

open Crypto Wire State Runs Proto3

namespace ClientProtocol

variable {lib : Libraries}

/-- The stream of a target that was built behind a snapshot of the base. -/
def compactedStream {terminal : Terminal} (base : RemoteTerminalState terminal)
    (batch : InstructionBatch) : List StreamItem :=
  (terminal.stateFormatted base.parser.screen).map .byte ++
    addedStream base.viewport batch.instructions

/-- When an update on the newest remote state is delivered: its history has room for the
batch, or the compacted target still extends it, or a screen diff is open. -/
def DeliverableFrom {terminal : Terminal} (base : RemoteTerminalState terminal)
    (batch : InstructionBatch) : Prop :=
  base.validateHistoryGrowth batch = .ok () ∨
    base.history.stream <+: compactedStream base batch ∨
    viewportAfter base.viewport batch.instructions = base.viewport ∧
      ¬ HasResize (beyondCommon (compactedStream base batch) base.history.stream) ∧
      ¬ HasResize (beyondCommon base.history.stream (compactedStream base batch))

/-- On the newest remote state the two ways to build a diff come down to the batch. -/
theorem deliverable_iff (lawful : LawfulTerminal lib.terminal)
    {base delivered target : RemoteTerminalState lib.terminal} {batch : InstructionBatch}
    (baseFormed : WellFormed base) (deliveredFormed : WellFormed delivered)
    (sameHistory : base.history = delivered.history) (sameViewport : base.viewport = delivered.viewport)
    (applied : base.apply batch = .ok target)
    (ground : target.parser.state = lib.terminal.parserStart) :
    (∃ diff, target.diffFrom delivered = .ok diff) ↔ DeliverableFrom base batch := by
  obtain ⟨targetFormed, viewport, _, outcome⟩ :=
    RemoteTerminalState.apply_spec lawful.toLawfulParser baseFormed applied
  rw [RemoteTerminalState.diff_from_ok_iff lawful.toLawfulParser targetFormed deliveredFormed,
    DeliverableFrom, ← sameHistory]
  rcases outcome with ⟨fits, stream⟩ | ⟨full, baseGround, stream⟩
  · have prefixed : base.history.stream <+: target.history.stream := by
      rw [stream]
      exact List.prefix_append _ _
    simp [fits, prefixed]
  · have compacted : target.history.stream = compactedStream base batch := stream
    have allowed : RemoteTerminalState.ScreenDiffAllowed target delivered ↔
        viewportAfter base.viewport batch.instructions = base.viewport ∧
          ¬ HasResize (beyondCommon (compactedStream base batch) base.history.stream) ∧
          ¬ HasResize (beyondCommon base.history.stream (compactedStream base batch)) := by
      constructor
      · intro open_
        refine ⟨?_, ?_, ?_⟩
        · rw [← viewport, open_.sameViewport, sameViewport]
        · rw [← compacted, sameHistory]
          exact open_.targetTail
        · rw [← compacted, sameHistory]
          exact open_.deliveredTail
      · intro conditions
        obtain ⟨unchanged, targetTail, deliveredTail⟩ := conditions
        rw [← compacted, sameHistory] at targetTail deliveredTail
        refine ⟨?_, targetTail, deliveredTail, ?_, ?_⟩
        · rw [viewport, unchanged, sameViewport]
        · rw [← targetFormed.replayed, ground]
        · rw [← sameHistory, baseGround]
    rw [allowed, compacted]
    simp [full]

/-- `accept_advances_iff` for any protocol whose remote states are well formed. -/
theorem RemoteInvariant.advances_iff (lawful : LawfulTerminal lib.terminal)
    {protocol : ClientProtocol lib.terminal} (invariant : RemoteInvariant protocol)
    {update : StateUpdate} {base target : RemoteTerminalState lib.terminal} {batch : InstructionBatch}
    (onLatest : update.baseState = protocol.latestRemoteState)
    (present : protocol.receivedStates.lookup update.baseState = some base)
    (newer : protocol.latestRemoteState < update.targetState)
    (discards : update.discardBefore ≤ update.baseState)
    (decoded : update.decodeInstructions lib.codec = .ok batch)
    (applied : base.clone.apply batch = .ok target)
    (ground : target.parser.state = lib.terminal.parserStart)
    (room : (protocol.discardedFor update).receivedStates.len < MAXIMUM_RECEIVED_STATES) :
    (∃ delivered, (protocol.acceptRemoteUpdate lib update).1 = .ok (true, delivered) ∧
        (protocol.acceptRemoteUpdate lib update).2.latestRemoteState = update.targetState) ↔
      update.targetState ∉ protocol.receivedStates ∧ DeliverableFrom base.clone batch := by
  have baseFormed := RemoteTerminalState.clone_formed (invariant.formed _ _ present)
  have latestPresent := present
  rw [onLatest] at latestPresent
  obtain ⟨sameHistory, sameViewport⟩ := invariant.agrees base latestPresent
  rw [← deliverable_iff lawful baseFormed invariant.delivered sameHistory sameViewport applied ground]
  unfold acceptRemoteUpdate
  by_cases known : update.targetState ∈ protocol.receivedStates
  · simp [known]
  · have valid : ¬ (update.discardBefore > update.baseState ∨
        update.targetState ≤ update.baseState) := by
      rw [onLatest] at discards ⊢
      rw [not_or]
      exact ⟨UInt64.not_lt.mpr discards, UInt64.not_le.mpr newer⟩
    rw [if_neg known, if_neg valid]
    simp only [present, decoded, applied]
    have storage := store_cases lib protocol update target
    generalize protocol.storeRemoteState lib update target = outcome at storage
    cases storage with
    | full crowded => exact absurd room (Nat.not_lt.mpr crowded)
    | held _ late =>
        have failed : ¬ ∃ diff, target.diffFrom protocol.deliveredRemoteState = .ok diff := by
          rcases late with old | ⟨error, failed⟩
          · exact absurd newer (UInt64.not_lt.mpr old)
          · simp [failed]
        simp [known, failed]
    | advanced _ _ diff built => simp [known, built, advanceRemoteState]

/-- Remote output goes on over an update exactly when its target is not retained already
and the batch is deliverable from the newest remote state. -/
theorem accept_advances_iff (lawful : LawfulTerminal lib.terminal) (key : SessionKey)
    (operations : List ProtocolOperation) (update : StateUpdate)
    (base target : RemoteTerminalState lib.terminal) (batch : InstructionBatch)
    (onLatest : update.baseState = (after lib key operations).latestRemoteState)
    (present : (after lib key operations).receivedStates.lookup update.baseState = some base)
    (newer : (after lib key operations).latestRemoteState < update.targetState)
    (discards : update.discardBefore ≤ update.baseState)
    (decoded : update.decodeInstructions lib.codec = .ok batch)
    (applied : base.clone.apply batch = .ok target)
    (ground : target.parser.state = lib.terminal.parserStart)
    (room : ((after lib key operations).discardedFor update).receivedStates.len <
      MAXIMUM_RECEIVED_STATES) :
    (∃ delivered, ((after lib key operations).acceptRemoteUpdate lib update).1 = .ok (true, delivered) ∧
        ((after lib key operations).acceptRemoteUpdate lib update).2.latestRemoteState =
          update.targetState) ↔
      update.targetState ∉ (after lib key operations).receivedStates ∧
        DeliverableFrom base.clone batch :=
  (RemoteInvariant.reachable lawful.toLawfulParser key operations).advances_iff lawful onLatest present
    newer discards decoded applied ground room

theorem accept_first (lawful : LawfulTerminal lib.terminal) {key : SessionKey}
    {protocol : ClientProtocol lib.terminal} (same : SameRemote (new lib.terminal key) protocol)
    {update : StateUpdate} {target : RemoteTerminalState lib.terminal} {batch : InstructionBatch}
    (blank : update.baseState = 0) (positive : update.targetState ≠ 0)
    (discards : update.discardBefore = 0) (decoded : update.decodeInstructions lib.codec = .ok batch)
    (applied : (initialRemoteState lib.terminal).clone.apply batch = .ok target) :
    (protocol.acceptRemoteUpdate lib update).2.latestRemoteState = update.targetState ∧
      (protocol.acceptRemoteUpdate lib update).2.receivedStates.lookup update.targetState =
        some target.clone ∧
      (protocol.acceptRemoteUpdate lib update).2.receivedStates.len ≤ 2 := by
  have invariant := (RemoteInvariant.initial lib.terminal key).of_same same
  have single : protocol.receivedStates =
      AList.insert 0 (initialRemoteState lib.terminal).clone ∅ := same.received
  have size : protocol.receivedStates.len = 1 := by
    rw [single]
    exact AList.len_insert_of_not_mem (AList.notMem_empty 0) _
  have present : protocol.receivedStates.lookup update.baseState =
      some (initialRemoteState lib.terminal).clone := by
    rw [blank, single]
    exact AList.lookup_insert _
  have absent : update.targetState ∉ protocol.receivedStates := by
    rw [single, AList.mem_insert, not_or]
    exact ⟨positive, AList.notMem_empty _⟩
  have forward : 0 < update.targetState := UInt64.lt_of_le_of_ne UInt64.zero_le (Ne.symm positive)
  have valid : ¬ (update.discardBefore > update.baseState ∨ update.targetState ≤ update.baseState) := by
    rw [blank, discards, not_or]
    exact ⟨UInt64.lt_irrefl 0, UInt64.not_le.mpr forward⟩
  have targetFormed := (RemoteTerminalState.apply_spec lawful.toLawfulParser
    (RemoteTerminalState.clone_formed (invariant.formed _ _ present)) applied).1
  have kept : (protocol.discardedFor update).receivedStates.len ≤ 1 :=
    Nat.le_trans (AList.len_retain_le _ _) (Nat.le_of_eq size)
  unfold acceptRemoteUpdate
  rw [if_neg absent, if_neg valid, present]
  dsimp only
  rw [decoded]
  have applies : (initialRemoteState lib.terminal).clone.clone.apply batch = .ok target := applied
  dsimp only
  rw [applies]
  dsimp only
  have storage := store_cases lib protocol update target
  generalize protocol.storeRemoteState lib update target = outcome at storage
  cases storage with
  | full crowded =>
      have bound : 1 < MAXIMUM_RECEIVED_STATES := by decide
      omega
  | held room late =>
      rcases late with old | ⟨error, failed⟩
      · have newest : protocol.latestRemoteState = 0 := same.latest
        rw [newest] at old
        exact absurd forward (UInt64.not_lt.mpr old)
      · have empty : protocol.deliveredRemoteState.history.stream = [] := by
          rw [same.delivered]
          rfl
        obtain ⟨diff, built⟩ := (RemoteTerminalState.diff_from_ok_iff lawful.toLawfulParser targetFormed
          invariant.delivered).mpr (Or.inl (by rw [empty]; exact List.nil_prefix))
        rw [built] at failed
        cases failed
  | advanced room newer diff built =>
      refine ⟨rfl, AList.lookup_insert _, ?_⟩
      have fresh : update.targetState ∉ (protocol.discardedFor update).receivedStates := by
        intro member
        exact absent (AList.mem_retain.mp member).2
      have grown := AList.len_insert_of_not_mem fresh target.clone
      change ((protocol.discardedFor update).receivedStates.insert update.targetState
        target.clone).len ≤ 2
      omega

/-- Behind a full history with a resize in it, one more byte is not deliverable. -/
theorem full_not_deliverable {terminal : Terminal} {blank : RemoteTerminalState terminal}
    (start : BlankState blank) {number : Nat} (full : number + 1 = MAX_RETAINED_OPERATIONS)
    (value : UInt8) :
    ¬ DeliverableFrom (resizedWithControls blank number) ⟨[hostBytesInstruction [value]]⟩ := by
  have stream := start.stream number
  have added : addedStream (resizedWithControls blank number).viewport [hostBytesInstruction [value]] =
      [.byte value] := rfl
  have compacted : compactedStream (resizedWithControls blank number)
      ⟨[hostBytesInstruction [value]]⟩ =
      (terminal.stateFormatted (resizedWithControls blank number).parser.screen ++ [value]).map .byte := by
    rw [compactedStream, added, List.map_append]
    rfl
  have written (item : StreamItem) (member : item ∈ compactedStream (resizedWithControls blank number)
      ⟨[hostBytesInstruction [value]]⟩) : ∃ byte, item = .byte byte := by
    rw [compacted] at member
    obtain ⟨byte, -, same⟩ := List.mem_map.mp member
    exact ⟨byte, same.symm⟩
  intro deliverable
  rcases deliverable with fits | prefixed | ⟨_, _, resizeFree⟩
  · exact start.no_room number full value fits
  · have resize : StreamItem.viewport (viewportOf 2 1) ∈
        (resizedWithControls blank number).history.stream := by
      rw [stream]
      exact List.mem_cons_self
    obtain ⟨byte, same⟩ := written _ (prefixed.subset resize)
    cases same
  · apply resizeFree
    rw [beyond_common_of_heads]
    · exact ⟨viewportOf 2 1, by rw [stream]; exact List.mem_cons_self⟩
    · intro item head other
      rw [stream] at head
      cases head
      obtain ⟨byte, same⟩ := written _ (List.mem_of_mem_head? other)
      cases same

def firstUpdate (delta : Bytes) : StateUpdate := { StateUpdate.new 0 1 0 with delta }

/-- One update that resizes the blank state and fills its history. -/
def fillingUpdate : StateUpdate :=
  firstUpdate (resizeAndControls (MAX_RETAINED_OPERATIONS - 1)).encodeBytes

def fillingRun : List ProtocolOperation := (plainPackets [fillingUpdate]).map .ingestPacket

theorem resize_and_controls_length (number : Nat) :
    (resizeAndControls number).encodeBytes.length = 8 + number * 4 := by
  have first : (WireField.mk 1 (.bytes (encodeFields (viewportInstruction 2 1).fields))).encode.length =
      8 := by decide
  have control : (WireField.mk 1 (.bytes (encodeFields
      (sessionControlInstruction emptyControl).fields))).encode.length = 4 := by decide
  have rest := encode_replicate_length number
    (WireField.mk 1 (.bytes (encodeFields (sessionControlInstruction emptyControl).fields)))
  rw [control] at rest
  rw [InstructionBatch.encodeBytes, InstructionBatch.fields, resizeAndControls, List.map_cons,
    List.map_replicate, encodeFields, List.flatMap_cons, List.length_append, first]
  rw [encodeFields] at rest
  rw [rest]

theorem first_update_length (delta : Bytes) :
    (firstUpdate delta).encode.length ≤ 6 + 2 * delta.length := by
  have header : encodeFields [⟨1, .varint 2⟩, ⟨3, .varint 1⟩] = [8, 2, 24, 1] := by decide
  have key : (encodeVarint (WireField.mk 6 (.bytes delta)).key).length = 1 := rfl
  have fields : (firstUpdate delta).fields =
      [⟨1, .varint 2⟩, ⟨3, .varint 1⟩] ++ bytesField 6 delta := by
    simp [firstUpdate, StateUpdate.fields, StateUpdate.new, varintField, bytesField, PROTOCOL_VERSION]
  have encoded : (encodeFields (bytesField 6 delta)).length ≤ 2 + 2 * delta.length := by
    have prefixed := encode_varint_length_le delta.length
    rw [bytesField]
    split_ifs
    · exact Nat.zero_le _
    · simp only [encodeFields, List.flatMap_cons, List.flatMap_nil, List.append_nil, WireField.encode,
        FieldValue.encode, List.length_append, key]
      omega
  rw [StateUpdate.encode, fields, encodeFields, List.flatMap_append, List.length_append]
  rw [encodeFields] at header encoded
  rw [header, List.length_cons, List.length_cons, List.length_cons, List.length_cons, List.length_nil]
  omega

theorem filling_update_length : STORED_HEADER.length + fillingUpdate.encode.length ≤ 1048576 := by
  have delta := resize_and_controls_length (MAX_RETAINED_OPERATIONS - 1)
  have length := first_update_length (resizeAndControls (MAX_RETAINED_OPERATIONS - 1)).encodeBytes
  have header : STORED_HEADER.length = 2 := rfl
  have operations : MAX_RETAINED_OPERATIONS - 1 = 65535 := rfl
  rw [delta] at length
  rw [fillingUpdate, header]
  omega

theorem initial_blank : BlankState (initialRemoteState lineTerminal) where
  fresh := rfl
  other := by decide
  parser := rfl

/-- What the filling update leaves behind: the newest state is the full history. -/
theorem filling_run_state :
    ∃ protocol : ClientProtocol lineTerminal,
      SameRemote protocol (after plainLibraries zeroKey fillingRun) ∧
      protocol.latestRemoteState = 1 ∧ protocol.receivedStates.len ≤ 2 ∧
      protocol.receivedStates.lookup 1 = some (resizedWithControls (initialRemoteState lineTerminal)
        (MAX_RETAINED_OPERATIONS - 1)) := by
  have short := filling_update_length
  have fits : (STORED_HEADER ++ fillingUpdate.encode).length ≤ 1048576 := by
    rw [List.length_append]
    exact short
  obtain ⟨encoded, next, sealed⟩ := plain_packets_single rfl
    (Nat.le_trans fits (by decide))
  obtain ⟨window, ingested⟩ := ingest_sealed_update lawful_plain_libraries (new_ready plainLibraries.terminal zeroKey) rfl rfl
    (Nat.le_trans (Nat.le_trans (Nat.le_add_left _ _) short) (by decide)) encoded
    (Nat.le_trans fits (by decide)) (AList.notMem_empty _) (by decide) sealed
  have arrival := arrived_same (new plainLibraries.terminal zeroKey) window 0
    ((new plainLibraries.terminal zeroKey).assemblies.erase fillingUpdate.targetState)
  have start := arrival.trans
    (process_acknowledgement_inbound _ fillingUpdate.acknowledgedState).toSameRemote
  have total : (resizeAndControls (MAX_RETAINED_OPERATIONS - 1)).encodeBytes.length < 2 ^ 64 := by
    have delta := resize_and_controls_length (MAX_RETAINED_OPERATIONS - 1)
    have operations : MAX_RETAINED_OPERATIONS - 1 = 65535 := rfl
    omega
  have decoded : fillingUpdate.decodeInstructions storedCodec =
      .ok (resizeAndControls (MAX_RETAINED_OPERATIONS - 1)) :=
    decode_instructions_encode lawful_stored_codec rfl total
  obtain ⟨newest, found, size⟩ := accept_first lawful_line_terminal start rfl
    (by decide) rfl decoded (initial_blank.apply_controls _ (by decide))
  have cloned := initial_blank.clone_eq (MAX_RETAINED_OPERATIONS - 1)
  refine ⟨_, ?_, newest, size, found.trans (congrArg some cloned)⟩
  rw [after, fillingRun, final_ingest_packets, ingested]
  exact (handle_update_accepts plainLibraries _ fillingUpdate).2

def typingRun : List ProtocolOperation := (plainPackets [hostBytesUpdate 0 1 [0x61]]).map .ingestPacket

def typedState : RemoteTerminalState lineTerminal :=
  ((after plainLibraries zeroKey typingRun).receivedStates.lookup 1).get (by decide +kernel)

theorem typed_state_applies :
    (typedState.clone.apply ⟨[hostBytesInstruction [0x62]]⟩).toOption.isSome := by
  decide +kernel

theorem ok_of_to_option {Error Value : Type} {result : Except Error Value} {value : Value}
    (found : result.toOption = some value) : result = .ok value := by
  cases result with
  | error error => cases found
  | ok other => cases found; rfl

/-- Text goes on behind text. -/
theorem typed_output_goes_on :
    ∃ delivered, ((after plainLibraries zeroKey typingRun).acceptRemoteUpdate plainLibraries
        (hostBytesUpdate 1 2 [0x62])).1 = .ok (true, delivered) ∧
      ((after plainLibraries zeroKey typingRun).acceptRemoteUpdate plainLibraries
        (hostBytesUpdate 1 2 [0x62])).2.latestRemoteState = 2 :=
  (accept_advances_iff lawful_line_terminal zeroKey typingRun
    (hostBytesUpdate 1 2 [0x62]) typedState
    ((typedState.clone.apply ⟨[hostBytesInstruction [0x62]]⟩).toOption.get typed_state_applies)
    ⟨[hostBytesInstruction [0x62]]⟩ (by decide +kernel) (Option.some_get _).symm (by decide +kernel)
    (by decide) rfl (ok_of_to_option (Option.some_get _).symm)
    rfl (by decide +kernel)).mpr ⟨by decide +kernel, Or.inl (by decide +kernel)⟩

/-- Behind a full history with a resize in it, the next byte is never shown. -/
theorem full_history_freezes_output :
    ¬ ∀ (base target : RemoteTerminalState lineTerminal) (batch : InstructionBatch),
      (hostBytesUpdate 1 2 [0x61]).baseState =
        (after plainLibraries zeroKey fillingRun).latestRemoteState →
      (after plainLibraries zeroKey fillingRun).receivedStates.lookup
        (hostBytesUpdate 1 2 [0x61]).baseState = some base →
      (after plainLibraries zeroKey fillingRun).latestRemoteState <
        (hostBytesUpdate 1 2 [0x61]).targetState →
      (hostBytesUpdate 1 2 [0x61]).discardBefore ≤ (hostBytesUpdate 1 2 [0x61]).baseState →
      (hostBytesUpdate 1 2 [0x61]).decodeInstructions plainLibraries.codec = .ok batch →
      base.clone.apply batch = .ok target →
      target.parser.state = lineTerminal.parserStart →
      ((after plainLibraries zeroKey fillingRun).discardedFor
        (hostBytesUpdate 1 2 [0x61])).receivedStates.len < MAXIMUM_RECEIVED_STATES →
      ∃ delivered, ((after plainLibraries zeroKey fillingRun).acceptRemoteUpdate plainLibraries
          (hostBytesUpdate 1 2 [0x61])).1 = .ok (true, delivered) ∧
        ((after plainLibraries zeroKey fillingRun).acceptRemoteUpdate plainLibraries
          (hostBytesUpdate 1 2 [0x61])).2.latestRemoteState =
            (hostBytesUpdate 1 2 [0x61]).targetState := by
  intro goesOn
  obtain ⟨protocol, same, newest, size, found⟩ := filling_run_state
  have invariant : RemoteInvariant (after plainLibraries zeroKey fillingRun) :=
    RemoteInvariant.reachable lawful_line_terminal.toLawfulParser zeroKey fillingRun
  obtain ⟨target, applied, ground⟩ := initial_blank.apply_byte (MAX_RETAINED_OPERATIONS - 1)
    lawful_line_terminal.toLawfulParser (by decide) (by decide) 0x61
  have cloned := initial_blank.clone_eq (MAX_RETAINED_OPERATIONS - 1)
  generalize after plainLibraries zeroKey fillingRun = reached at *
  have latest : reached.latestRemoteState = 1 := same.latest.trans newest
  have present : reached.receivedStates.lookup 1 =
      some (resizedWithControls (initialRemoteState lineTerminal) (MAX_RETAINED_OPERATIONS - 1)) := by
    rw [same.received]
    exact found
  have room : (reached.discardedFor (hostBytesUpdate 1 2 [0x61])).receivedStates.len <
      MAXIMUM_RECEIVED_STATES := by
    have kept : (reached.discardedFor (hostBytesUpdate 1 2 [0x61])).receivedStates.len ≤
        reached.receivedStates.len := AList.len_retain_le _ _
    rw [same.received] at kept
    exact Nat.lt_of_le_of_lt (Nat.le_trans kept size) (by decide)
  rw [← cloned] at applied
  have decoded : (hostBytesUpdate 1 2 [0x61]).decodeInstructions plainLibraries.codec =
      .ok ⟨[hostBytesInstruction [0x61]]⟩ := rfl
  have advanced := goesOn _ target _ latest.symm present (by rw [latest]; decide) (by decide) decoded
    applied ground room
  have deliverable := ((invariant.advances_iff lawful_line_terminal latest.symm
    present (by rw [latest]; decide) (by decide) decoded applied ground room).mp advanced).2
  have full : MAX_RETAINED_OPERATIONS - 1 + 1 = MAX_RETAINED_OPERATIONS := by decide
  have frozen := full_not_deliverable initial_blank full 0x61
  rw [← cloned] at frozen
  exact frozen deliverable

end ClientProtocol

end FerrumTty.Session
