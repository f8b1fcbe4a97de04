import FerrumTty.Session.RemoteUpdates
import FerrumTty.Session.Transport

/-!
# Active assemblies

An assembly leaves the map only when its message completes, so the first fragments of 64
messages whose other fragments are lost fill it for good. Until then a message of one
fragment is handled.
-/

namespace FerrumTty.Session

set_option autoImplicit false

open Crypto Wire State Runs Fragment

namespace ClientProtocol

variable {lib : Libraries}

/-- An authenticated datagram that was not seen before, with a whole message in its only
fragment and no assembly under its identifier. -/
structure FreshDatagram (protocol : ClientProtocol lib.terminal) (packet : Bytes)
    (authenticated : AuthenticatedPacket) (fragment : Fragment) (update : StateUpdate) : Prop where
  opens : protocol.secureChannel.openPacket lib.aead packet = .ok authenticated
  unseen : (protocol.replayWindow.accept authenticated.counter).1 = true
  parsed : parse authenticated.plaintext = .ok fragment
  first : fragment.header.index = 0
  single : fragment.header.isFinal = true
  unassembled : fragment.header.stateId ∉ protocol.assemblies
  decoded : decodeCompressedUpdate lib.codec fragment.body = .ok update

def Handles (protocol : ClientProtocol lib.terminal) (packet : Bytes)
    (authenticated : AuthenticatedPacket) (fragment : Fragment) : Prop :=
  ∃ window, protocol.ingestPacket lib packet =
    (protocol.arrived window fragment.header.sentTimestamp
      (protocol.assemblies.erase fragment.header.stateId)).handleMessage lib authenticated
        fragment.header fragment.body

theorem parse_header {plaintext : Bytes} {fragment : Fragment}
    (parsed : parse plaintext = .ok fragment) :
    FRAGMENT_HEADER_BYTES ≤ plaintext.length ∧
      fragment.header.sentTimestamp = readWord16 (plaintext.take 2) ∧
      fragment.body.length ≤ MAX_RECEIVED_FRAGMENT_BODY_BYTES := by
  unfold parse at parsed
  dsimp only at parsed
  split_ifs at parsed with short large
  cases parsed
  exact ⟨Nat.le_of_not_lt short, rfl, Nat.le_of_not_lt large⟩

/-- A packet that opens and was not seen before is as good as its parsed fragment. -/
theorem ingest_parsed {protocol : ClientProtocol lib.terminal} {packet : Bytes}
    {authenticated : AuthenticatedPacket} {fragment : Fragment}
    (opens : protocol.secureChannel.openPacket lib.aead packet = .ok authenticated)
    (unseen : (protocol.replayWindow.accept authenticated.counter).1 = true)
    (parsed : parse authenticated.plaintext = .ok fragment) :
    ∃ window, protocol.ingestPacket lib packet =
      (protocol.arrived window fragment.header.sentTimestamp protocol.assemblies).handleFragment lib
        authenticated fragment := by
  obtain ⟨length, stamp, _⟩ := parse_header parsed
  have shortest : TIMESTAMP_HEADER_BYTES ≤ FRAGMENT_HEADER_BYTES := by decide
  have minimum : MINIMUM_FRAGMENT_PLAINTEXT_BYTES = FRAGMENT_HEADER_BYTES := rfl
  refine ⟨(protocol.replayWindow.accept authenticated.counter).2, ?_⟩
  rw [ingestPacket, opens]
  simp only [unseen, Bool.not_true, Bool.false_eq_true, if_false]
  unfold handlePlaintext
  dsimp only
  rw [if_neg (by omega), if_neg (by omega), parsed, stamp]
  rfl

theorem push_single {fragment : Fragment} (first : fragment.header.index = 0)
    (single : fragment.header.isFinal = true)
    (fits : fragment.body.length ≤ MAXIMUM_REASSEMBLED_BYTES) :
    ∃ after, (FragmentAccumulator.new fragment.header.stateId MAXIMUM_REASSEMBLED_BYTES).push fragment =
      (.ok (some fragment.body), after) := by
  let start := FragmentAccumulator.new fragment.header.stateId MAXIMUM_REASSEMBLED_BYTES
  have stored : start.push fragment =
      (start.marked fragment).store fragment.header.index fragment.body := by
    apply FragmentAccumulator.push_eq_store rfl
    · intro finalIndex known
      cases known
    · intro _ finalIndex known
      cases known
    · intro _ stored member
      exact absurd member (AList.notMem_empty stored)
  have absent : (start.marked fragment).fragments.lookup fragment.header.index = none := by
    rw [FragmentAccumulator.marked_fragments]
    rfl
  have room : (start.marked fragment).totalBytes + fragment.body.length ≤
      (start.marked fragment).maximumMessageBytes := by
    rw [FragmentAccumulator.marked_total_bytes, FragmentAccumulator.marked_maximum_message_bytes]
    change 0 + fragment.body.length ≤ MAXIMUM_REASSEMBLED_BYTES
    omega
  have kept := FragmentAccumulator.store_absent absent room
  have complete : ((start.marked fragment).withBody fragment.header.index fragment.body).tryComplete =
      .ok (some (fragment.body ++ [])) := by
    rw [FragmentAccumulator.marked, if_pos single, first]
    rfl
  rw [List.append_nil] at complete
  exact ⟨_, by rw [stored, kept, complete]⟩

variable (protocol : ClientProtocol lib.terminal) (authenticated : AuthenticatedPacket)

theorem handle_fragment_single {fragment : Fragment} (first : fragment.header.index = 0)
    (single : fragment.header.isFinal = true)
    (fits : fragment.body.length ≤ MAXIMUM_REASSEMBLED_BYTES)
    (unassembled : fragment.header.stateId ∉ protocol.assemblies)
    (room : protocol.assemblies.len < MAXIMUM_ACTIVE_ASSEMBLIES) :
    protocol.handleFragment lib authenticated fragment =
      ({ protocol with assemblies := protocol.assemblies.erase fragment.header.stateId } :
        ClientProtocol lib.terminal).handleMessage lib authenticated fragment.header fragment.body := by
  obtain ⟨after, pushed⟩ := push_single first single fits
  have open_ : ¬ (fragment.header.stateId ∉ protocol.assemblies ∧
      protocol.assemblies.len ≥ MAXIMUM_ACTIVE_ASSEMBLIES) := by
    intro crowded
    exact absurd room (Nat.not_lt.mpr crowded.2)
  rw [handleFragment]
  simp only
  rw [if_neg open_, AList.lookup_eq_none.mpr unassembled, Option.getD_none, pushed]
  simp only
  rw [AList.erase_insert_same]

theorem handle_fragment_crowded {fragment : Fragment}
    (unassembled : fragment.header.stateId ∉ protocol.assemblies)
    (crowded : MAXIMUM_ACTIVE_ASSEMBLIES ≤ protocol.assemblies.len) :
    protocol.handleFragment lib authenticated fragment =
      (.error .tooManyActiveAssemblies, protocol) := by
  rw [handleFragment]
  simp only
  rw [if_pos ⟨unassembled, crowded⟩]

/-- Neither an update nor a message is ever refused for want of an assembly. -/
theorem handle_update_not_crowded (update : StateUpdate) :
    (protocol.handleUpdate lib update).1 ≠ .error .tooManyActiveAssemblies := by
  rw [(handle_update_accepts lib protocol update).1]
  generalize protocol.processAcknowledgement update.acknowledgedState = reached
  unfold acceptRemoteUpdate
  split_ifs
  · simp
  · simp
  · split
    · simp
    · split
      · simp
      · split
        · simp
        · unfold storeRemoteState
          dsimp only
          split_ifs <;> simp

theorem handle_message_not_crowded (header : FragmentHeader) {compressed : Bytes}
    {update : StateUpdate} (decoded : decodeCompressedUpdate lib.codec compressed = .ok update) :
    (protocol.handleMessage lib authenticated header compressed).1 ≠ .error .tooManyActiveAssemblies := by
  have accepted := handle_update_not_crowded protocol update
  unfold handleMessage
  rw [decoded]
  dsimp only
  cases handled : protocol.handleUpdate lib update with
  | mk result next =>
      rw [handled] at accepted
      cases result with
      | error error =>
          intro refused
          exact accepted (congrArg Except.error (Except.error.inj refused))
      | ok value => simp

variable {protocol} {authenticated}

theorem fresh_datagram_iff {packet : Bytes} {fragment : Fragment} {update : StateUpdate}
    (fresh : protocol.FreshDatagram packet authenticated fragment update) :
    (protocol.Handles packet authenticated fragment ∧
        (protocol.ingestPacket lib packet).1 ≠ .error .tooManyActiveAssemblies) ↔
      protocol.assemblies.len < MAXIMUM_ACTIVE_ASSEMBLIES := by
  obtain ⟨window, ingested⟩ := ingest_parsed fresh.opens fresh.unseen fresh.parsed
  by_cases room : protocol.assemblies.len < MAXIMUM_ACTIVE_ASSEMBLIES
  · obtain ⟨_, _, bounded⟩ := parse_header fresh.parsed
    have handled := handle_fragment_single
      (protocol.arrived window fragment.header.sentTimestamp protocol.assemblies) authenticated
      fresh.first fresh.single (Nat.le_trans bounded (by decide)) fresh.unassembled room
    rw [← ingested] at handled
    refine iff_of_true ⟨⟨window, handled⟩, ?_⟩ room
    rw [handled]
    exact handle_message_not_crowded _ _ _ fresh.decoded
  · have refused := handle_fragment_crowded
      (protocol.arrived window fragment.header.sentTimestamp protocol.assemblies) authenticated
      fresh.unassembled (Nat.le_of_not_lt room)
    rw [← ingested] at refused
    refine iff_of_false ?_ room
    intro accepted
    exact accepted.2 (by rw [refused])

/-- In every state that a run reaches, a fresh message of one fragment is handled, and not
refused for want of an assembly, exactly when fewer than 64 messages are unfinished. -/
theorem single_fragment_handled_iff (key : SessionKey) (operations : List ProtocolOperation)
    (packet : Bytes) (authenticated : AuthenticatedPacket) (fragment : Fragment) (update : StateUpdate)
    (fresh : (after lib key operations).FreshDatagram packet authenticated fragment update) :
    ((after lib key operations).Handles packet authenticated fragment ∧
        ((after lib key operations).ingestPacket lib packet).1 ≠ .error .tooManyActiveAssemblies) ↔
      (after lib key operations).assemblies.len < MAXIMUM_ACTIVE_ASSEMBLIES :=
  fresh_datagram_iff fresh

/-- The first fragments of messages under new identifiers each leave an assembly behind. -/
theorem ingest_first_fragments (lawful : LawfulAead lib.aead) {key : SessionKey} {message : Bytes}
    {sentTimestamp echoedTimestamp : UInt16} (few : chunkCount message ≤ 2 ^ 15)
    (several : 1 < chunkCount message) (short : message.length ≤ MAXIMUM_REASSEMBLED_BYTES)
    (stateIds : List UInt64) (distinct : stateIds.Nodup) {count : Nat}
    {protocol : ClientProtocol lib.terminal} (ready : protocol.Ready key count)
    (idle : ∀ stateId ∈ stateIds, stateId ∉ protocol.assemblies)
    (room : protocol.assemblies.len + stateIds.length ≤ MAXIMUM_ACTIVE_ASSEMBLIES)
    {packets : List Bytes} {next : SecureChannel}
    (sealed : sealAll lib.aead (channelAfter .server key count)
      (stateIds.map fun stateId => pieceAt message sentTimestamp echoedTimestamp stateId 0) =
        (.ok packets, next)) :
    next = channelAfter .server key (count + stateIds.length) ∧
      (final (ingestPacket lib) protocol packets).Ready key (count + stateIds.length) ∧
      (final (ingestPacket lib) protocol packets).assemblies.len =
        protocol.assemblies.len + stateIds.length ∧
      ∀ stateId ∈ (final (ingestPacket lib) protocol packets).assemblies,
        stateId ∈ protocol.assemblies ∨ stateId ∈ stateIds := by
  induction stateIds generalizing count protocol packets with
  | nil =>
      cases sealed
      exact ⟨rfl, ready, rfl, fun stateId member => Or.inl member⟩
  | cons stateId rest induction =>
      rw [List.map_cons] at sealed
      rw [List.length_cons] at room
      rw [List.nodup_cons] at distinct
      have fresh := idle stateId List.mem_cons_self
      obtain ⟨packet, restPackets, middle, first, others, written⟩ := seal_all_cons sealed
      obtain ⟨window, assembly, place, ingested, nextReady, _⟩ := ingest_inner lawful few ready
        (start_collecting short fresh (by omega)) several first
      subst place written
      have grown : (protocol.arrived window sentTimestamp
          (protocol.assemblies.insert stateId assembly)).assemblies.len =
          protocol.assemblies.len + 1 := AList.len_insert_of_not_mem fresh assembly
      have restIdle : ∀ other ∈ rest, other ∉ (protocol.arrived window sentTimestamp
          (protocol.assemblies.insert stateId assembly)).assemblies := by
        intro other member present
        rcases (AList.mem_insert _).mp present with same | earlier
        · exact distinct.1 (same ▸ member)
        · exact idle other (List.mem_cons_of_mem _ member) earlier
      obtain ⟨finalPlace, finalReady, size, members⟩ := induction distinct.2 nextReady restIdle
        (by rw [grown]; omega) others
      have counted : count + 1 + rest.length = count + (rest.length + 1) := by omega
      rw [final_cons, ingested, List.length_cons]
      rw [counted] at finalPlace finalReady
      refine ⟨finalPlace, finalReady, by rw [size, grown]; omega, ?_⟩
      intro other member
      rcases members other member with present | later
      · rcases (AList.mem_insert _).mp present with same | earlier
        · exact Or.inr (by rw [same]; exact List.mem_cons_self)
        · exact Or.inl earlier
      · exact Or.inr (List.mem_cons_of_mem _ later)

/-- What the first pieces of a message under many identifiers are sealed as. -/
def firstPackets (message : Bytes) (stateIds : List UInt64) : List Bytes :=
  (sealAll taggingAead (.new .server zeroKey)
    (stateIds.map fun stateId => pieceAt message 0 NO_ECHO_TIMESTAMP stateId 0)).1.toOption.getD []

/-- A message of one fragment, sealed behind a number of other packets. -/
def singlePacket (count : Nat) (update : StateUpdate) (stateId : UInt64) : Bytes :=
  ((channelAfter .server zeroKey count).sealNext taggingAead
    (pieceAt (STORED_HEADER ++ update.encode) 0 NO_ECHO_TIMESTAMP stateId 0).encode).1.toOption.getD []

theorem single_packet_fresh (update : StateUpdate) {protocol : ClientProtocol lineTerminal}
    {count : Nat} (ready : protocol.Ready zeroKey count) (room : count < 2 ^ 63)
    {stateId : UInt64} (unassembled : stateId ∉ protocol.assemblies)
    (short : (STORED_HEADER ++ update.encode).length ≤ MAX_FRAGMENT_BODY_BYTES)
    (decoded : decodeCompressedUpdate storedCodec (STORED_HEADER ++ update.encode) = .ok update) :
    ∃ authenticated fragment, @FreshDatagram plainLibraries protocol
      (singlePacket count update stateId) authenticated fragment update := by
  let fragment := pieceAt (STORED_HEADER ++ update.encode) 0 NO_ECHO_TIMESTAMP stateId 0
  obtain ⟨packets, sealedAll⟩ := seal_all_plain .server zeroKey [fragment] count room
  obtain ⟨packet, others, middle, sealed, _, _⟩ := seal_all_cons sealedAll
  have readable : ∃ counter window, middle = channelAfter .server zeroKey (count + 1) ∧
      protocol.secureChannel.openPacket taggingAead packet =
        .ok { counter, plaintext := fragment.encode } ∧
      protocol.replayWindow.accept counter = (true, window) ∧
      ∀ highest, window.highest = some highest → highest.toNat < count + 1 :=
    @Ready.opens plainLibraries _ _ _ lawful_tagging_aead ready _ _ _ sealed
  obtain ⟨counter, window, _, opened, accepted, _⟩ := readable
  have written : singlePacket count update stateId = packet := by
    rw [singlePacket, sealed]
    rfl
  have single : 0 + 1 = chunkCount (STORED_HEADER ++ update.encode) :=
    ((chunk_count_eq_one_iff _).mpr short).symm
  have whole : Chunks.window MAX_FRAGMENT_BODY_BYTES (STORED_HEADER ++ update.encode) 0 =
      STORED_HEADER ++ update.encode := by
    rw [Chunks.window, Nat.zero_mul, List.drop_zero, List.take_of_length_le short]
  refine ⟨{ counter, plaintext := fragment.encode }, fragment, ?_⟩
  rw [written]
  exact
    { opens := opened
      unseen := congrArg Prod.fst accepted
      parsed := parse_encode_piece _ _ _ _ 0 (by decide)
      first := rfl
      single := decide_eq_true single
      unassembled := unassembled
      decoded := (congrArg (decodeCompressedUpdate storedCodec) whole).trans decoded }

theorem fresh_message_handled :
    ∃ authenticated fragment, Handles (after plainLibraries zeroKey [])
      (singlePacket 0 (hostBytesUpdate 0 1 [0x61]) 1) authenticated fragment := by
  obtain ⟨authenticated, fragment, fresh⟩ := single_packet_fresh (hostBytesUpdate 0 1 [0x61])
    (new_ready lineTerminal zeroKey) (by decide) (AList.notMem_empty 1) (by decide) rfl
  exact ⟨authenticated, fragment, ((single_fragment_handled_iff zeroKey [] _
    authenticated fragment _ fresh).mpr (by decide)).1⟩

/-- The identifiers of 64 messages of two fragments whose second fragment is lost. -/
def lostIdentifiers : List UInt64 := (List.range MAXIMUM_ACTIVE_ASSEMBLIES).map UInt64.ofNat

def lostMessage : Bytes := STORED_HEADER ++ (hostBytesUpdate 0 1 (List.replicate 1300 0x61)).encode

def lostRun : List ProtocolOperation := (firstPackets lostMessage lostIdentifiers).map .ingestPacket

theorem lost_run_state : (after plainLibraries zeroKey lostRun).Ready zeroKey MAXIMUM_ACTIVE_ASSEMBLIES ∧
    (after plainLibraries zeroKey lostRun).assemblies.len = MAXIMUM_ACTIVE_ASSEMBLIES ∧
    ∀ stateId ∈ (after plainLibraries zeroKey lostRun).assemblies, stateId ∈ lostIdentifiers := by
  have length : lostMessage.length = 1318 := by decide +kernel
  have few : chunkCount lostMessage ≤ 2 ^ 15 := by
    rw [chunkCount, length]
    decide
  have several : 1 < chunkCount lostMessage := by
    rw [chunkCount, length]
    decide
  obtain ⟨packets, sealed⟩ := seal_all_plain .server zeroKey (lostIdentifiers.map fun stateId =>
    pieceAt lostMessage 0 NO_ECHO_TIMESTAMP stateId 0) 0 (by rw [List.length_map]; decide)
  obtain ⟨_, ready, size, members⟩ := ingest_first_fragments lawful_tagging_aead
    few several (by rw [length]; decide) lostIdentifiers (by decide)
    (new_ready plainLibraries.terminal zeroKey) (fun stateId _ => AList.notMem_empty stateId) (by decide)
    sealed
  have written : firstPackets lostMessage lostIdentifiers = packets := by
    rw [firstPackets, ← channel_after_zero, sealed]
    rfl
  rw [after, lostRun, final_ingest_packets, written]
  refine ⟨ready, size, ?_⟩
  intro stateId member
  exact (members stateId member).resolve_left (AList.notMem_empty stateId)

/-- After 64 lost fragments a whole message is refused. -/
theorem lost_fragments_refuse_message :
    ¬ ∀ authenticated fragment, FreshDatagram (after plainLibraries zeroKey lostRun)
        (singlePacket MAXIMUM_ACTIVE_ASSEMBLIES (hostBytesUpdate 0 1 [0x61]) 100) authenticated fragment
        (hostBytesUpdate 0 1 [0x61]) →
      Handles (after plainLibraries zeroKey lostRun)
          (singlePacket MAXIMUM_ACTIVE_ASSEMBLIES (hostBytesUpdate 0 1 [0x61]) 100) authenticated
          fragment ∧
        ((after plainLibraries zeroKey lostRun).ingestPacket plainLibraries
          (singlePacket MAXIMUM_ACTIVE_ASSEMBLIES (hostBytesUpdate 0 1 [0x61]) 100)).1 ≠
            .error .tooManyActiveAssemblies := by
  intro handled
  obtain ⟨ready, size, members⟩ := lost_run_state
  obtain ⟨authenticated, fragment, fresh⟩ := single_packet_fresh (hostBytesUpdate 0 1 [0x61]) ready
    (by decide) (fun member => absurd (members 100 member) (by decide)) (by decide) rfl
  have room := (fresh_datagram_iff fresh).mp (handled authenticated fragment fresh)
  rw [size] at room
  exact Nat.lt_irrefl _ room

end ClientProtocol

end FerrumTty.Session
