import FerrumTty.Session.Outbox
import FerrumTty.Session.RemoteUpdates
import FerrumTty.Session.Transport

/-!
# The store of received states

While the server discards only what the client acknowledged, the store holds the state that
the client acknowledges, and no state number comes back once it was pruned.
-/

namespace FerrumTty.Session

set_option autoImplicit false

open Crypto Wire State Runs

namespace ClientProtocol

section Arrival

variable (lib : Libraries) (protocol : ClientProtocol lib.terminal)

/-- The update that a fragment completes. -/
def fragmentUpdate (fragment : Fragment) : Option StateUpdate :=
  let stateId := fragment.header.stateId
  if stateId ∉ protocol.assemblies ∧ protocol.assemblies.len ≥ MAXIMUM_ACTIVE_ASSEMBLIES then none
  else
    match (((protocol.assemblies.lookup stateId).getD
        (.new stateId MAXIMUM_REASSEMBLED_BYTES)).push fragment).1 with
    | .ok (some compressed) => (decodeCompressedUpdate lib.codec compressed).toOption
    | _ => none

def plaintextUpdate (plaintext : Bytes) : Option StateUpdate :=
  if plaintext.length < MINIMUM_FRAGMENT_PLAINTEXT_BYTES then none
  else (Fragment.parse plaintext).toOption.bind (protocol.fragmentUpdate lib)

/-- The server's update that an authenticated packet completes. -/
def packetUpdate (packet : Bytes) : Option StateUpdate :=
  match protocol.secureChannel.openPacket lib.aead packet with
  | .error _ => none
  | .ok authenticated =>
      if (protocol.replayWindow.accept authenticated.counter).1 then
        protocol.plaintextUpdate lib authenticated.plaintext
      else none

def arrivingUpdate : ProtocolOperation → Option StateUpdate
  | .ingestPacket packet => protocol.packetUpdate lib packet
  | _ => none

/-- Only the arriving update reaches the remote states and the send history. -/
inductive Arrival : Option StateUpdate → ClientProtocol lib.terminal → Prop
  | nothing {after : ClientProtocol lib.terminal} (same : SameRemote protocol after)
      (kept : SameSent protocol after) : Arrival none after
  | update {after : ClientProtocol lib.terminal} (middle : ClientProtocol lib.terminal)
      (update : StateUpdate) (before : SameRemote protocol middle)
      (accepted : SameRemote (middle.acceptRemoteUpdate lib update).2 after)
      (acknowledged : SameSent (protocol.processAcknowledgement update.acknowledgedState) after) :
      Arrival (some update) after

variable {lib protocol}

theorem process_acknowledgement_same_sent {first second : ClientProtocol lib.terminal}
    (same : SameSent first second) (acknowledgedState : UInt64) :
    SameSent (first.processAcknowledgement acknowledgedState)
      (second.processAcknowledgement acknowledgedState) := by
  unfold processAcknowledgement
  rw [same.states, same.instructions]
  split
  · exact same
  · dsimp only
    split_ifs
    · exact ⟨same.next, rfl, rfl⟩
    · exact ⟨same.next, rfl, rfl⟩

theorem Arrival.of_same {first second after : ClientProtocol lib.terminal} {arrived : Option StateUpdate}
    (same : SameRemote first second) (kept : SameSent first second)
    (arrival : Arrival lib second arrived after) : Arrival lib first arrived after := by
  cases arrival with
  | nothing remote sent => exact .nothing (same.trans remote) (kept.trans sent)
  | update middle update before accepted acknowledged =>
      exact .update middle update (same.trans before) accepted
        ((process_acknowledgement_same_sent kept _).trans acknowledged)

variable (lib protocol)

theorem handle_message_arrival (authenticated : AuthenticatedPacket) (header : FragmentHeader)
    (compressed : Bytes) :
    Arrival lib protocol (decodeCompressedUpdate lib.codec compressed).toOption
      (protocol.handleMessage lib authenticated header compressed).2 := by
  unfold handleMessage
  cases decoded : decodeCompressedUpdate lib.codec compressed with
  | error error => exact .nothing (.refl protocol) (.refl protocol)
  | ok update =>
      have accepted := (handle_update_accepts lib protocol update).2
      have answered := (handle_update_outbound lib protocol update).same_sent
      have acknowledged := process_acknowledgement_inbound protocol update.acknowledgedState
      dsimp only
      cases handled : protocol.handleUpdate lib update with
      | mk result next =>
          rw [handled] at accepted answered
          cases result with
          | error error => exact .update _ update acknowledged.toSameRemote accepted answered
          | ok value => exact .update _ update acknowledged.toSameRemote accepted answered

theorem handle_fragment_arrival (authenticated : AuthenticatedPacket) (fragment : Fragment) :
    Arrival lib protocol (protocol.fragmentUpdate lib fragment)
      (protocol.handleFragment lib authenticated fragment).2 := by
  unfold handleFragment fragmentUpdate
  dsimp only
  by_cases crowded : fragment.header.stateId ∉ protocol.assemblies ∧
      protocol.assemblies.len ≥ MAXIMUM_ACTIVE_ASSEMBLIES
  · rw [if_pos crowded, if_pos crowded]
    exact .nothing (.refl protocol) (.refl protocol)
  · rw [if_neg crowded, if_neg crowded]
    cases pushed : ((protocol.assemblies.lookup fragment.header.stateId).getD
        (.new fragment.header.stateId MAXIMUM_REASSEMBLED_BYTES)).push fragment with
    | mk result assembly =>
        cases result with
        | error error => exact .nothing ⟨rfl, rfl, rfl, rfl⟩ ⟨rfl, rfl, rfl⟩
        | ok message =>
            cases message with
            | none => exact .nothing ⟨rfl, rfl, rfl, rfl⟩ ⟨rfl, rfl, rfl⟩
            | some compressed =>
                apply Arrival.of_same _ _ (handle_message_arrival lib _ _ _ _)
                · exact ⟨rfl, rfl, rfl, rfl⟩
                · exact ⟨rfl, rfl, rfl⟩

theorem handle_plaintext_arrival (authenticated : AuthenticatedPacket) :
    Arrival lib protocol (protocol.plaintextUpdate lib authenticated.plaintext)
      (protocol.handlePlaintext lib authenticated).2 := by
  have stamped : SameRemote protocol { protocol with
      latestPeerTimestamp := some (readWord16 (authenticated.plaintext.take 2)) } :=
    ⟨rfl, rfl, rfl, rfl⟩
  have kept : SameSent protocol { protocol with
      latestPeerTimestamp := some (readWord16 (authenticated.plaintext.take 2)) } :=
    ⟨rfl, rfl, rfl⟩
  unfold handlePlaintext plaintextUpdate
  dsimp only
  by_cases short : authenticated.plaintext.length < MINIMUM_FRAGMENT_PLAINTEXT_BYTES
  · rw [if_pos short, if_pos short]
    split_ifs
    · exact .nothing (.refl protocol) (.refl protocol)
    · exact .nothing stamped kept
  · have long : ¬ authenticated.plaintext.length < TIMESTAMP_HEADER_BYTES := by
      intro under
      exact short (Nat.lt_of_lt_of_le under (by decide))
    rw [if_neg short, if_neg short, if_neg long]
    cases parsed : Fragment.parse authenticated.plaintext with
    | error error => exact .nothing stamped kept
    | ok fragment => exact .of_same stamped kept (handle_fragment_arrival lib _ authenticated fragment)

theorem ingest_packet_arrival (packet : Bytes) :
    Arrival lib protocol (protocol.packetUpdate lib packet) (protocol.ingestPacket lib packet).2 := by
  unfold ingestPacket packetUpdate
  cases opened : protocol.secureChannel.openPacket lib.aead packet with
  | error error => exact .nothing (.refl protocol) (.refl protocol)
  | ok authenticated =>
      cases window : protocol.replayWindow.accept authenticated.counter with
      | mk verdict next =>
          have marked : SameRemote protocol { protocol with replayWindow := next } :=
            ⟨rfl, rfl, rfl, rfl⟩
          have kept : SameSent protocol { protocol with replayWindow := next } := ⟨rfl, rfl, rfl⟩
          dsimp only
          rw [window]
          cases verdict with
          | false => exact .nothing marked kept
          | true => exact .of_same marked kept (handle_plaintext_arrival lib _ authenticated)

end Arrival

/-- The store holds the newest remote state as it was delivered. -/
structure Supported {terminal : Terminal} (protocol : ClientProtocol terminal) : Prop where
  newest : ∃ state, protocol.receivedStates.lookup protocol.latestRemoteState = some state ∧
    state.history = protocol.deliveredRemoteState.history ∧
      state.viewport = protocol.deliveredRemoteState.viewport ∧
        state.echoAck = protocol.deliveredRemoteState.echoAck
  above : ∀ stateId ∈ protocol.receivedStates, protocol.remoteThrowawayFloor ≤ stateId
  few : protocol.receivedStates.len ≤ MAXIMUM_RECEIVED_STATES

/-- What no operation takes back: a state that leaves the store is below the floor. -/
structure Forward {terminal : Terminal} (before after : ClientProtocol terminal) : Prop where
  latest : before.latestRemoteState ≤ after.latestRemoteState
  floor : before.remoteThrowawayFloor ≤ after.remoteThrowawayFloor
  kept : ∀ stateId ∈ before.receivedStates,
    stateId ∈ after.receivedStates ∨ stateId < after.remoteThrowawayFloor

section Forward

variable {terminal : Terminal} {first second third : ClientProtocol terminal}

theorem Forward.refl (protocol : ClientProtocol terminal) : Forward protocol protocol :=
  ⟨UInt64.le_refl _, UInt64.le_refl _, fun _ member => Or.inl member⟩

theorem Forward.trans (earlier : Forward first second) (later : Forward second third) :
    Forward first third := by
  constructor
  · exact UInt64.le_trans earlier.latest later.latest
  · exact UInt64.le_trans earlier.floor later.floor
  · intro stateId member
    rcases earlier.kept stateId member with here | below
    · exact later.kept stateId here
    · exact Or.inr (UInt64.lt_of_lt_of_le below later.floor)

theorem Forward.of_same (same : SameRemote first second) : Forward first second := by
  constructor
  · rw [same.latest]
    exact UInt64.le_refl _
  · rw [same.floor]
    exact UInt64.le_refl _
  · intro stateId member
    rw [same.received]
    exact Or.inl member

theorem Supported.of_same (supported : Supported first) (same : SameRemote first second) :
    Supported second := by
  constructor
  · rw [same.received, same.latest, same.delivered]
    exact supported.newest
  · rw [same.received, same.floor]
    exact supported.above
  · rw [same.received]
    exact supported.few

end Forward

namespace Supported

variable {terminal : Terminal} {protocol : ClientProtocol terminal} (supported : Supported protocol)

theorem initial (terminal : Terminal) (key : SessionKey) : Supported (new terminal key) := by
  constructor
  · exact ⟨(initialRemoteState terminal).clone, AList.lookup_insert _, rfl, rfl, rfl⟩
  · intro stateId _
    exact UInt64.zero_le
  · change (AList.insert 0 (initialRemoteState terminal).clone ∅ :
      BTreeMap UInt64 (RemoteTerminalState terminal)).len ≤ _
    rw [AList.len_insert_of_not_mem (AList.notMem_empty 0), AList.len_empty]
    decide

include supported

theorem newest_stored : protocol.latestRemoteState ∈ protocol.receivedStates := by
  obtain ⟨state, found, _⟩ := supported.newest
  exact AList.mem_of_lookup found

theorem set_initial_viewport (columns rows : UInt16) :
    Supported (protocol.setInitialRemoteViewport columns rows) ∧
      Forward protocol (protocol.setInitialRemoteViewport columns rows) := by
  unfold setInitialRemoteViewport
  split_ifs with started
  · exact ⟨supported, .refl protocol⟩
  · rw [not_or, not_not, not_not] at started
    obtain ⟨zero, single⟩ := started
    have stored := supported.newest_stored
    rw [zero] at stored
    split
    · exact ⟨supported, .refl protocol⟩
    · rename_i blank created
      constructor
      · constructor
        · refine ⟨blank.clone, ?_, rfl, rfl, rfl⟩
          dsimp only
          rw [zero]
          exact AList.lookup_insert _
        · intro stateId member
          rcases (AList.mem_insert _).mp member with here | earlier
          · rw [here]
            exact supported.above 0 stored
          · exact supported.above stateId earlier
        · dsimp only
          rw [AList.len_insert_of_mem stored]
          exact supported.few
      · constructor
        · exact UInt64.le_refl _
        · exact UInt64.le_refl _
        · intro stateId member
          exact Or.inl ((AList.mem_insert _).mpr (Or.inr member))

theorem discarded {update : StateUpdate} (low : update.discardBefore ≤ protocol.latestRemoteState) :
    Supported (protocol.discardedFor update) ∧ Forward protocol (protocol.discardedFor update) := by
  have ordered := supported.above _ supported.newest_stored
  have below : max protocol.remoteThrowawayFloor update.discardBefore ≤ protocol.latestRemoteState := by
    rw [word_max_eq]
    split_ifs
    · exact low
    · exact ordered
  constructor
  · constructor
    · obtain ⟨state, found, agrees⟩ := supported.newest
      refine ⟨state, ?_, agrees⟩
      change (protocol.receivedStates.retain _).lookup protocol.latestRemoteState = some state
      rw [AList.lookup_retain, if_pos (decide_eq_true below)]
      exact found
    · intro stateId member
      exact of_decide_eq_true (AList.mem_retain.mp member).1
    · exact Nat.le_trans (AList.len_retain_le _ _) supported.few
  · constructor
    · exact UInt64.le_refl _
    · exact left_le_word_max _ _
    · intro stateId member
      by_cases kept : max protocol.remoteThrowawayFloor update.discardBefore ≤ stateId
      · exact Or.inl (AList.mem_retain.mpr ⟨decide_eq_true kept, member⟩)
      · exact Or.inr (UInt64.not_le.mp kept)

theorem inserted {stateId : UInt64} (state : RemoteTerminalState terminal)
    (fresh : stateId ∉ protocol.receivedStates)
    (room : protocol.receivedStates.len < MAXIMUM_RECEIVED_STATES)
    (above : protocol.remoteThrowawayFloor ≤ stateId) :
    Supported (protocol.insertRemoteState stateId state) ∧
      Forward protocol (protocol.insertRemoteState stateId state) := by
  have other : protocol.latestRemoteState ≠ stateId := by
    intro same
    exact fresh (same ▸ supported.newest_stored)
  constructor
  · constructor
    · obtain ⟨newest, found, agrees⟩ := supported.newest
      refine ⟨newest, ?_, agrees⟩
      change (protocol.receivedStates.insert stateId state.clone).lookup protocol.latestRemoteState = _
      rw [AList.lookup_insert_cases, if_neg other]
      exact found
    · intro known member
      rcases (AList.mem_insert _).mp member with here | earlier
      · rw [here]
        exact above
      · exact supported.above known earlier
    · change (protocol.receivedStates.insert stateId state.clone).len ≤ _
      rw [AList.len_insert_of_not_mem fresh]
      exact room
  · constructor
    · exact UInt64.le_refl _
    · exact UInt64.le_refl _
    · intro known member
      exact Or.inl ((AList.mem_insert _).mpr (Or.inr member))

omit supported in
theorem advanced {stateId : UInt64} {state : RemoteTerminalState terminal}
    (inserted : Supported (protocol.insertRemoteState stateId state))
    (newer : protocol.latestRemoteState < stateId) :
    Supported ((protocol.insertRemoteState stateId state).advanceRemoteState stateId state) ∧
      Forward (protocol.insertRemoteState stateId state)
        ((protocol.insertRemoteState stateId state).advanceRemoteState stateId state) := by
  constructor
  · constructor
    · exact ⟨state.clone, AList.lookup_insert _, rfl, rfl, rfl⟩
    · exact inserted.above
    · exact inserted.few
  · exact ⟨UInt64.le_of_lt newer, UInt64.le_refl _, fun _ member => Or.inl member⟩

end Supported

section Run

variable {lib : Libraries} {protocol : ClientProtocol lib.terminal}

theorem Supported.accept (supported : Supported protocol) {update : StateUpdate}
    (low : update.discardBefore ≤ protocol.latestRemoteState) :
    Supported (protocol.acceptRemoteUpdate lib update).2 ∧
      Forward protocol (protocol.acceptRemoteUpdate lib update).2 := by
  have acceptance := accept_cases lib protocol update
  generalize protocol.acceptRemoteUpdate lib update = outcome at acceptance
  cases acceptance with
  | ignored quiet => exact ⟨supported, .refl protocol⟩
  | stored base target batch fresh discards forward present decoded applied =>
      have known := AList.mem_of_lookup present
      have above : max protocol.remoteThrowawayFloor update.discardBefore ≤ update.targetState :=
        UInt64.le_of_lt (word_max_lt (UInt64.lt_of_le_of_lt (supported.above _ known) forward)
          (UInt64.lt_of_le_of_lt discards forward))
      have pruned : update.targetState ∉ (protocol.discardedFor update).receivedStates :=
        fun member => fresh (AList.mem_retain.mp member).2
      rcases supported.discarded low with ⟨kept, floored⟩
      have storage := store_cases lib protocol update target
      generalize protocol.storeRemoteState lib update target = outcome at storage
      cases storage with
      | full crowded => exact ⟨kept, floored⟩
      | held room late =>
          rcases kept.inserted target pruned room above with ⟨stored, moved⟩
          exact ⟨stored, floored.trans moved⟩
      | advanced room newer diff built =>
          rcases kept.inserted target pruned room above with ⟨stored, moved⟩
          rcases stored.advanced newer with ⟨delivered, advanced⟩
          exact ⟨delivered, (floored.trans moved).trans advanced⟩

theorem Supported.perform (supported : Supported protocol) (operation : ProtocolOperation)
    (low : ∀ update ∈ protocol.arrivingUpdate lib operation,
      update.discardBefore ≤ protocol.latestRemoteState) :
    Supported (protocol.perform lib operation).2 ∧
      Forward protocol (protocol.perform lib operation).2 := by
  by_cases inbound : operation.isInbound = true
  · cases operation with
    | ingestPacket packet =>
        change ∀ update ∈ protocol.packetUpdate lib packet, _ at low
        change Supported (protocol.ingestPacket lib packet).2 ∧ Forward protocol _
        have arrival := ingest_packet_arrival lib protocol packet
        generalize protocol.packetUpdate lib packet = arrived at arrival low
        cases arrival with
        | nothing same _ => exact ⟨supported.of_same same, .of_same same⟩
        | update middle update before accepted _ =>
            have within : update.discardBefore ≤ middle.latestRemoteState := by
              rw [before.latest]
              exact low update rfl
            rcases (supported.of_same before).accept within with ⟨stored, moved⟩
            exact ⟨stored.of_same accepted,
              ((Forward.of_same before).trans moved).trans (.of_same accepted)⟩
    | setInitialRemoteViewport columns rows => exact supported.set_initial_viewport columns rows
    | _ => cases inbound
  · have same := (perform_outbound lib protocol operation (Bool.eq_false_iff.mpr inbound)).1
    exact ⟨supported.of_same same.toSameRemote, .of_same same.toSameRemote⟩

/-- Every update that arrives discards only below what the client acknowledges. -/
def DiscardsAcknowledged (events : List (ProtocolStep lib)) : Prop :=
  ∀ event ∈ events, ∀ update ∈ event.before.arrivingUpdate lib event.input,
    update.discardBefore ≤ event.before.latestRemoteState

instance (events : List (ProtocolStep lib)) : Decidable (DiscardsAcknowledged events) :=
  inferInstanceAs (Decidable (∀ _ ∈ _, _))

def insertedState (event : ProtocolStep lib) : Option UInt64 :=
  ((event.before.arrivingUpdate lib event.input).map StateUpdate.targetState).filter fun stateId =>
    stateId ∉ event.before.receivedStates ∧ stateId ∈ event.after.receivedStates

def insertedStates (events : List (ProtocolStep lib)) : List UInt64 := events.filterMap insertedState

theorem inserted_state_new {event : ProtocolStep lib} {stateId : UInt64}
    (inserted : insertedState event = some stateId) :
    stateId ∉ event.before.receivedStates ∧ stateId ∈ event.after.receivedStates := by
  have verdict := (Option.filter_eq_some_iff.mp inserted).2
  exact of_decide_eq_true verdict

variable {key : SessionKey}

theorem discards_cons {operation : ProtocolOperation} {rest : List ProtocolOperation}
    (low : DiscardsAcknowledged (trace (ClientProtocol.perform lib) protocol (operation :: rest))) :
    (∀ update ∈ protocol.arrivingUpdate lib operation,
        update.discardBefore ≤ protocol.latestRemoteState) ∧
      DiscardsAcknowledged (trace (ClientProtocol.perform lib)
        (protocol.perform lib operation).2 rest) :=
  ⟨low _ List.mem_cons_self, fun event member => low event (List.mem_cons_of_mem _ member)⟩

theorem discards_earlier {earlier later : List ProtocolOperation}
    (low : DiscardsAcknowledged (trace (ClientProtocol.perform lib) protocol (earlier ++ later))) :
    DiscardsAcknowledged (trace (ClientProtocol.perform lib) protocol earlier) ∧
      DiscardsAcknowledged (trace (ClientProtocol.perform lib)
        (final (ClientProtocol.perform lib) protocol earlier) later) := by
  rw [trace_append] at low
  constructor
  · intro event member
    exact low event (List.mem_append_left _ member)
  · intro event member
    exact low event (List.mem_append_right _ member)

theorem supported_run (supported : Supported protocol) {operations : List ProtocolOperation}
    (low : DiscardsAcknowledged (trace (ClientProtocol.perform lib) protocol operations)) :
    Supported (final (ClientProtocol.perform lib) protocol operations) ∧
      Forward protocol (final (ClientProtocol.perform lib) protocol operations) := by
  induction operations generalizing protocol with
  | nil => exact ⟨supported, .refl protocol⟩
  | cons operation rest induction =>
      obtain ⟨here, later⟩ := discards_cons low
      rcases supported.perform operation here with ⟨stored, moved⟩
      rcases induction stored later with ⟨last, movedOn⟩
      exact ⟨last, moved.trans movedOn⟩

/-- A number that an update inserted stays in the store until it is below the floor, so it is
never inserted again. -/
theorem inserted_once {operations : List ProtocolOperation}
    (low : DiscardsAcknowledged
      (trace (ClientProtocol.perform lib) (new lib.terminal key) operations)) :
    (∀ stateId ∈ insertedStates
        (trace (ClientProtocol.perform lib) (new lib.terminal key) operations),
      stateId ∈ (after lib key operations).receivedStates ∨
        stateId < (after lib key operations).remoteThrowawayFloor) ∧
      (insertedStates
        (trace (ClientProtocol.perform lib) (new lib.terminal key) operations)).Nodup := by
  induction operations using List.reverseRecOn with
  | nil => exact ⟨fun _ member => absurd member List.not_mem_nil, List.nodup_nil⟩
  | append_singleton operations operation induction =>
      rcases discards_earlier low with ⟨earlier, last⟩
      rcases induction earlier with ⟨known, distinct⟩
      have supported := (supported_run (Supported.initial lib.terminal key) earlier).1
      rcases supported.perform operation (last _ List.mem_cons_self) with ⟨stored, moved⟩
      have carried : ∀ stateId ∈ insertedStates
          (trace (ClientProtocol.perform lib) (new lib.terminal key) operations),
          stateId ∈ (after lib key (operations ++ [operation])).receivedStates ∨
            stateId < (after lib key (operations ++ [operation])).remoteThrowawayFloor := by
        intro stateId member
        rw [after, final_concat]
        rcases known stateId member with here | below
        · exact moved.kept stateId here
        · exact Or.inr (UInt64.lt_of_lt_of_le below moved.floor)
      rw [trace_concat, insertedStates, List.filterMap_append]
      cases inserted : insertedState (stepAt (ClientProtocol.perform lib)
          (final (ClientProtocol.perform lib) (new lib.terminal key) operations) operation) with
      | none =>
          rw [List.filterMap_cons_none inserted, List.filterMap_nil, List.append_nil]
          exact ⟨carried, distinct⟩
      | some stateId =>
          rw [List.filterMap_cons_some inserted, List.filterMap_nil]
          rcases inserted_state_new inserted with ⟨absent, present⟩
          constructor
          · intro other member
            rcases List.mem_append.mp member with before | here
            · exact carried other before
            · rw [List.mem_singleton.mp here, after, final_concat]
              exact Or.inl present
          · apply List.nodup_append.mpr
            refine ⟨distinct, List.nodup_singleton _, ?_⟩
            intro other member twice here same
            rw [List.mem_singleton.mp here] at same
            rw [same] at member
            rcases known stateId member with held | pruned
            · exact absent held
            · have floor : (final (ClientProtocol.perform lib) (new lib.terminal key)
                  operations).remoteThrowawayFloor ≤ stateId :=
                UInt64.le_trans moved.floor (stored.above stateId present)
              exact UInt64.not_le.mpr pruned floor

/-- The update that the datagrams of a step carry to the server. -/
def SentUpdate (lib : Libraries) (key : SessionKey) (event : ProtocolStep lib) (update : StateUpdate) :
    Prop :=
  ∃ packets batch, event.output = .packets (.ok packets) ∧ Carries lib key packets update batch

theorem latest_ordered (supported : Supported protocol) {operations : List ProtocolOperation}
    (low : DiscardsAcknowledged (trace (ClientProtocol.perform lib) protocol operations)) :
    (trace (ClientProtocol.perform lib) protocol operations).Pairwise fun earlier later =>
      earlier.before.latestRemoteState ≤ later.before.latestRemoteState := by
  induction operations generalizing protocol with
  | nil => exact .nil
  | cons operation rest induction =>
      obtain ⟨here, later⟩ := discards_cons low
      rcases supported.perform operation here with ⟨stored, moved⟩
      apply List.pairwise_cons.mpr
      refine ⟨?_, induction stored later⟩
      intro event member
      obtain ⟨before, input, behind, split, same⟩ := (mem_trace_iff _ _ _ _).mp member
      rw [split] at later
      have reached := (supported_run stored (discards_earlier later).1).2
      rw [same]
      exact UInt64.le_trans moved.latest reached.latest

theorem sent_update_acknowledges (lawful : LawfulLibraries lib) {operations : List ProtocolOperation}
    {event : ProtocolStep lib}
    (member : event ∈ trace (ClientProtocol.perform lib) (new lib.terminal key) operations)
    {update : StateUpdate} (sent : SentUpdate lib key event update) :
    update.acknowledgedState = event.before.latestRemoteState := by
  obtain ⟨packets, batch, output, carries⟩ := sent
  have step := step_of_mem _ member
  have performed : (event.before.perform lib event.input).1 = .packets (.ok packets) := by
    rw [step, output]
  rcases perform_message lawful.aead (seals_with_before lawful.aead member) performed with
    ⟨other, otherBatch, otherCarries, acknowledges⟩
  rw [(carries.unique lawful.codec otherCarries).1]
  exact acknowledges

end Run

/-- In every run whose arriving updates discard only below what the client acknowledged, the
store supports the acknowledged state, acknowledgements never go back, and no update inserts a
state number again. -/
theorem received_states_support (lib : Libraries) (lawful : LawfulLibraries lib) (key : SessionKey)
    (operations : List ProtocolOperation)
    (low : DiscardsAcknowledged (trace (perform lib) (new lib.terminal key) operations)) :
    Supported (after lib key operations) ∧
      (∀ earlier later, operations = earlier ++ later →
        (after lib key earlier).latestRemoteState ≤ (after lib key operations).latestRemoteState) ∧
      (∀ event ∈ trace (perform lib) (new lib.terminal key) operations, ∀ packets,
        event.output = .packets (.ok packets) → ∃ update batch, Carries lib key packets update batch) ∧
      ((trace (perform lib) (new lib.terminal key) operations).Pairwise fun earlier later =>
        ∀ first second, SentUpdate lib key earlier first → SentUpdate lib key later second →
          first.acknowledgedState ≤ second.acknowledgedState) ∧
      (insertedStates (trace (perform lib) (new lib.terminal key) operations)).Nodup := by
  have initial := Supported.initial lib.terminal key
  refine ⟨(supported_run initial low).1, ?_, ?_, ?_, (inserted_once low).2⟩
  · intro earlier later split
    rw [split] at low
    rcases discards_earlier low with ⟨first, rest⟩
    have reached := (supported_run (supported_run initial first).1 rest).2
    rw [split, after, after, final_append]
    exact reached.latest
  · intro event member packets output
    have step := step_of_mem _ member
    have performed : (event.before.perform lib event.input).1 = .packets (.ok packets) := by
      rw [step, output]
    rcases perform_message lawful.aead (seals_with_before lawful.aead member) performed with
      ⟨update, batch, carries, _⟩
    exact ⟨update, batch, carries⟩
  · apply (latest_ordered initial low).imp_of_mem
    intro earlier later present presentLater ordered first second sent sentLater
    rw [sent_update_acknowledges lawful present sent,
      sent_update_acknowledges lawful presentLater sentLater]
    exact ordered

/-- A viewport, two server states and an acknowledgement. -/
def supportedRun : List ProtocolOperation :=
  .setInitialRemoteViewport 100 30 :: .buildAssociation 1 ::
    (plainPackets [hostBytesUpdate 0 1 [0x61], hostBytesUpdate 1 2 [0x62]]).map .ingestPacket ++
      [.buildAcknowledgement 2]

theorem supported_run_supports : Supported (after plainLibraries zeroKey supportedRun) :=
  (received_states_support plainLibraries lawful_plain_libraries zeroKey supportedRun
    (by decide +kernel)).1

end ClientProtocol

end FerrumTty.Session
