import FerrumTty.Library.CappedMap
import FerrumTty.Session.ServerMail
import FerrumTty.State.Atomicity
import FerrumTty.Wire.RejectedPushes

/-!
# What packets can make the client hold

Every packet may be hostile: nothing is assumed about who sealed it or what it says. Unfinished
messages, retained screens and the delivered screen stay within limits of their own, and so do
the bytes they hold together.
-/

namespace FerrumTty.Session

set_option autoImplicit false

open Crypto Wire State Runs Fragment

/-- An unfinished message, at most one body under each index that a header can carry. -/
structure Unfinished (stateId : UInt64) (assembly : FragmentAccumulator) : Prop where
  named : assembly.stateId = stateId
  limited : assembly.maximumMessageBytes = MAXIMUM_REASSEMBLED_BYTES
  orderly : assembly.Orderly
  indexed : ∀ index ∈ assembly.fragments, index.toNat < 2 ^ 15

namespace Unfinished

variable {stateId : UInt64} {assembly : FragmentAccumulator}

theorem fresh (stateId : UInt64) : Unfinished stateId (.new stateId MAXIMUM_REASSEMBLED_BYTES) where
  named := rfl
  limited := rfl
  orderly := FragmentAccumulator.new_orderly stateId MAXIMUM_REASSEMBLED_BYTES
  indexed := fun index member => absurd member (AList.notMem_empty index)

theorem push (unfinished : Unfinished stateId assembly) {fragment : Fragment}
    (small : fragment.header.index.toNat < 2 ^ 15) : Unfinished stateId (assembly.push fragment).2 where
  named := (FragmentAccumulator.push_state_id assembly fragment).trans unfinished.named
  limited :=
    (FragmentAccumulator.push_maximum_message_bytes assembly fragment).trans unfinished.limited
  orderly := unfinished.orderly.push fragment
  indexed := by
    intro index member
    rcases FragmentAccumulator.push_lookup assembly fragment index with same | ⟨_, here, _⟩
    · apply unfinished.indexed index
      rw [← AList.lookup_isSome] at member ⊢
      rw [← same]
      exact member
    · rw [here]
      exact small

theorem few_fragments (unfinished : Unfinished stateId assembly) : assembly.fragments.len ≤ 2 ^ 15 :=
  AList.len_le_of_keys (fun _ _ same => UInt16.toNat.inj same) unfinished.indexed

theorem few_bytes (unfinished : Unfinished stateId assembly) :
    assembly.storedBytes ≤ MAXIMUM_REASSEMBLED_BYTES := by
  rw [← unfinished.limited]
  exact unfinished.orderly.bounded

end Unfinished

def hostByteTotal (history : StateHistory) : Nat :=
  (history.operations.map StateOperation.hostByteCount).sum

theorem host_byte_total_le {history : StateHistory} (bounded : Bounded history) :
    hostByteTotal history ≤ MAX_RETAINED_HOST_BYTES := by
  rw [hostByteTotal, ← bounded.retainedBytes]
  exact bounded.bytes

theorem operations_length_le {history : StateHistory} (bounded : Bounded history) :
    history.operations.length ≤ MAX_RETAINED_OPERATIONS := by
  rw [← bounded.operationCount]
  exact bounded.operations

namespace ClientProtocol

/-- The limits of what received packets leave behind. -/
structure Footprint {terminal : Terminal} (protocol : ClientProtocol terminal) : Prop where
  assemblies : protocol.assemblies.Capped MAXIMUM_ACTIVE_ASSEMBLIES Unfinished
  received : protocol.receivedStates.Capped MAXIMUM_RECEIVED_STATES fun _ state => Bounded state.history
  delivered : Bounded protocol.deliveredRemoteState.history

section Totals

variable {terminal : Terminal} (protocol : ClientProtocol terminal)

def waitingBytes : Nat := protocol.assemblies.weight FragmentAccumulator.storedBytes

def screenBytes : Nat :=
  protocol.receivedStates.weight (fun state => hostByteTotal state.history) +
    hostByteTotal protocol.deliveredRemoteState.history

variable {protocol}

theorem Footprint.waiting_bytes_le (footprint : Footprint protocol) :
    protocol.waitingBytes ≤ MAXIMUM_ACTIVE_ASSEMBLIES * MAXIMUM_REASSEMBLED_BYTES :=
  footprint.assemblies.weight_le fun _ _ unfinished => unfinished.few_bytes

theorem Footprint.screen_bytes_le (footprint : Footprint protocol) :
    protocol.screenBytes ≤ (MAXIMUM_RECEIVED_STATES + 1) * MAX_RETAINED_HOST_BYTES := by
  have received := footprint.received.weight_le fun _ _ bounded => host_byte_total_le bounded
  have delivered := host_byte_total_le footprint.delivered
  rw [Nat.succ_mul]
  exact Nat.add_le_add received delivered

end Totals

section Steps

variable {lib : Libraries} {protocol other : ClientProtocol lib.terminal}

theorem new_footprint (terminal : Terminal) (key : SessionKey) : Footprint (new terminal key) := by
  have blank : Bounded (initialRemoteState terminal).history :=
    ⟨counted_empty, Nat.zero_le _, Nat.zero_le _⟩
  constructor
  · exact .empty _ _
  · exact (AList.Capped.empty _ _).insert (Or.inr (by rw [AList.len_empty]; decide)) blank
  · exact blank

theorem Footprint.of_same (footprint : Footprint protocol) (same : SameRemote protocol other)
    (assemblies : other.assemblies.Capped MAXIMUM_ACTIVE_ASSEMBLIES Unfinished) : Footprint other where
  assemblies := assemblies
  received := by
    rw [same.received]
    exact footprint.received
  delivered := by
    rw [same.delivered]
    exact footprint.delivered

theorem Footprint.inbound (footprint : Footprint protocol) (same : SameInbound protocol other) :
    Footprint other := by
  apply footprint.of_same same.toSameRemote
  rw [same.assemblies]
  exact footprint.assemblies

/-- An update is stored only while there is room, and only after its batch was accepted. -/
theorem Footprint.accept (footprint : Footprint protocol) (update : StateUpdate) :
    Footprint (protocol.acceptRemoteUpdate lib update).2 := by
  have acceptance := accept_cases lib protocol update
  generalize protocol.acceptRemoteUpdate lib update = outcome at acceptance
  cases acceptance with
  | ignored quiet => exact footprint
  | stored base target batch fresh discards forward present decoded applied =>
      have kept := footprint.received.values _ _ present
      have bounded : Bounded target.history :=
        RemoteTerminalState.apply_bounded
          (show Counted base.clone.history from kept.toCounted) applied
      have pruned := footprint.received.retain fun stateId =>
        decide (stateId ≥ max protocol.remoteThrowawayFloor update.discardBefore)
      have storage := store_cases lib protocol update target
      generalize protocol.storeRemoteState lib update target = outcome at storage
      cases storage with
      | full crowded => exact ⟨footprint.assemblies, pruned, footprint.delivered⟩
      | held room late =>
          exact ⟨footprint.assemblies, pruned.insert (Or.inr room) bounded, footprint.delivered⟩
      | advanced room newer diff built =>
          exact ⟨footprint.assemblies, pruned.insert (Or.inr room) bounded, bounded⟩

theorem handle_update_assemblies (update : StateUpdate) :
    (protocol.handleUpdate lib update).2.assemblies = protocol.assemblies := by
  have accepted := (accept_assemblies (protocol.processAcknowledgement update.acknowledgedState)
    update).1
  rw [(process_acknowledgement_inbound protocol update.acknowledgedState).assemblies] at accepted
  unfold handleUpdate
  rcases outcome : (protocol.processAcknowledgement update.acknowledgedState).acceptRemoteUpdate lib
    update with ⟨result, next⟩
  rw [outcome] at accepted
  cases result with
  | error error => exact accepted
  | ok value =>
      dsimp only
      split_ifs <;> exact accepted

theorem Footprint.update (footprint : Footprint protocol) (update : StateUpdate) :
    Footprint (protocol.handleUpdate lib update).2 := by
  have acknowledged := footprint.inbound
    (process_acknowledgement_inbound protocol update.acknowledgedState)
  apply (acknowledged.accept update).of_same (handle_update_accepts lib protocol update).2
  rw [handle_update_assemblies]
  exact footprint.assemblies

theorem Footprint.message (footprint : Footprint protocol) (authenticated : AuthenticatedPacket)
    (header : FragmentHeader) (compressed : Bytes) :
    Footprint (protocol.handleMessage lib authenticated header compressed).2 := by
  cases decoded : decodeCompressedUpdate lib.codec compressed with
  | error error =>
      unfold handleMessage
      rw [decoded]
      exact footprint
  | ok update =>
      rw [handle_message_eq authenticated header decoded]
      exact footprint.update update

theorem Footprint.fragment (footprint : Footprint protocol) (authenticated : AuthenticatedPacket)
    {fragment : Fragment} (small : fragment.header.index.toNat < 2 ^ 15) :
    Footprint (protocol.handleFragment lib authenticated fragment).2 := by
  unfold handleFragment
  dsimp only
  split_ifs with crowded
  · exact footprint
  · have room : fragment.header.stateId ∈ protocol.assemblies ∨
        protocol.assemblies.len < MAXIMUM_ACTIVE_ASSEMBLIES := by
      by_cases present : fragment.header.stateId ∈ protocol.assemblies
      · exact Or.inl present
      · exact Or.inr (Nat.lt_of_not_ge fun full => crowded ⟨present, full⟩)
    have started := footprint.assemblies.entry (Unfinished.fresh fragment.header.stateId)
    have pushed := footprint.assemblies.insert room (started.push small)
    generalize ((protocol.assemblies.lookup fragment.header.stateId).getD
      (.new fragment.header.stateId MAXIMUM_REASSEMBLED_BYTES)).push fragment = outcome at pushed
    obtain ⟨answer, assembly⟩ := outcome
    have held : Footprint { protocol with
        assemblies := protocol.assemblies.insert fragment.header.stateId assembly } :=
      footprint.of_same ⟨rfl, rfl, rfl, rfl⟩ pushed
    cases answer with
    | error error => exact held
    | ok complete =>
        cases complete with
        | none => exact held
        | some compressed =>
            have closed : Footprint { protocol with
                assemblies := (protocol.assemblies.insert fragment.header.stateId assembly).erase
                  fragment.header.stateId } :=
              footprint.of_same ⟨rfl, rfl, rfl, rfl⟩ (pushed.erase fragment.header.stateId)
            exact closed.message authenticated fragment.header compressed

theorem Footprint.plaintext (footprint : Footprint protocol) (authenticated : AuthenticatedPacket) :
    Footprint (protocol.handlePlaintext lib authenticated).2 := by
  have heard (sentTimestamp : UInt16) :
      Footprint { protocol with latestPeerTimestamp := some sentTimestamp } :=
    footprint.of_same ⟨rfl, rfl, rfl, rfl⟩ footprint.assemblies
  unfold handlePlaintext
  dsimp only
  split_ifs
  · exact footprint
  · exact heard _
  · cases parsed : parse authenticated.plaintext with
    | error error => exact heard _
    | ok fragment =>
        have small := (fragment_codec_bijective.2 authenticated.plaintext).2 fragment parsed
        exact (heard _).fragment authenticated small.2.1

theorem Footprint.packet (footprint : Footprint protocol) (packet : Bytes) :
    Footprint (protocol.ingestPacket lib packet).2 := by
  have seen (replayWindow : ReplayWindow) : Footprint { protocol with replayWindow } :=
    footprint.of_same ⟨rfl, rfl, rfl, rfl⟩ footprint.assemblies
  unfold ingestPacket
  split
  · exact footprint
  · dsimp only
    split_ifs
    · exact seen _
    · exact (seen _).plaintext _

theorem Footprint.viewport (footprint : Footprint protocol) (columns rows : UInt16) :
    Footprint (protocol.setInitialRemoteViewport columns rows) := by
  unfold setInitialRemoteViewport
  split_ifs with started
  · exact footprint
  · split
    · exact footprint
    · rename_i blank created
      have single : protocol.receivedStates.len = 1 := by
        rw [not_or, not_not, not_not] at started
        exact started.2
      have bounded : Bounded blank.history := by
        rw [(RemoteTerminalState.new_formed created).2.1]
        exact ⟨counted_empty, Nat.zero_le _, Nat.zero_le _⟩
      have room : protocol.receivedStates.len < MAXIMUM_RECEIVED_STATES := by
        rw [single]
        decide
      exact ⟨footprint.assemblies, footprint.received.insert (Or.inr room) bounded, bounded⟩

theorem Footprint.perform (footprint : Footprint protocol) (operation : ProtocolOperation) :
    Footprint (protocol.perform lib operation).2 := by
  by_cases inbound : operation.isInbound = true
  · cases operation with
    | ingestPacket packet => exact footprint.packet packet
    | setInitialRemoteViewport columns rows => exact footprint.viewport columns rows
    | _ => cases inbound
  · exact footprint.inbound
      (perform_outbound lib protocol operation (Bool.eq_false_iff.mpr inbound)).1

theorem footprint_run (lib : Libraries) (key : SessionKey) (operations : List ProtocolOperation) :
    Footprint (after lib key operations) := by
  apply invariant_final (perform lib) Footprint
  · intro protocol operation footprint
    exact footprint.perform operation
  · exact new_footprint lib.terminal key

end Steps

/-- Whatever packets arrive, at most 64 messages are unfinished and at most 1024 screens retained,
each within its own limits, and the bytes they hold together stay below a fixed number. -/
theorem packets_bounded_memory (lib : Libraries) (key : SessionKey)
    (operations : List ProtocolOperation) :
    (after lib key operations).assemblies.len ≤ MAXIMUM_ACTIVE_ASSEMBLIES ∧
      (∀ stateId assembly, (after lib key operations).assemblies.lookup stateId = some assembly →
        assembly.fragments.len ≤ 2 ^ 15 ∧ assembly.storedBytes ≤ MAXIMUM_REASSEMBLED_BYTES) ∧
      (after lib key operations).receivedStates.len ≤ MAXIMUM_RECEIVED_STATES ∧
      (∀ stateId state, (after lib key operations).receivedStates.lookup stateId = some state →
        state.history.operations.length ≤ MAX_RETAINED_OPERATIONS ∧
          hostByteTotal state.history ≤ MAX_RETAINED_HOST_BYTES) ∧
      (after lib key operations).waitingBytes ≤ 2 ^ 30 ∧
      (after lib key operations).screenBytes ≤ 2 ^ 34 + 2 ^ 24 := by
  have footprint := footprint_run lib key operations
  refine ⟨footprint.assemblies.few, ?_, footprint.received.few, ?_, ?_, ?_⟩
  · intro stateId assembly found
    have unfinished := footprint.assemblies.values stateId assembly found
    exact ⟨unfinished.few_fragments, unfinished.few_bytes⟩
  · intro stateId state found
    have bounded := footprint.received.values stateId state found
    exact ⟨operations_length_le bounded, host_byte_total_le bounded⟩
  · exact footprint.waiting_bytes_le
  · exact footprint.screen_bytes_le

end ClientProtocol

end FerrumTty.Session
