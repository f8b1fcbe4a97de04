import FerrumTty.Session.Outgoing
import FerrumTty.Session.Transport

/-!
# Fragment identifiers

A receiver that reassembles by identifier can trust what it completes as long as one
identifier never stands for two messages, unless all of them fit into one fragment.
-/

namespace FerrumTty.Session

set_option autoImplicit false

open Crypto Wire State Runs Fragment

/-- What one datagram does at a receiver. -/
inductive Reassembled where
  | ignored
  | pending
  | completed (stateId : UInt64) (message : Bytes)
  | failed (error : FragmentError)
  deriving DecidableEq, Repr

/-- The reassembly of `ingest_packet` on its own: one accumulator for each identifier, that
is removed on completion. -/
def reassembleFragment (assemblies : BTreeMap UInt64 FragmentAccumulator) (fragment : Fragment) :
    Reassembled × BTreeMap UInt64 FragmentAccumulator :=
  let stateId := fragment.header.stateId
  let assembly := (assemblies.lookup stateId).getD (.new stateId MAXIMUM_REASSEMBLED_BYTES)
  let (pushed, assembly) := assembly.push fragment
  match pushed with
  | .error error => (.failed error, assemblies.insert stateId assembly)
  | .ok none => (.pending, assemblies.insert stateId assembly)
  | .ok (some message) => (.completed stateId message, assemblies.erase stateId)

def reassemble (aead : Aead) (reader : SecureChannel)
    (assemblies : BTreeMap UInt64 FragmentAccumulator) (packet : Bytes) :
    Reassembled × BTreeMap UInt64 FragmentAccumulator :=
  match reader.openPacket aead packet with
  | .error _ => (.ignored, assemblies)
  | .ok authenticated =>
      match parse authenticated.plaintext with
      | .error _ => (.ignored, assemblies)
      | .ok fragment => reassembleFragment assemblies fragment

namespace ClientProtocol

variable {lib : Libraries}

/-- The verdict on one output: a completed message is one of the run, and the fragments did
not contradict each other. -/
def Sound (events : List (ProtocolStep lib)) (output : Reassembled) : Prop :=
  (∀ stateId message, output = .completed stateId message →
    (stateId, message) ∈ emittedMessages events) ∧
  output ≠ .failed .conflictingDuplicate ∧ output ≠ .failed .conflictingFinalIndex ∧
    output ≠ .failed .indexAfterFinal

/-- Whatever the server receives of the datagrams, in any order and multiplicity. -/
def Unambiguous (key : SessionKey) (events : List (ProtocolStep lib)) : Prop :=
  ∀ selection : List Bytes, (∀ packet ∈ selection, packet ∈ emittedDatagrams events) →
    ∀ event ∈ trace (reassemble lib.aead (.new .server key)) ∅ selection, Sound events event.output

/-- An identifier stands for one message, or for messages of one fragment. -/
def OneMessagePerIdentifier (events : List (ProtocolStep lib)) : Prop :=
  ∀ left ∈ emittedMessages events, ∀ right ∈ emittedMessages events, left.1 = right.1 →
    left.2 = right.2 ∨
      left.2.length ≤ MAX_FRAGMENT_BODY_BYTES ∧ right.2.length ≤ MAX_FRAGMENT_BODY_BYTES

instance (events : List (ProtocolStep lib)) : Decidable (OneMessagePerIdentifier events) :=
  inferInstanceAs (Decidable (∀ _ ∈ _, _))

theorem reassemble_opens {aead : Aead} {reader : SecureChannel} {packet : Bytes} {message : Bytes}
    {sentTimestamp echoedTimestamp : UInt16} {stateId : UInt64} {index : Nat}
    (opens : OpensAs aead reader packet (pieceAt message sentTimestamp echoedTimestamp stateId index))
    (small : index < 2 ^ 15) (assemblies : BTreeMap UInt64 FragmentAccumulator) :
    reassemble aead reader assemblies packet =
      reassembleFragment assemblies (pieceAt message sentTimestamp echoedTimestamp stateId index) := by
  obtain ⟨counter, opened⟩ := opens
  rw [reassemble, opened]
  dsimp only
  rw [parse_encode_piece _ _ _ _ _ small]

/-- Every assembly belongs to a message of several fragments. -/
def Assembling (events : List (ProtocolStep lib))
    (assemblies : BTreeMap UInt64 FragmentAccumulator) : Prop :=
  ∀ stateId assembly, assemblies.lookup stateId = some assembly → ∃ message,
    (stateId, message) ∈ emittedMessages events ∧ 1 < chunkCount message ∧
      assembly.BelongsTo stateId message

theorem several_iff (message : Bytes) :
    1 < chunkCount message ↔ ¬ message.length ≤ MAX_FRAGMENT_BODY_BYTES := by
  have positive := chunk_count_positive message
  rw [← chunk_count_eq_one_iff]
  omega

theorem Assembling.erase {events : List (ProtocolStep lib)}
    {assemblies : BTreeMap UInt64 FragmentAccumulator} (assembling : Assembling events assemblies)
    (stateId : UInt64) : Assembling events (assemblies.erase stateId) := by
  intro other assembly found
  rw [AList.lookup_erase_cases] at found
  split_ifs at found
  exact assembling other assembly found

theorem Assembling.insert {events : List (ProtocolStep lib)}
    {assemblies : BTreeMap UInt64 FragmentAccumulator} (assembling : Assembling events assemblies)
    {stateId : UInt64} {message : Bytes} {assembly : FragmentAccumulator}
    (encoded : (stateId, message) ∈ emittedMessages events) (several : 1 < chunkCount message)
    (belongs : assembly.BelongsTo stateId message) :
    Assembling events (assemblies.insert stateId assembly) := by
  intro other held found
  rw [AList.lookup_insert_cases] at found
  split_ifs at found with same
  · cases found
    subst same
    exact ⟨message, encoded, several, belongs⟩
  · exact assembling other held found

theorem sound_completed {events : List (ProtocolStep lib)} {stateId : UInt64} {message : Bytes}
    (encoded : (stateId, message) ∈ emittedMessages events) :
    Sound events (.completed stateId message) := by
  refine ⟨?_, by simp, by simp, by simp⟩
  intro other found same
  cases same
  exact encoded

theorem Assembling.belongs {events : List (ProtocolStep lib)} (one : OneMessagePerIdentifier events)
    {assemblies : BTreeMap UInt64 FragmentAccumulator} (assembling : Assembling events assemblies)
    {stateId : UInt64} {message : Bytes} (encoded : (stateId, message) ∈ emittedMessages events) :
    ((assemblies.lookup stateId).getD (.new stateId MAXIMUM_REASSEMBLED_BYTES)).BelongsTo stateId
        message ∧
      (1 < chunkCount message ∨ assemblies.lookup stateId = none) := by
  cases found : assemblies.lookup stateId with
  | none => exact ⟨FragmentAccumulator.new_belongs _ _ _, Or.inr rfl⟩
  | some assembly =>
      obtain ⟨held, heldEncoded, several, belongs⟩ := assembling stateId assembly found
      have same : message = held := by
        rcases one _ encoded _ heldEncoded rfl with same | ⟨_, single⟩
        · exact same
        · exact absurd single ((several_iff held).mp several)
      subst same
      exact ⟨belongs, Or.inl several⟩

theorem reassemble_piece {events : List (ProtocolStep lib)} (one : OneMessagePerIdentifier events)
    {assemblies : BTreeMap UInt64 FragmentAccumulator} (assembling : Assembling events assemblies)
    {stateId : UInt64} {message : Bytes} (encoded : (stateId, message) ∈ emittedMessages events)
    (sentTimestamp echoedTimestamp : UInt16) {index : Nat} (inside : index < chunkCount message)
    (few : chunkCount message ≤ 2 ^ 15) :
    Sound events (reassembleFragment assemblies
        (pieceAt message sentTimestamp echoedTimestamp stateId index)).1 ∧
      Assembling events (reassembleFragment assemblies
        (pieceAt message sentTimestamp echoedTimestamp stateId index)).2 := by
  obtain ⟨belongs, place⟩ := assembling.belongs one encoded
  have named : (pieceAt message sentTimestamp echoedTimestamp stateId index).header.stateId =
      stateId := rfl
  unfold reassembleFragment
  dsimp only
  rw [named]
  by_cases several : 1 < chunkCount message
  · cases pushed : ((assemblies.lookup stateId).getD (.new stateId MAXIMUM_REASSEMBLED_BYTES)).push
        (pieceAt message sentTimestamp echoedTimestamp stateId index) with
    | mk result after =>
        obtain ⟨afterBelongs, outcome⟩ := belongs.push_piece sentTimestamp echoedTimestamp inside few
          pushed
        have kept := assembling.insert encoded several afterBelongs
        rcases outcome with waiting | complete | large
        · subst waiting
          exact ⟨⟨by simp, by simp, by simp, by simp⟩, kept⟩
        · subst complete
          exact ⟨sound_completed encoded, assembling.erase stateId⟩
        · subst large
          exact ⟨⟨by simp, by simp, by simp, by simp⟩, kept⟩
  · have single : chunkCount message = 1 := by
      have positive := chunk_count_positive message
      omega
    have first : index = 0 := by omega
    subst first
    have missing := place.resolve_left several
    have short : message.length ≤ MAXIMUM_REASSEMBLED_BYTES :=
      Nat.le_trans ((chunk_count_eq_one_iff message).mp single) (by decide)
    obtain ⟨after, pushed⟩ := (FragmentAccumulator.new_received short).push_last
      sentTimestamp echoedTimestamp single.symm few
    rw [missing, Option.getD_none, pushed]
    exact ⟨sound_completed encoded, assembling.erase stateId⟩

/-- Without ambiguous identifiers the receiver stays within the messages of the run. -/
theorem unambiguous_of_one_message (lawful : LawfulAead lib.aead) {key : SessionKey}
    {operations : List ProtocolOperation}
    (one : OneMessagePerIdentifier (trace (perform lib) (new lib.terminal key) operations)) :
    Unambiguous key (trace (perform lib) (new lib.terminal key) operations) := by
  intro selection sent event member
  have step (assemblies : BTreeMap UInt64 FragmentAccumulator) (packet : Bytes)
      (assembling : Assembling (trace (perform lib) (new lib.terminal key) operations) assemblies)
      (here : packet ∈ emittedDatagrams (trace (perform lib) (new lib.terminal key) operations)) :
      Sound (trace (perform lib) (new lib.terminal key) operations)
          (reassemble lib.aead (.new .server key) assemblies packet).1 ∧
        Assembling (trace (perform lib) (new lib.terminal key) operations)
          (reassemble lib.aead (.new .server key) assemblies packet).2 := by
    obtain ⟨stateId, message, sentTimestamp, echoedTimestamp, index, encoded, few, inside, opens⟩ :=
      datagram_is_piece lawful here
    rw [reassemble_opens opens (Nat.lt_of_lt_of_le inside few)]
    exact reassemble_piece one assembling encoded sentTimestamp echoedTimestamp inside few
  apply output_of_invariant _ _ _ _ step _ sent member
  intro stateId assembly found
  cases found

theorem contradicting_pieces {message other : Bytes} (different : message ≠ other)
    (several : 1 < chunkCount message) (ordered : chunkCount other ≤ chunkCount message)
    (few : chunkCount message ≤ 2 ^ 15) (stateId : UInt64)
    (sentTimestamp echoedTimestamp otherSent otherEchoed : UInt16) :
    ∃ index < chunkCount message, ∃ otherIndex < chunkCount other,
      (FragmentAccumulator.new stateId MAXIMUM_REASSEMBLED_BYTES).push
          (pieceAt message sentTimestamp echoedTimestamp stateId index) =
        (.ok none, FragmentAccumulator.holding message sentTimestamp echoedTimestamp stateId
          MAXIMUM_REASSEMBLED_BYTES index) ∧
      (((FragmentAccumulator.holding message sentTimestamp echoedTimestamp stateId
          MAXIMUM_REASSEMBLED_BYTES index).push
            (pieceAt other otherSent otherEchoed stateId otherIndex)).1 = .error .conflictingDuplicate ∨
        ((FragmentAccumulator.holding message sentTimestamp echoedTimestamp stateId
          MAXIMUM_REASSEMBLED_BYTES index).push
            (pieceAt other otherSent otherEchoed stateId otherIndex)).1 =
              .error .conflictingFinalIndex) := by
  have room : MAX_FRAGMENT_BODY_BYTES ≤ MAXIMUM_REASSEMBLED_BYTES := by decide
  rcases Nat.eq_or_lt_of_le ordered with same | shorter
  · obtain ⟨index, inside, apart⟩ := FragmentAccumulator.exists_different_piece same different
    exact ⟨index, inside, index, same ▸ inside,
      FragmentAccumulator.push_first sentTimestamp echoedTimestamp inside few several room,
      Or.inl (FragmentAccumulator.push_conflicting_piece otherSent otherEchoed apart)⟩
  · have positive := chunk_count_positive other
    exact ⟨chunkCount message - 1, by omega, chunkCount other - 1, by omega,
      FragmentAccumulator.push_first sentTimestamp echoedTimestamp (by omega) few several room,
      Or.inr (FragmentAccumulator.push_conflicting_final otherSent otherEchoed few shorter)⟩

theorem reassemble_error {assemblies : BTreeMap UInt64 FragmentAccumulator} {fragment : Fragment}
    {assembly : FragmentAccumulator} {error : FragmentError}
    (found : assemblies.lookup fragment.header.stateId = some assembly)
    (failed : (assembly.push fragment).1 = .error error) :
    (reassembleFragment assemblies fragment).1 = .failed error := by
  unfold reassembleFragment
  dsimp only
  rw [found, Option.getD_some, failed]

/-- Two messages under one identifier, one of several pieces: some two datagrams contradict
each other at the receiver. -/
theorem ambiguous_of_two_messages (lawful : LawfulAead lib.aead) {key : SessionKey}
    {operations : List ProtocolOperation} {stateId : UInt64} {message other : Bytes}
    (encoded : (stateId, message) ∈
      emittedMessages (trace (perform lib) (new lib.terminal key) operations))
    (otherEncoded : (stateId, other) ∈
      emittedMessages (trace (perform lib) (new lib.terminal key) operations))
    (different : message ≠ other) (several : 1 < chunkCount message)
    (ordered : chunkCount other ≤ chunkCount message) :
    ¬ Unambiguous key (trace (perform lib) (new lib.terminal key) operations) := by
  obtain ⟨few, sentTimestamp, echoedTimestamp, sent⟩ := message_is_sent lawful encoded
  obtain ⟨otherFew, otherSent, otherEchoed, otherPackets⟩ := message_is_sent lawful otherEncoded
  obtain ⟨index, inside, otherIndex, otherInside, first, second⟩ := contradicting_pieces different several
    ordered few stateId sentTimestamp echoedTimestamp otherSent otherEchoed
  obtain ⟨packet, packetSent, opens⟩ := sent index inside
  obtain ⟨otherPacket, otherPacketSent, otherOpens⟩ := otherPackets otherIndex otherInside
  intro unambiguous
  let held : BTreeMap UInt64 FragmentAccumulator :=
    AList.insert stateId (FragmentAccumulator.holding message sentTimestamp echoedTimestamp stateId
      MAXIMUM_REASSEMBLED_BYTES index) ∅
  have afterFirst : (reassemble lib.aead (.new .server key) ∅ packet).2 = held := by
    rw [reassemble_opens opens (Nat.lt_of_lt_of_le inside few)]
    have missing : (∅ : BTreeMap UInt64 FragmentAccumulator).lookup stateId = none := rfl
    unfold reassembleFragment
    dsimp only [pieceAt] at first ⊢
    rw [missing, Option.getD_none, first]
  have lookup : held.lookup stateId = some (FragmentAccumulator.holding message sentTimestamp
      echoedTimestamp stateId MAXIMUM_REASSEMBLED_BYTES index) := AList.lookup_insert _
  have sound := unambiguous [packet, otherPacket]
    (by
      intro chosen member
      rcases List.mem_cons.mp member with here | later
      · rw [here]
        exact packetSent
      · rw [List.mem_singleton.mp later]
        exact otherPacketSent)
    (stepAt _ held otherPacket) (by
      rw [trace, afterFirst]
      exact List.mem_cons_of_mem _ List.mem_cons_self)
  have output : (stepAt (reassemble lib.aead (.new .server key)) held otherPacket).output =
      (reassemble lib.aead (.new .server key) held otherPacket).1 := rfl
  rw [output, reassemble_opens otherOpens (Nat.lt_of_lt_of_le otherInside otherFew)] at sound
  rcases second with duplicate | final
  · exact sound.2.1 (reassemble_error lookup duplicate)
  · exact sound.2.2.1 (reassemble_error lookup final)

theorem several_of_large {message other : Bytes}
    (large : ¬ (message.length ≤ MAX_FRAGMENT_BODY_BYTES ∧ other.length ≤ MAX_FRAGMENT_BODY_BYTES))
    (ordered : chunkCount other ≤ chunkCount message) : 1 < chunkCount message := by
  rw [several_iff]
  intro short
  apply large
  have single := (chunk_count_eq_one_iff message).mpr short
  have positive := chunk_count_positive other
  exact ⟨short, (chunk_count_eq_one_iff other).mp (by omega)⟩

/-- In a run of the protocol the datagrams are unambiguous exactly when messages under one
identifier are equal or fit one fragment each. -/
theorem identifiers_unambiguous_iff (lawful : LawfulAead lib.aead) (key : SessionKey)
    (operations : List ProtocolOperation) :
    Unambiguous key (trace (perform lib) (new lib.terminal key) operations) ↔
      OneMessagePerIdentifier (trace (perform lib) (new lib.terminal key) operations) := by
  constructor
  · intro unambiguous left leftEncoded right rightEncoded sameId
    by_contra apart
    rw [not_or] at apart
    obtain ⟨different, large⟩ := apart
    obtain ⟨stateId, message⟩ := left
    obtain ⟨otherId, other⟩ := right
    cases sameId
    rcases Nat.le_total (chunkCount other) (chunkCount message) with ordered | ordered
    · exact ambiguous_of_two_messages lawful leftEncoded rightEncoded different
        (several_of_large large ordered) ordered unambiguous
    · exact ambiguous_of_two_messages lawful rightEncoded leftEncoded (Ne.symm different)
        (several_of_large (fun small => large ⟨small.2, small.1⟩) ordered) ordered unambiguous
  · exact unambiguous_of_one_message lawful

/-- An update that needs two fragments. -/
def pastedBatch : InstructionBatch where
  instructions := [hostBytesInstruction (List.replicate 1300 0x61)]

/-- The update is sent again before anything was acknowledged. -/
def repeatedRun : List ProtocolOperation := [.buildUpdate 0 pastedBatch, .retransmitPending 50]

theorem repeated_message_unambiguous :
    Unambiguous zeroKey (trace (perform plainLibraries) (new lineTerminal zeroKey) repeatedRun) :=
  (identifiers_unambiguous_iff lawful_tagging_aead zeroKey repeatedRun).mpr
    (by decide +kernel)

/-- Output of the server arrives before the update is sent again, which then acknowledges it
under the same identifier. -/
def acknowledgingRun : List ProtocolOperation :=
  [.buildUpdate 0 pastedBatch] ++ (plainPackets [hostBytesUpdate 0 1 [0x62]]).map .ingestPacket ++
    [.retransmitPending 50]

theorem acknowledging_message_ambiguous :
    ¬ Unambiguous zeroKey
      (trace (perform plainLibraries) (new lineTerminal zeroKey) acknowledgingRun) := by
  have pair : ∃ left ∈ emittedMessages (trace (perform plainLibraries) (new lineTerminal zeroKey)
        acknowledgingRun), ∃ right ∈ emittedMessages (trace (perform plainLibraries)
          (new lineTerminal zeroKey) acknowledgingRun), left.1 = right.1 ∧ left.2 ≠ right.2 ∧
      1 < chunkCount left.2 ∧ chunkCount right.2 ≤ chunkCount left.2 := by
    decide +kernel
  obtain ⟨⟨stateId, message⟩, encoded, ⟨otherId, other⟩, otherEncoded, same, different, several, ordered⟩ :=
    pair
  cases same
  exact ambiguous_of_two_messages lawful_tagging_aead encoded otherEncoded
    different several ordered

end ClientProtocol

end FerrumTty.Session
