import FerrumTty.Session.RemoteUpdates
import FerrumTty.Session.Transport

/-!
# The server's stream

The deltas that a run delivers add up to the stream that the server assigned to its newest
state, whatever the network loses, repeats or reorders.
-/

namespace FerrumTty.Session

set_option autoImplicit false

open Crypto Wire State Runs

namespace ClientProtocol

variable {lib : Libraries}

/-- A server that assigns an operation stream to each state number. Every stream continues
the earlier ones, and state zero is the blank state. -/
structure ServerStream where
  content : UInt64 → List StreamItem
  blank : content 0 = []
  continues : ∀ first second, first < second → content first <+: content second

/-- An update that turns the content of its base into the content of its target on a
terminal with the given initial viewport. -/
structure ServerStream.Sends (server : ServerStream) (codec : Codec) (initial : ViewportSize)
    (update : StateUpdate) : Prop where
  discards : update.discardBefore ≤ update.baseState
  forward : update.baseState < update.targetState
  turns : ∃ batch, update.decodeInstructions codec = .ok batch ∧
    server.content update.targetState = server.content update.baseState ++
      addedStream (lastViewport initial (server.content update.baseState)) batch.instructions

/-- Every retained state has the server's history, and so has the delivered one. -/
structure Follows {terminal : Terminal} (server : ServerStream) (initial : ViewportSize)
    (protocol : ClientProtocol terminal) : Prop where
  retained : ∀ stateId state, protocol.receivedStates.lookup stateId = some state →
    state.history.stream = server.content stateId ∧
      state.viewport = lastViewport initial (server.content stateId)
  delivered : protocol.deliveredRemoteState.history.stream = server.content protocol.latestRemoteState

theorem Follows.of_same {terminal : Terminal} {server : ServerStream} {initial : ViewportSize}
    {before after : ClientProtocol terminal} (same : SameRemote before after)
    (follows : Follows server initial before) : Follows server initial after := by
  constructor
  · rw [same.received]
    exact follows.retained
  · rw [same.delivered, same.latest]
    exact follows.delivered

/-- What the host reads from the delivery of one update. -/
def deliveredStream (codec : Codec) (result : Except SessionError (Bool × StateUpdate)) :
    List StreamItem :=
  ((advanceOf result).map fun update => instructionsStream (deliveredInstructions codec update)).getD []

theorem accept_follows (lawful : LawfulLibraries lib) {protocol : ClientProtocol lib.terminal}
    (invariant : RemoteInvariant protocol) {server : ServerStream} {initial : ViewportSize}
    (follows : Follows server initial protocol) {update : StateUpdate}
    (sends : server.Sends lib.codec initial update)
    (fits : ∀ base batch, protocol.receivedStates.lookup update.baseState = some base →
      update.decodeInstructions lib.codec = .ok batch → base.validateHistoryGrowth batch = .ok ()) :
    Follows server initial (protocol.acceptRemoteUpdate lib update).2 ∧
      server.content (protocol.acceptRemoteUpdate lib update).2.latestRemoteState =
        server.content protocol.latestRemoteState ++
          deliveredStream lib.codec (protocol.acceptRemoteUpdate lib update).1 := by
  have cases_of := accept_cases lib protocol update
  generalize protocol.acceptRemoteUpdate lib update = outcome at cases_of
  cases cases_of with
  | ignored quiet =>
      rw [deliveredStream, quiet]
      exact ⟨follows, (List.append_nil _).symm⟩
  | stored base target batch fresh discards forward present decoded applied =>
      have baseFormed := RemoteTerminalState.clone_formed (invariant.formed _ _ present)
      obtain ⟨targetFormed, viewport, _, outcome⟩ :=
        RemoteTerminalState.apply_spec lawful.terminal.toLawfulParser baseFormed applied
      obtain ⟨baseStream, baseViewport⟩ := follows.retained _ _ present
      obtain ⟨sentBatch, sentDecoded, turns⟩ := sends.turns
      have sameBatch : sentBatch = batch := Except.ok.inj (sentDecoded.symm.trans decoded)
      rw [sameBatch, ← baseViewport, ← baseStream] at turns
      have targetStream : target.history.stream = server.content update.targetState := by
        rcases outcome with ⟨_, stream⟩ | ⟨full, _, _⟩
        · rw [turns]
          exact stream
        · exact absurd (fits base batch present decoded) full
      have targetViewport : target.viewport =
          lastViewport initial (server.content update.targetState) := by
        rw [turns, baseStream, last_viewport_append, ← baseViewport, last_viewport_added]
        exact viewport
      have kept (stateId : UInt64) (state : RemoteTerminalState lib.terminal)
          (found : ((protocol.discardedFor update).receivedStates.insert update.targetState
            target.clone).lookup stateId = some state) :
          state.history.stream = server.content stateId ∧
            state.viewport = lastViewport initial (server.content stateId) := by
        rw [AList.lookup_insert_cases] at found
        split_ifs at found with here
        · rw [← Option.some.inj found, here]
          exact ⟨targetStream, targetViewport⟩
        · exact follows.retained stateId state (AList.lookup_retain_some found).2
      have storage := store_cases lib protocol update target
      generalize protocol.storeRemoteState lib update target = outcome at storage
      cases storage with
      | full crowded =>
          refine ⟨⟨?_, follows.delivered⟩, (List.append_nil _).symm⟩
          intro stateId state found
          exact follows.retained stateId state (AList.lookup_retain_some found).2
      | held room late => exact ⟨⟨kept, follows.delivered⟩, (List.append_nil _).symm⟩
      | advanced room newer diff built =>
          refine ⟨⟨kept, targetStream⟩, ?_⟩
          have prefixed := server.continues _ _ newer
          rw [← targetStream, ← follows.delivered] at prefixed
          rcases RemoteTerminalState.diff_from_cases lawful.terminal.toLawfulParser targetFormed
            invariant.delivered with ⟨suffix, split, succeeded⟩ | ⟨apart, _⟩
          · have shape := Except.ok.inj (built.symm.trans succeeded)
            have carried : deliveredStream lib.codec (Except.ok (ε := SessionError)
                (true, { update with delta := diff.encodeBytes })) = instructionsStream suffix := by
              rw [deliveredStream, advanceOf, Option.map_some, Option.getD_some,
                delivered_instructions_encoded lawful.codec, shape, instructions_stream_echo]
            rw [carried, ← follows.delivered, ← split, targetStream]
            rfl
          · exact absurd prefixed apart

/-- A fresh protocol whose blank remote state has the viewport of the local terminal. -/
def withViewport (lib : Libraries) (key : SessionKey) (columns rows : UInt16) :
    ClientProtocol lib.terminal :=
  (new lib.terminal key).setInitialRemoteViewport columns rows

theorem with_viewport_blank (key : SessionKey) (columns rows : UInt16) :
    ∃ blank : RemoteTerminalState lib.terminal, blank.history = .empty ∧
      blank.viewport = viewportOf (max columns 1) (max rows 1) ∧
      withViewport lib key columns rows =
        { new lib.terminal key with
          receivedStates := (new lib.terminal key).receivedStates.insert 0 blank.clone
          deliveredRemoteState := blank } := by
  obtain ⟨blank, created⟩ := RemoteTerminalState.new_succeeds
    (half_word_max_ne_zero columns) (half_word_max_ne_zero rows)
  obtain ⟨_, history, viewport, _⟩ := RemoteTerminalState.new_formed created
  refine ⟨blank, history, viewport, ?_⟩
  have untouched : ¬ ((new lib.terminal key).latestRemoteState ≠ 0 ∨
      (new lib.terminal key).receivedStates.len ≠ 1) := by
    rw [not_or, not_not, not_not]
    exact ⟨rfl, rfl⟩
  rw [withViewport, setInitialRemoteViewport, if_neg untouched, created]

theorem with_viewport_follows (key : SessionKey) (columns rows : UInt16) (server : ServerStream) :
    RemoteInvariant (withViewport lib key columns rows) ∧
      Follows server (viewportOf (max columns 1) (max rows 1)) (withViewport lib key columns rows) ∧
      server.content (withViewport lib key columns rows).latestRemoteState = [] := by
  refine ⟨(RemoteInvariant.initial lib.terminal key).set_initial_viewport columns rows, ?_⟩
  obtain ⟨blank, history, viewport, shape⟩ := with_viewport_blank key columns rows
  have empty : blank.history.stream = [] := by
    rw [history]
    rfl
  rw [shape]
  refine ⟨⟨?_, ?_⟩, server.blank⟩
  · intro stateId state found
    have looked : ((new lib.terminal key).receivedStates.insert 0 blank.clone).lookup stateId =
        some state := found
    rw [AList.lookup_insert_cases] at looked
    split_ifs at looked with zero
    · rw [← Option.some.inj looked, zero, server.blank]
      exact ⟨empty, viewport⟩
    · have elsewhere : (new lib.terminal key).receivedStates.lookup stateId = none :=
        AList.lookup_insert_ne zero
      rw [elsewhere] at looked
      cases looked
  · exact empty.trans server.blank.symm

/-- Whatever is lost, repeated or reordered on the way, the host reads the server's stream:
the deltas delivered in a run add up to the content of the newest remote state, and every
retained state has the history the server gave it. -/
theorem delivered_stream_is_server_stream (lawful : LawfulLibraries lib) (key : SessionKey)
    (columns rows : UInt16) (server : ServerStream) (updates : List StateUpdate)
    (sends : ∀ update ∈ updates,
      server.Sends lib.codec (viewportOf (max columns 1) (max rows 1)) update)
    (fits : ∀ earlier update later, updates = earlier ++ update :: later → ∀ base batch,
      (final (handleUpdate lib) (withViewport lib key columns rows) earlier).receivedStates.lookup
        update.baseState = some base → update.decodeInstructions lib.codec = .ok batch →
      base.validateHistoryGrowth batch = .ok ()) :
    ((trace (handleUpdate lib) (withViewport lib key columns rows) updates).map
        fun event => deliveredStream lib.codec event.output).flatten =
      server.content (final (handleUpdate lib) (withViewport lib key columns rows)
        updates).latestRemoteState ∧
      ∀ stateId state, (final (handleUpdate lib) (withViewport lib key columns rows)
          updates).receivedStates.lookup stateId = some state →
        state.history.stream = server.content stateId := by
  obtain ⟨startInvariant, startFollows, startEmpty⟩ :=
    with_viewport_follows key columns rows server
  generalize withViewport lib key columns rows = start at *
  have whole : RemoteInvariant (final (handleUpdate lib) start updates) ∧
      Follows server (viewportOf (max columns 1) (max rows 1))
        (final (handleUpdate lib) start updates) ∧
      ((trace (handleUpdate lib) start updates).map
          fun event => deliveredStream lib.codec event.output).flatten =
        server.content (final (handleUpdate lib) start updates).latestRemoteState := by
    -- induction from the back: the last update meets the states that the earlier ones left
    induction updates using List.reverseRecOn with
    | nil => exact ⟨startInvariant, startFollows, startEmpty.symm⟩
    | append_singleton updates update induction =>
        obtain ⟨invariant, follows, delivered⟩ := induction
          (fun earlier member => sends earlier (List.mem_append_left _ member))
          (fun earlier other later split => fits earlier other (later ++ [update]) (by simp [split]))
        rw [final_concat, trace_concat, List.map_append, List.flatten_append, delivered]
        have fitsHere := fits updates update [] rfl
        generalize final (handleUpdate lib) start updates = protocol at *
        have acknowledged :=
          (process_acknowledgement_inbound protocol update.acknowledgedState).toSameRemote
        obtain ⟨sameResult, sameRemote⟩ := handle_update_accepts lib protocol update
        have accepted := accept_follows lawful (invariant.of_same acknowledged)
          (follows.of_same acknowledged) (sends update (by simp))
          (by rw [acknowledged.received]; exact fitsHere)
        refine ⟨((invariant.of_same acknowledged).accept lawful.terminal.toLawfulParser update).of_same
          sameRemote, accepted.1.of_same sameRemote, ?_⟩
        rw [sameRemote.latest, accepted.2, acknowledged.latest, ← sameResult]
        simp [stepAt]
  exact ⟨whole.2.2, fun stateId state found => (whole.2.1.retained stateId state found).1⟩

def letterServer : ServerStream where
  content number := [StreamItem.byte 0x61, StreamItem.byte 0x62].take number.toNat
  blank := rfl
  continues _ _ ordered :=
    List.take_prefix_take_left (Nat.le_of_lt (UInt64.lt_iff_toNat_lt.mp ordered))

/-- State two overtakes state one, and is then sent again on top of it. -/
def overtakingUpdates : List StateUpdate :=
  [hostBytesUpdate 0 2 [0x61, 0x62], hostBytesUpdate 0 1 [0x61], hostBytesUpdate 1 2 [0x62]]

theorem overtaking_updates_sent (update : StateUpdate) (member : update ∈ overtakingUpdates) :
    letterServer.Sends storedCodec (viewportOf 80 24) update := by
  simp only [overtakingUpdates, List.mem_cons, List.not_mem_nil, or_false] at member
  rcases member with first | second | third
  · rw [first]
    exact ⟨by decide, by decide, _, rfl, by decide⟩
  · rw [second]
    exact ⟨by decide, by decide, _, rfl, by decide⟩
  · rw [third]
    exact ⟨by decide, by decide, _, rfl, by decide⟩

theorem overtaking_updates_fit (earlier : List StateUpdate) (update : StateUpdate)
    (later : List StateUpdate) (split : overtakingUpdates = earlier ++ update :: later)
    (base : RemoteTerminalState lineTerminal) (batch : InstructionBatch)
    (found : (final (handleUpdate plainLibraries) (withViewport plainLibraries zeroKey 80 24)
      earlier).receivedStates.lookup update.baseState = some base)
    (decoded : update.decodeInstructions storedCodec = .ok batch) :
    base.validateHistoryGrowth batch = .ok () := by
  have checked : ∀ index, (bound : index < overtakingUpdates.length) →
      ∀ base ∈ (final (handleUpdate plainLibraries) (withViewport plainLibraries zeroKey 80 24)
        (overtakingUpdates.take index)).receivedStates.lookup overtakingUpdates[index].baseState,
      ∀ batch ∈ (overtakingUpdates[index].decodeInstructions storedCodec).toOption,
        RemoteTerminalState.validateHistoryGrowth base batch = .ok () := by
    decide +kernel
  have bound : earlier.length < overtakingUpdates.length := by
    rw [split]
    simp
  have here : overtakingUpdates[earlier.length] = update := by simp [split]
  have before : overtakingUpdates.take earlier.length = earlier := by simp [split]
  have check := checked earlier.length bound
  rw [here, before] at check
  exact check base found batch (by rw [decoded]; rfl)

theorem overtaking_updates_delivered :
    ((trace (handleUpdate plainLibraries) (withViewport plainLibraries zeroKey 80 24)
          overtakingUpdates).map fun event => deliveredStream storedCodec event.output).flatten =
        letterServer.content (final (handleUpdate plainLibraries)
          (withViewport plainLibraries zeroKey 80 24) overtakingUpdates).latestRemoteState ∧
      (final (handleUpdate plainLibraries) (withViewport plainLibraries zeroKey 80 24)
        overtakingUpdates).latestRemoteState = 2 :=
  ⟨(delivered_stream_is_server_stream lawful_plain_libraries zeroKey 80 24 letterServer
    overtakingUpdates overtaking_updates_sent overtaking_updates_fit).1, by decide +kernel⟩

end ClientProtocol

end FerrumTty.Session
