import FerrumTty.Session.Outbox
import FerrumTty.Session.Transport

/-!
# The numbers of the sent states

The send history over any order of the public methods. Up to 32 states may be in flight, so a
number stands for everything that was sent up to its state.
-/

namespace FerrumTty.Session

set_option autoImplicit false

open Crypto Wire State Runs

namespace ClientProtocol

/-- The bounded history loses older states, never one of the two newest. -/
theorem limit_loop_keeps (fuel : Nat) (front : List SentState) (older newest : SentState) :
    ∃ kept, List.Sublist kept front ∧
      limitSentStatesLoop fuel (front ++ [older, newest]) = kept ++ [older, newest] := by
  induction fuel generalizing front with
  | zero => exact ⟨front, .refl front, rfl⟩
  | succ fuel induction =>
      unfold limitSentStatesLoop
      split_ifs with many
      · have inside : (front ++ [older, newest]).length - 16 < front.length := by
          simp only [List.length_append, List.length_cons, List.length_nil, MAXIMUM_SENT_STATES]
            at many ⊢
          omega
        rw [List.eraseIdx_append_of_lt_length inside]
        obtain ⟨kept, among, same⟩ :=
          induction (front.eraseIdx ((front ++ [older, newest]).length - 16))
        exact ⟨kept, among.trans (List.eraseIdx_sublist _ _), same⟩
      · exact ⟨front, .refl front, rfl⟩

theorem limit_keeps (front : List SentState) (older newest : SentState) :
    ∃ kept, List.Sublist kept front ∧
      limitSentStates (front ++ [older] ++ [newest]) = kept ++ [older] ++ [newest] := by
  rw [List.append_assoc, limitSentStates]
  obtain ⟨kept, among, same⟩ :=
    limit_loop_keeps (front ++ ([older] ++ [newest])).length front older newest
  refine ⟨kept, among, ?_⟩
  rw [List.append_assoc]
  exact same

section History

variable {terminal : Terminal} {protocol after : ClientProtocol terminal}
  {content : UInt64 → List Instruction} {sent : List Instruction}

/-- The numbers of the sent states increase, and each stands for everything that was sent up to
its state. -/
structure History (protocol : ClientProtocol terminal) (content : UInt64 → List Instruction)
    (sent : List Instruction) : Prop where
  nonempty : protocol.sentStates ≠ []
  ordered : (protocol.sentStates.map SentState.stateId).Pairwise (· < ·)
  known : ∀ state ∈ protocol.sentStates, protocol.Issued state.stateId
  ends : (protocol.sentStates.map SentState.instructionEnd).Pairwise (· ≤ ·)
  contents : ∃ confirmed, sent = confirmed ++ protocol.localInstructions ∧
    ∀ state ∈ protocol.sentStates, state.instructionEnd ≤ protocol.localInstructions.length ∧
      content state.stateId = confirmed ++ protocol.localInstructions.take state.instructionEnd
  newest : ∀ back, protocol.sentStates.getLast? = some back →
    back.instructionEnd = protocol.localInstructions.length
  positive : 0 < protocol.nextLocalState
  origin : content 0 = []

theorem new_history (terminal : Terminal) (key : SessionKey) :
    (new terminal key).History (fun _ => []) [] where
  nonempty := List.cons_ne_nil _ _
  ordered := List.pairwise_singleton _ _
  known := (new_outbox terminal key).issued
  ends := List.pairwise_singleton _ _
  contents := by
    refine ⟨[], rfl, ?_⟩
    intro state member
    rw [List.mem_singleton.mp member]
    exact ⟨Nat.le_refl _, rfl⟩
  newest := by
    intro back last
    cases last
    rfl
  positive := (new_outbox terminal key).positive
  origin := rfl

theorem History.of_same_sent (history : protocol.History content sent) (same : SameSent protocol after) :
    after.History content sent where
  nonempty := same.states ▸ history.nonempty
  ordered := same.states ▸ history.ordered
  known := by
    rw [same.states]
    intro state member
    exact (same.issued state.stateId).mpr (history.known state member)
  ends := same.states ▸ history.ends
  contents := by
    rw [same.states, same.instructions]
    exact history.contents
  newest := by
    rw [same.states, same.instructions]
    exact history.newest
  positive := same.next ▸ history.positive
  origin := history.origin

theorem acknowledgement_drops (protocol : ClientProtocol terminal) (acknowledgedState : UInt64) :
    protocol.processAcknowledgement acknowledgedState = protocol ∨
      ∃ front acknowledged back, protocol.sentStates = front ++ acknowledged :: back ∧
        (protocol.processAcknowledgement acknowledgedState).localInstructions =
          protocol.localInstructions.drop acknowledged.instructionEnd ∧
        (protocol.processAcknowledgement acknowledgedState).sentStates =
          (acknowledged :: back).map fun state =>
            { state with instructionEnd := state.instructionEnd - acknowledged.instructionEnd } := by
  unfold processAcknowledgement
  cases found : protocol.sentStates.findIdx? fun state => state.stateId = acknowledgedState with
  | none => exact Or.inl rfl
  | some index =>
      right
      have inside := (List.findIdx?_eq_some_iff_findIdx_eq.mp found).1
      have shape := List.drop_eq_getElem_cons inside
      refine ⟨protocol.sentStates.take index, protocol.sentStates[index],
        protocol.sentStates.drop (index + 1), ?_, ?_⟩
      · rw [← shape, List.take_append_drop]
      · dsimp only
        rw [shape, List.head?_cons, Option.map_some, Option.getD_some]
        split_ifs with nothing
        · rw [nothing]
          exact ⟨rfl, (List.map_id _).symm⟩
        · exact ⟨rfl, rfl⟩

theorem History.acknowledgement (history : protocol.History content sent) (acknowledgedState : UInt64) :
    (protocol.processAcknowledgement acknowledgedState).History content sent := by
  have next := (acknowledgement_cases protocol acknowledgedState).1
  have issued := acknowledgement_issued protocol acknowledgedState
  rcases acknowledgement_drops protocol acknowledgedState with
    same | ⟨front, acknowledged, back, split, instructions, states⟩
  · rw [same]
    exact history
  · have among : List.Sublist (acknowledged :: back) protocol.sentStates := by
      rw [split]
      exact List.sublist_append_right front _
    have ordered := history.ordered.sublist (among.map SentState.stateId)
    have ends := history.ends.sublist (among.map SentState.instructionEnd)
    have beyond : ∀ state ∈ acknowledged :: back,
        acknowledged.instructionEnd ≤ state.instructionEnd := by
      intro state member
      rcases List.mem_cons.mp member with here | behind
      · rw [here]
      · exact (List.pairwise_cons.mp ends).1 _ (List.mem_map_of_mem behind)
    obtain ⟨confirmed, all, contents⟩ := history.contents
    constructor
    · rw [states]
      exact List.cons_ne_nil _ _
    · rw [states, List.map_map]
      exact ordered
    · rw [states]
      intro state member
      obtain ⟨original, listed, same⟩ := List.mem_map.mp member
      rw [issued, ← same]
      exact history.known original (among.subset listed)
    · rw [states, List.map_map, List.pairwise_map]
      rw [List.pairwise_map] at ends
      apply ends.imp
      intro first second order
      exact Nat.sub_le_sub_right order _
    · refine ⟨confirmed ++ protocol.localInstructions.take acknowledged.instructionEnd, ?_, ?_⟩
      · rw [instructions, List.append_assoc, List.take_append_drop]
        exact all
      · rw [states, instructions]
        intro state member
        obtain ⟨original, listed, same⟩ := List.mem_map.mp member
        obtain ⟨within, stands⟩ := contents original (among.subset listed)
        rw [← same, List.length_drop]
        refine ⟨Nat.sub_le_sub_right within _, ?_⟩
        have whole : original.instructionEnd = acknowledged.instructionEnd +
            (original.instructionEnd - acknowledged.instructionEnd) := by
          have order := beyond original listed
          omega
        rw [List.append_assoc, ← List.take_add, ← whole]
        exact stands
    · rw [states, instructions]
      intro last found
      rw [List.getLast?_map] at found
      obtain ⟨original, latest, same⟩ := Option.map_eq_some_iff.mp found
      have whole : protocol.sentStates.getLast? = some original := by
        rw [split, List.getLast?_append, latest]
        rfl
      rw [← same, List.length_drop, history.newest original whole]
    · rw [next]
      exact history.positive
    · exact history.origin

theorem History.settles (history : protocol.History content sent) (settles : Settles protocol after) :
    after.History content sent := by
  rcases settles.history with same | ⟨acknowledgedState, same⟩
  · exact history.of_same_sent same
  · exact (history.acknowledgement acknowledgedState).of_same_sent same

theorem History.latest (history : protocol.History content sent) {back : SentState}
    (last : protocol.sentStates.getLast? = some back) : content back.stateId = sent := by
  obtain ⟨confirmed, all, contents⟩ := history.contents
  rw [(contents back (List.mem_of_getLast? last)).2, history.newest back last, List.take_length]
  exact all.symm

theorem History.record (history : protocol.History content sent) {target : UInt64}
    (above : ∀ number, protocol.Issued number → number < target) (batch : InstructionBatch)
    (states : after.sentStates = limitSentStates (protocol.sentStates ++ [⟨target,
      protocol.localInstructions.length + batch.instructions.length⟩]))
    (instructions : after.localInstructions = protocol.localInstructions ++ batch.instructions)
    (positive : 0 < after.nextLocalState) (issuedTarget : after.Issued target)
    (stillIssued : ∀ number, protocol.Issued number → after.Issued number) :
    after.History (Function.update content target (sent ++ batch.instructions))
      (sent ++ batch.instructions) := by
  have split := (List.dropLast_append_getLast history.nonempty).symm
  generalize protocol.sentStates.getLast history.nonempty = back at split
  generalize protocol.sentStates.dropLast = front at split
  obtain ⟨kept, among, limited⟩ := limit_keeps front back
    ⟨target, protocol.localInstructions.length + batch.instructions.length⟩
  rw [split, limited] at states
  have retained : List.Sublist (kept ++ [back]) protocol.sentStates := by
    rw [split]
    exact among.append_right _
  have older : ∀ state ∈ kept ++ [back], state.stateId < target := by
    intro state member
    exact above _ (history.known state (retained.subset member))
  obtain ⟨confirmed, all, contents⟩ := history.contents
  have held : ∀ state ∈ kept ++ [back],
      state.instructionEnd ≤ protocol.localInstructions.length ∧
        content state.stateId =
          confirmed ++ protocol.localInstructions.take state.instructionEnd :=
    fun state member => contents state (retained.subset member)
  constructor
  · rw [states]
    simp
  · rw [states, List.map_append, List.pairwise_append]
    refine ⟨history.ordered.sublist (retained.map _), List.pairwise_singleton _ _, ?_⟩
    intro number listed other last
    obtain ⟨state, member, named⟩ := List.mem_map.mp listed
    rw [List.mem_singleton.mp last, ← named]
    exact older state member
  · rw [states]
    intro state member
    rcases List.mem_append.mp member with earlier | new
    · exact stillIssued _ (history.known state (retained.subset earlier))
    · rw [List.mem_singleton.mp new]
      exact issuedTarget
  · rw [states, List.map_append, List.pairwise_append]
    refine ⟨history.ends.sublist (retained.map _), List.pairwise_singleton _ _, ?_⟩
    intro number listed other last
    obtain ⟨state, member, named⟩ := List.mem_map.mp listed
    rw [List.mem_singleton.mp last, ← named]
    exact Nat.le_add_right_of_le (held state member).1
  · refine ⟨confirmed, ?_, ?_⟩
    · rw [instructions, all, List.append_assoc]
    · rw [states, instructions]
      intro state member
      rcases List.mem_append.mp member with earlier | new
      · obtain ⟨within, stands⟩ := held state earlier
        rw [Function.update_of_ne (UInt64.ne_of_lt (older state earlier)), stands,
          List.length_append, List.take_append_of_le_length within]
        exact ⟨Nat.le_add_right_of_le within, rfl⟩
      · rw [List.mem_singleton.mp new, Function.update_self, ← List.length_append, List.take_length,
          all, List.append_assoc]
        exact ⟨Nat.le_refl _, rfl⟩
  · rw [states, instructions]
    intro last found
    rw [List.getLast?_append, List.getLast?_singleton] at found
    cases found
    exact List.length_append.symm
  · exact positive
  · rw [Function.update_of_ne (UInt64.ne_of_lt (above 0 (Or.inl history.positive)))]
    exact history.origin

end History

section Step

variable {lib : Libraries} {protocol after : ClientProtocol lib.terminal}
  {content : UInt64 → List Instruction} {sent : List Instruction}

theorem build_state_update_failed {sentTimestamp : UInt16} {instructions : InstructionBatch}
    {targetState : UInt64} {error : SessionError}
    (built : protocol.buildStateUpdate lib sentTimestamp instructions targetState =
      (.error error, after)) : SameSent protocol after := by
  unfold buildStateUpdate at built
  split at built
  · rename_i front back first last
    cases sealed : protocol.sealUpdate lib sentTimestamp
        (protocol.stateUpdate front back instructions targetState) targetState with
    | mk result next =>
        obtain ⟨channel, moved⟩ := seal_update_after sealed
        rw [sealed] at built
        cases result with
        | error refused =>
            cases built
            rw [moved]
            exact with_channel_same_sent channel
        | ok written => cases built
  · cases built
    exact .refl protocol

theorem perform_failed {operation : ProtocolOperation} {error : SessionError}
    (performed : protocol.perform lib operation = (.packets (.error error), after)) :
    SameSent protocol after := by
  cases keeps : operation.keepsHistory with
  | true =>
      obtain ⟨channel, moved⟩ := perform_keeps keeps performed
      rw [moved]
      exact with_channel_same_sent channel
  | false =>
      cases operation with
      | buildUpdate sentTimestamp instructions =>
          simp only [perform, buildUpdate] at performed
          split_ifs at performed with exhausted
          · cases performed
            exact .refl protocol
          · cases built : protocol.buildStateUpdate lib sentTimestamp instructions
                protocol.nextLocalState with
            | mk result next =>
                rw [built] at performed
                cases result with
                | error refused =>
                    cases performed
                    exact build_state_update_failed built
                | ok written => cases performed
      | buildShutdown sentTimestamp instructions =>
          simp only [perform, buildShutdown] at performed
          split_ifs at performed with sentAlready
          · cases performed
            exact .refl protocol
          · simp only [Prod.mk.injEq, ProtocolOutput.packets.injEq] at performed
            exact build_state_update_failed (Prod.ext performed.1 performed.2)
      | ingestPacket packet => cases performed
      | setLocalCapabilities capabilities => cases performed
      | setInitialRemoteViewport columns rows => cases performed
      | _ => cases keeps

/-- `build_update` is called behind the shutdown state. -/
def behindShutdown (event : ProtocolStep lib) : Bool :=
  match event.input with
  | .buildUpdate .. => event.before.localShutdownSent
  | _ => false

def freshTarget (event : ProtocolStep lib) : Option UInt64 :=
  match event.input, event.output with
  | .buildUpdate .., .packets (.ok _) => some event.before.nextLocalState
  | .buildShutdown .., .packets (.ok _) => some MAXIMUM_STATE
  | _, _ => none

/-- One step of the send history: the numbers issued before keep their contents, and what the
step sends is explained by the contents behind it. -/
structure HistoryStep (lib : Libraries) (before : ClientProtocol lib.terminal)
    (content : UInt64 → List Instruction) (operation : ProtocolOperation)
    (later : UInt64 → List Instruction) (sent : List Instruction) : Prop where
  history : (before.perform lib operation).2.History later sent
  agree : ∀ number, before.Issued number → later number = content number
  issued : ∀ number, before.Issued number → (before.perform lib operation).2.Issued number
  explained : ∀ packets update stateId batch,
    (before.perform lib operation).1 = .packets (.ok packets) →
    before.outgoing operation = some (update, stateId) → update.delta = batch.encodeBytes →
    (before.perform lib operation).2.Explained later update batch
  fresh : ∀ target, freshTarget (stepAt (perform lib) before operation) = some target →
    (∀ number, before.Issued number → number < target) ∧
      (before.perform lib operation).2.Issued target

theorem HistoryStep.of_same {operation : ProtocolOperation}
    (history : protocol.History content sent)
    (same : SameSent protocol (protocol.perform lib operation).2)
    (repeated : freshTarget (stepAt (perform lib) protocol operation) = none)
    (explained : ∀ packets update stateId batch,
      (protocol.perform lib operation).1 = .packets (.ok packets) →
      protocol.outgoing operation = some (update, stateId) → update.delta = batch.encodeBytes →
      protocol.Explained content update batch) :
    HistoryStep lib protocol content operation content sent where
  history := history.of_same_sent same
  agree := fun _ _ => rfl
  issued := fun number issued => (same.issued number).mpr issued
  explained := by
    intro packets update stateId batch sealed out written
    apply (explained packets update stateId batch sealed out written).later
    · intro number issued
      rfl
    · intro number issued
      exact (same.issued number).mpr issued
  fresh := by
    intro target fresh
    rw [repeated] at fresh
    cases fresh

theorem History.acknowledgement_explained (lawful : LawfulCodec lib.codec)
    (history : protocol.History content sent) {sentTimestamp : UInt16} {update : StateUpdate}
    {stateId : UInt64} {batch : InstructionBatch}
    (out : protocol.outgoing (.buildAcknowledgement sentTimestamp) = some (update, stateId))
    (written : update.delta = batch.encodeBytes) : protocol.Explained content update batch := by
  cases outgoing_cases out with
  | acknowledgement _ first last =>
      have nothing : batch = ⟨[]⟩ :=
        (batch_encode_injective lawful (empty_batch_encode.symm.trans written)).symm
      have issued := history.known _ (List.mem_of_getLast? last)
      rw [nothing]
      exact ⟨List.append_nil _, issued, issued⟩

theorem History.shutdown_ack_explained (lawful : LawfulCodec lib.codec)
    (history : protocol.History content sent) {sentTimestamp : UInt16} {update : StateUpdate}
    {stateId : UInt64} {batch : InstructionBatch}
    (out : protocol.outgoing (.buildShutdownAck sentTimestamp) = some (update, stateId))
    (written : update.delta = batch.encodeBytes) : protocol.Explained content update batch := by
  cases outgoing_cases out with
  | shutdownAck _ acknowledged =>
      have nothing : batch = ⟨[]⟩ := (batch_encode_injective lawful written).symm
      have issued : protocol.Issued MAXIMUM_STATE := by
        cases first : protocol.sentStates.head? with
        | none => simp [localShutdownAcknowledged, first] at acknowledged
        | some front =>
            have last : front.stateId = MAXIMUM_STATE := by
              simpa [localShutdownAcknowledged, first] using acknowledged
            rw [← last]
            exact history.known front (List.mem_of_head? first)
      rw [nothing]
      exact ⟨List.append_nil _, issued, issued⟩

theorem History.retransmission_explained (lawful : LawfulCodec lib.codec)
    (history : protocol.History content sent) {sentTimestamp : UInt16} {update : StateUpdate}
    {stateId : UInt64} {batch : InstructionBatch}
    (out : protocol.outgoing (.retransmitPending sentTimestamp) = some (update, stateId))
    (written : update.delta = batch.encodeBytes) : protocol.Explained content update batch := by
  cases outgoing_cases out with
  | @retransmission _ front back first last pending =>
      have same : protocol.pendingInstructions front back = batch :=
        batch_encode_injective lawful written
      obtain ⟨confirmed, all, contents⟩ := history.contents
      have frontHeld := contents front (List.mem_of_head? first)
      have order : front.instructionEnd ≤ protocol.localInstructions.length := frontHeld.1
      rw [← same]
      constructor
      · change content front.stateId ++ (protocol.pendingInstructions front back).instructions =
          content back.stateId
        rw [history.latest last, frontHeld.2, all, pendingInstructions,
          history.newest back last, List.take_length, List.append_assoc, List.take_append_drop]
      · exact history.known front (List.mem_of_head? first)
      · exact history.known back (List.mem_of_getLast? last)

theorem History.recorded_step (lawful : LawfulCodec lib.codec) (history : protocol.History content sent)
    {operation : ProtocolOperation} {target : UInt64} {batch : InstructionBatch}
    (writes : ∀ update stateId, protocol.outgoing operation = some (update, stateId) →
      ∃ front back, protocol.sentStates.getLast? = some back ∧
        update = protocol.stateUpdate front back batch target)
    (names : ∀ number, freshTarget (stepAt (perform lib) protocol operation) = some number →
      number = target)
    (above : ∀ number, protocol.Issued number → number < target)
    (states : (protocol.perform lib operation).2.sentStates = limitSentStates (protocol.sentStates ++
      [⟨target, protocol.localInstructions.length + batch.instructions.length⟩]))
    (instructions : (protocol.perform lib operation).2.localInstructions =
      protocol.localInstructions ++ batch.instructions)
    (positive : 0 < (protocol.perform lib operation).2.nextLocalState)
    (issuedTarget : (protocol.perform lib operation).2.Issued target)
    (stillIssued : ∀ number, protocol.Issued number →
      (protocol.perform lib operation).2.Issued number) :
    HistoryStep lib protocol content operation
      (Function.update content target (sent ++ batch.instructions)) (sent ++ batch.instructions) := by
  have agree : ∀ number, protocol.Issued number →
      Function.update content target (sent ++ batch.instructions) number = content number := by
    intro number issued
    exact Function.update_of_ne (UInt64.ne_of_lt (above number issued)) _ _
  constructor
  · exact history.record above batch states instructions positive issuedTarget stillIssued
  · exact agree
  · exact stillIssued
  · intro packets update stateId other sealed out written
    obtain ⟨front, back, last, shape⟩ := writes update stateId out
    have issued := history.known back (List.mem_of_getLast? last)
    rw [shape] at written ⊢
    have same : batch = other := batch_encode_injective lawful written
    rw [← same]
    refine ⟨?_, stillIssued _ issued, issuedTarget⟩
    change Function.update content target (sent ++ batch.instructions) back.stateId ++
      batch.instructions = Function.update content target (sent ++ batch.instructions) target
    rw [agree _ issued, Function.update_self, history.latest last]
  · intro number fresh
    rw [names number fresh]
    exact ⟨above, issuedTarget⟩

theorem issued_below_next (unsent : protocol.localShutdownSent = false) {number : UInt64}
    (issued : protocol.Issued number) : number < protocol.nextLocalState := by
  rcases issued with below | ⟨_, sentAlready⟩
  · exact below
  · rw [unsent] at sentAlready
    cases sentAlready

theorem History.update_step (lawful : LawfulCodec lib.codec) (history : protocol.History content sent)
    {sentTimestamp : UInt16} {batch : InstructionBatch} (unsent : protocol.localShutdownSent = false)
    {packets : List Bytes}
    (sealed : (protocol.perform lib (.buildUpdate sentTimestamp batch)).1 = .packets (.ok packets)) :
    HistoryStep lib protocol content (.buildUpdate sentTimestamp batch)
      (Function.update content protocol.nextLocalState (sent ++ batch.instructions))
      (sent ++ batch.instructions) := by
  have performed : protocol.perform lib (.buildUpdate sentTimestamp batch) =
      (.packets (.ok packets), (protocol.perform lib (.buildUpdate sentTimestamp batch)).2) :=
    Prod.ext sealed rfl
  obtain ⟨room, channel, moved⟩ := perform_update_after performed
  have newer := lt_next_of_not_last room
  have next : (protocol.perform lib (.buildUpdate sentTimestamp batch)).2.nextLocalState =
      protocol.nextLocalState + 1 := by rw [moved]
  apply history.recorded_step lawful
  · intro update stateId out
    cases outgoing_cases out with
    | @update _ _ front back first last => exact ⟨front, back, last, rfl⟩
  · intro number fresh
    simp only [freshTarget, stepAt, sealed, Option.some.injEq] at fresh
    exact fresh.symm
  · intro number issued
    exact issued_below_next unsent issued
  · rw [moved]
    rfl
  · rw [moved]
    rfl
  · rw [next]
    exact UInt64.lt_trans history.positive newer
  · exact Or.inl (next ▸ newer)
  · intro number issued
    exact Or.inl (next ▸ UInt64.lt_trans (issued_below_next unsent issued) newer)

theorem History.shutdown_step (lawful : LawfulCodec lib.codec) (history : protocol.History content sent)
    {sentTimestamp : UInt16} {batch : InstructionBatch} {packets : List Bytes}
    (sealed : (protocol.perform lib (.buildShutdown sentTimestamp batch)).1 = .packets (.ok packets)) :
    HistoryStep lib protocol content (.buildShutdown sentTimestamp batch)
      (Function.update content MAXIMUM_STATE (sent ++ batch.instructions))
      (sent ++ batch.instructions) := by
  have performed : protocol.perform lib (.buildShutdown sentTimestamp batch) =
      (.packets (.ok packets), (protocol.perform lib (.buildShutdown sentTimestamp batch)).2) :=
    Prod.ext sealed rfl
  obtain ⟨unsent, channel, moved⟩ := perform_shutdown_after performed
  have next : (protocol.perform lib (.buildShutdown sentTimestamp batch)).2.nextLocalState =
      protocol.nextLocalState := by rw [moved]; rfl
  have states : (protocol.perform lib (.buildShutdown sentTimestamp batch)).2.sentStates =
      limitSentStates (protocol.sentStates ++ [⟨MAXIMUM_STATE,
        protocol.localInstructions.length + batch.instructions.length⟩]) := by rw [moved]; rfl
  have shutdownSent :
      (protocol.perform lib (.buildShutdown sentTimestamp batch)).2.localShutdownSent = true := by
    have split := (List.dropLast_append_getLast history.nonempty).symm
    rw [localShutdownSent, states]
    rw [split]
    obtain ⟨kept, _, limited⟩ := limit_keeps protocol.sentStates.dropLast
      (protocol.sentStates.getLast history.nonempty) ⟨MAXIMUM_STATE,
        protocol.localInstructions.length + batch.instructions.length⟩
    rw [limited, List.getLast?_append, List.getLast?_singleton]
    rfl
  apply history.recorded_step lawful
  · intro update stateId out
    cases outgoing_cases out with
    | @shutdown _ _ front back first last => exact ⟨front, back, last, rfl⟩
  · intro number fresh
    simp only [freshTarget, stepAt, sealed, Option.some.injEq] at fresh
    exact fresh.symm
  · intro number issued
    exact UInt64.lt_of_lt_of_le (issued_below_next unsent issued) (le_maximum_state _)
  · exact states
  · rw [moved]
    rfl
  · rw [next]
    exact history.positive
  · exact Or.inr ⟨rfl, shutdownSent⟩
  · intro number issued
    exact Or.inl (next ▸ issued_below_next unsent issued)

theorem History.settled_step {operation : ProtocolOperation} (history : protocol.History content sent)
    (settles : Settles protocol (protocol.perform lib operation).2)
    (quiet : ∀ packets, (protocol.perform lib operation).1 ≠ .packets (.ok packets))
    (repeated : freshTarget (stepAt (perform lib) protocol operation) = none) :
    HistoryStep lib protocol content operation content sent where
  history := history.settles settles
  agree := fun _ _ => rfl
  issued := fun number issued => (settles.issued number).mpr issued
  explained := by
    intro packets update stateId batch sealed
    exact absurd sealed (quiet packets)
  fresh := by
    intro target fresh
    rw [repeated] at fresh
    cases fresh

theorem History.step (lawful : LawfulCodec lib.codec) (history : protocol.History content sent)
    {operation : ProtocolOperation}
    (orderly : behindShutdown (stepAt (perform lib) protocol operation) = false) :
    ∃ later all, HistoryStep lib protocol content operation later all := by
  have keeps (kept : operation.keepsHistory = true) :
      SameSent protocol (protocol.perform lib operation).2 := by
    have performed : protocol.perform lib operation =
        ((protocol.perform lib operation).1, (protocol.perform lib operation).2) := rfl
    obtain ⟨channel, moved⟩ := perform_keeps kept performed
    rw [moved]
    exact with_channel_same_sent channel
  have fails {error : SessionError}
      (failed : (protocol.perform lib operation).1 = .packets (.error error)) :
      HistoryStep lib protocol content operation content sent := by
    have performed : protocol.perform lib operation =
        (.packets (.error error), (protocol.perform lib operation).2) := Prod.ext failed rfl
    apply HistoryStep.of_same history (perform_failed performed)
    · simp only [freshTarget, stepAt, failed]
    · intro packets update stateId batch sealed
      rw [failed] at sealed
      cases sealed
  cases operation with
  | buildAssociation sentTimestamp =>
      refine ⟨content, sent, .of_same history (keeps rfl) rfl ?_⟩
      intro packets update stateId batch sealed out written
      have level : protocol.outgoing (.buildAcknowledgement sentTimestamp) = some (update, stateId) := out
      exact history.acknowledgement_explained lawful level written
  | buildAcknowledgement sentTimestamp =>
      refine ⟨content, sent, .of_same history (keeps rfl) rfl ?_⟩
      intro packets update stateId batch sealed out written
      exact history.acknowledgement_explained lawful out written
  | buildShutdownAck sentTimestamp =>
      refine ⟨content, sent, .of_same history (keeps rfl) rfl ?_⟩
      intro packets update stateId batch sealed out written
      exact history.shutdown_ack_explained lawful out written
  | retransmitPending sentTimestamp =>
      refine ⟨content, sent, .of_same history (keeps rfl) rfl ?_⟩
      intro packets update stateId batch sealed out written
      exact history.retransmission_explained lawful out written
  | buildUpdate sentTimestamp batch =>
      cases built : (protocol.perform lib (.buildUpdate sentTimestamp batch)).1 with
      | packets result =>
          cases result with
          | error error => exact ⟨content, sent, fails built⟩
          | ok packets => exact ⟨_, _, history.update_step lawful orderly built⟩
      | receipt result => cases built
      | nothing => cases built
  | buildShutdown sentTimestamp batch =>
      cases built : (protocol.perform lib (.buildShutdown sentTimestamp batch)).1 with
      | packets result =>
          cases result with
          | error error => exact ⟨content, sent, fails built⟩
          | ok packets => exact ⟨_, _, history.shutdown_step lawful built⟩
      | receipt result => cases built
      | nothing => cases built
  | ingestPacket packet =>
      refine ⟨content, sent, history.settled_step (ingest_packet_outbound lib protocol packet).settles ?_ rfl⟩
      intro packets sealed
      cases sealed
  | setLocalCapabilities capabilities =>
      refine ⟨content, sent, history.settled_step ⟨rfl, Or.inl ⟨rfl, rfl, rfl⟩⟩ ?_ rfl⟩
      intro packets sealed
      cases sealed
  | setInitialRemoteViewport columns rows =>
      refine ⟨content, sent,
        history.settled_step (set_initial_remote_viewport_settles columns rows) ?_ rfl⟩
      intro packets sealed
      cases sealed

end Step

section Run

variable {lib : Libraries} {key : SessionKey} {operations : List ProtocolOperation}

def freshTargets (events : List (ProtocolStep lib)) : List UInt64 := events.filterMap freshTarget

def ExplainedRun (content : UInt64 → List Instruction) (protocol : ClientProtocol lib.terminal)
    (events : List (ProtocolStep lib)) : Prop :=
  ∀ event ∈ events, ∀ packets update stateId batch, event.output = .packets (.ok packets) →
    event.before.outgoing event.input = some (update, stateId) → update.delta = batch.encodeBytes →
    protocol.Explained content update batch

theorem history_run (lawful : LawfulCodec lib.codec)
    (orderly : ∀ event ∈ trace (perform lib) (new lib.terminal key) operations,
      behindShutdown event = false) :
    ∃ content sent, (after lib key operations).History content sent ∧
      ExplainedRun content (after lib key operations)
        (trace (perform lib) (new lib.terminal key) operations) ∧
      (freshTargets (trace (perform lib) (new lib.terminal key) operations)).Pairwise (· < ·) ∧
      ∀ target ∈ freshTargets (trace (perform lib) (new lib.terminal key) operations),
        (after lib key operations).Issued target := by
  induction operations using List.reverseRecOn with
  | nil =>
      refine ⟨_, _, new_history lib.terminal key, ?_, .nil, ?_⟩
      · intro event member
        cases member
      · intro target member
        cases member
  | append_singleton operations operation induction =>
      obtain ⟨content, sent, history, explained, ordered, issued⟩ := induction fun event member =>
        orderly event ((mem_trace_concat _ _ _ _ _).mpr (Or.inl member))
      have here := orderly _ ((mem_trace_concat _ _ _ _ _).mpr (Or.inr rfl))
      obtain ⟨later, all, step⟩ := history.step lawful here
      have moved : after lib key (operations ++ [operation]) =
          ((after lib key operations).perform lib operation).2 := final_concat _ _ _ _
      have targets : freshTargets (trace (perform lib) (new lib.terminal key)
          (operations ++ [operation])) =
          freshTargets (trace (perform lib) (new lib.terminal key) operations) ++
            (freshTarget (stepAt (perform lib) (after lib key operations) operation)).toList := by
        rw [freshTargets, trace_concat, List.filterMap_append]
        cases fresh : freshTarget (stepAt (perform lib) (after lib key operations) operation) with
        | none => exact congrArg _ (List.filterMap_cons_none fresh)
        | some target => exact congrArg _ (List.filterMap_cons_some fresh)
      refine ⟨later, all, moved ▸ step.history, ?_, ?_, ?_⟩
      · rw [moved]
        intro event member packets update stateId batch sealed out written
        rcases (mem_trace_concat _ _ _ _ _).mp member with earlier | last
        · exact (explained event earlier packets update stateId batch sealed out written).later
            step.agree step.issued
        · rw [last] at sealed out
          exact step.explained packets update stateId batch sealed out written
      · rw [targets, List.pairwise_append]
        refine ⟨ordered, ?_, ?_⟩
        · cases freshTarget (stepAt (perform lib) (after lib key operations) operation) with
          | none => exact .nil
          | some target => exact List.pairwise_singleton _ _
        · intro number listed target last
          exact (step.fresh target (Option.mem_toList.mp last)).1 number (issued number listed)
      · rw [targets, moved]
        intro target member
        rcases List.mem_append.mp member with earlier | last
        · exact step.issued target (issued target earlier)
        · exact (step.fresh target (Option.mem_toList.mp last)).2

/-- What a run promises about the numbers of the local states: they increase and the shutdown
state is the last one, no number is given to two states, a content for every number explains
all messages, and the shutdown state ends the history. -/
structure NumbersRun (lib : Libraries) (key : SessionKey) (operations : List ProtocolOperation) :
    Prop where
  ordered : ∀ earlier later, operations = earlier ++ later →
    ((after lib key earlier).sentStates.map SentState.stateId).Pairwise (· < ·)
  last : ∀ earlier later, operations = earlier ++ later →
    ∀ state ∈ (after lib key earlier).sentStates.dropLast, state.stateId ≠ MAXIMUM_STATE
  unused : (freshTargets (trace (perform lib) (new lib.terminal key) operations)).Pairwise (· < ·)
  contents : ∃ content : UInt64 → List Instruction, content 0 = [] ∧
    ∀ event ∈ trace (perform lib) (new lib.terminal key) operations,
      ∀ packets update stateId, ∀ batch : InstructionBatch, event.output = .packets (.ok packets) →
        event.before.outgoing event.input = some (update, stateId) →
        update.delta = batch.encodeBytes →
        content update.baseState ++ batch.instructions = content update.targetState
  closed : ∀ earlier event later,
    trace (perform lib) (new lib.terminal key) operations = earlier ++ event :: later →
    freshTarget event = some MAXIMUM_STATE → ∀ other ∈ later, freshTarget other = none

theorem not_maximum_of_lt {number other : UInt64} (below : number < other) :
    number ≠ MAXIMUM_STATE := by
  intro top
  rw [top] at below
  exact UInt64.not_lt.mpr (le_maximum_state other) below

theorem orderly_earlier {earlier later : List ProtocolOperation}
    (orderly : ∀ event ∈ trace (perform lib) (new lib.terminal key) (earlier ++ later),
      behindShutdown event = false) :
    ∀ event ∈ trace (perform lib) (new lib.terminal key) earlier, behindShutdown event = false := by
  intro event member
  apply orderly
  rw [trace_append]
  exact List.mem_append_left _ member

theorem numbers_of_orderly (lawful : LawfulCodec lib.codec)
    (orderly : ∀ event ∈ trace (perform lib) (new lib.terminal key) operations,
      behindShutdown event = false) : NumbersRun lib key operations := by
  obtain ⟨content, sent, history, explained, unused, _⟩ := history_run lawful orderly
  have ordered : ∀ earlier later, operations = earlier ++ later →
      ((after lib key earlier).sentStates.map SentState.stateId).Pairwise (· < ·) := by
    intro earlier later split
    obtain ⟨_, _, reached, _⟩ := history_run lawful (orderly_earlier (split ▸ orderly))
    exact reached.ordered
  constructor
  · exact ordered
  · intro earlier later split state member
    have order := ordered earlier later split
    have nonempty : (after lib key earlier).sentStates ≠ [] := by
      intro empty
      rw [empty] at member
      cases member
    rw [← List.dropLast_append_getLast nonempty, List.map_append, List.pairwise_append] at order
    exact not_maximum_of_lt
      (order.2.2 _ (List.mem_map_of_mem member) _ (List.mem_singleton.mpr rfl))
  · exact unused
  · refine ⟨content, history.origin, ?_⟩
    intro event member packets update stateId batch sealed out written
    exact (explained event member packets update stateId batch sealed out written).respects
  · intro earlier event later split shutdown other member
    cases fresh : freshTarget other with
    | none => rfl
    | some number =>
        rw [split, freshTargets, List.filterMap_append, List.filterMap_cons_some shutdown] at unused
        have above := (List.pairwise_cons.mp (List.pairwise_append.mp unused).2.1).1 number
          (List.mem_filterMap.mpr ⟨other, member, fresh⟩)
        exact absurd rfl (not_maximum_of_lt above)

/-- An update that is sealed behind the shutdown state leaves the history out of order. -/
theorem overtaken_unordered {protocol : ClientProtocol lib.terminal} {operation : ProtocolOperation}
    {packets : List Bytes}
    (behind : behindShutdown (stepAt (perform lib) protocol operation) = true)
    (sealed : (protocol.perform lib operation).1 = .packets (.ok packets)) :
    ¬ ((protocol.perform lib operation).2.sentStates.map SentState.stateId).Pairwise (· < ·) := by
  intro ordered
  cases operation with
  | buildUpdate sentTimestamp batch =>
      have performed : protocol.perform lib (.buildUpdate sentTimestamp batch) =
          (.packets (.ok packets), (protocol.perform lib (.buildUpdate sentTimestamp batch)).2) :=
        Prod.ext sealed rfl
      obtain ⟨_, channel, moved⟩ := perform_update_after performed
      have states : (protocol.perform lib (.buildUpdate sentTimestamp batch)).2.sentStates =
          limitSentStates (protocol.sentStates ++ [⟨protocol.nextLocalState,
            protocol.localInstructions.length + batch.instructions.length⟩]) := by
        rw [moved]
        rfl
      have shutdown : protocol.localShutdownSent = true := behind
      obtain ⟨back, last, top⟩ := Option.any_eq_true _ _ |>.mp shutdown
      obtain ⟨front, split⟩ := List.getLast?_eq_some_iff.mp last
      obtain ⟨kept, _, limited⟩ := limit_keeps front back ⟨protocol.nextLocalState,
        protocol.localInstructions.length + batch.instructions.length⟩
      rw [states, split, limited, List.map_append, List.pairwise_append] at ordered
      have above := ordered.2.2 back.stateId (by simp) protocol.nextLocalState (by simp)
      exact absurd (of_decide_eq_true top) (not_maximum_of_lt above)
  | _ => cases behind

end Run

/-- The numbers of the local states are monotone and never reused in every run in which no
`build_update` is called behind the shutdown state. One that succeeds there breaks the order. -/
theorem state_numbers_kept (lib : Libraries) (lawful : LawfulCodec lib.codec) (key : SessionKey)
    (operations : List ProtocolOperation) :
    ((∀ event ∈ trace (perform lib) (new lib.terminal key) operations,
        behindShutdown event = false) → NumbersRun lib key operations) ∧
      ∀ event ∈ trace (perform lib) (new lib.terminal key) operations, behindShutdown event = true →
        ∀ packets, event.output = .packets (.ok packets) → ¬ NumbersRun lib key operations := by
  constructor
  · intro orderly
    exact numbers_of_orderly lawful orderly
  · intro event member behind packets sealed numbers
    obtain ⟨earlier, operation, later, split, same⟩ := (mem_trace_iff _ _ _ _).mp member
    rw [same] at behind sealed
    have whole : operations = (earlier ++ [operation]) ++ later := by
      rw [split, List.append_assoc]
      rfl
    have ordered := numbers.ordered (earlier ++ [operation]) later whole
    rw [after, final_concat] at ordered
    exact overtaken_unordered behind sealed ordered

/-- Two states in flight at once, a retransmission, and the shutdown state behind them. -/
def numberedRun : List ProtocolOperation :=
  [.buildUpdate 0 ⟨[hostBytesInstruction [0x61]]⟩, .buildUpdate 1 ⟨[hostBytesInstruction [0x62]]⟩,
    .retransmitPending 2, .buildShutdown 3 ⟨[hostBytesInstruction [0x63]]⟩, .buildShutdown 4 ⟨[]⟩]

theorem numbered_run_increases : NumbersRun plainLibraries zeroKey numberedRun :=
  (state_numbers_kept plainLibraries lawful_stored_codec zeroKey numberedRun).1 (by decide +kernel)

/-- An update behind the shutdown state lets a second shutdown state through. -/
def overtakingRun : List ProtocolOperation :=
  [.buildShutdown 0 ⟨[hostBytesInstruction [0x61]]⟩, .buildUpdate 1 ⟨[hostBytesInstruction [0x62]]⟩,
    .buildShutdown 2 ⟨[hostBytesInstruction [0x63]]⟩]

theorem shutdown_state_reused :
    freshTargets (trace (perform plainLibraries) (new lineTerminal zeroKey) overtakingRun) =
        [MAXIMUM_STATE, 1, MAXIMUM_STATE] ∧
      ¬ NumbersRun plainLibraries zeroKey overtakingRun := by
  have reused : freshTargets (trace (perform plainLibraries) (new lineTerminal zeroKey) overtakingRun) =
      [MAXIMUM_STATE, 1, MAXIMUM_STATE] := by decide +kernel
  refine ⟨reused, ?_⟩
  intro numbers
  have unused := numbers.unused
  change (freshTargets (trace (perform plainLibraries) (new lineTerminal zeroKey)
    overtakingRun)).Pairwise (· < ·) at unused
  rw [reused] at unused
  exact absurd unused (by decide)

end ClientProtocol

end FerrumTty.Session
