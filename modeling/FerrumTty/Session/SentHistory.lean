import FerrumTty.Session.StateNumbers

/-!
# The send history is well formed

The instruction ends of the sent states are offsets into the instructions that are kept. Every
acknowledgement rebases them and a full history loses states from its middle. Slices, drains and
subtractions of the source panic outside their bounds; here each has a checked form that fails
there, and no run makes one fail.
-/

namespace FerrumTty.Session

set_option autoImplicit false

open Crypto Wire State Runs

/-- `items[start..stop]`, or nothing where it panics. -/
def sliceRange {Item : Type} (items : List Item) (start stop : Nat) : Option (List Item) :=
  if start ≤ stop ∧ stop ≤ items.length then some ((items.take stop).drop start) else none

/-- What `drain(..count)` leaves, or nothing where it panics. -/
def drainFront {Item : Type} (items : List Item) (count : Nat) : Option (List Item) :=
  if count ≤ items.length then some (items.drop count) else none

/-- `state.instruction_end -= confirmed`, or nothing where it overflows. -/
def SentState.rebase (confirmed : Nat) (state : SentState) : Option SentState :=
  if confirmed ≤ state.instructionEnd then
    some { state with instructionEnd := state.instructionEnd - confirmed }
  else none

theorem rebase_all {confirmed : Nat} {states : List SentState}
    (beyond : ∀ state ∈ states, confirmed ≤ state.instructionEnd) :
    states.mapM (SentState.rebase confirmed) = some (states.map fun state =>
      { state with instructionEnd := state.instructionEnd - confirmed }) := by
  induction states with
  | nil => rfl
  | cons state rest induction =>
      have kept := induction fun other member => beyond other (List.mem_cons_of_mem _ member)
      have here : state.rebase confirmed =
          some { state with instructionEnd := state.instructionEnd - confirmed } :=
        if_pos (beyond state List.mem_cons_self)
      simp only [List.mapM_cons, here, kept, List.map_cons]
      rfl

section Limit

variable {Item : Type}

theorem erase_inside_ends {items : List Item} {index : Nat} (behind : 0 < index)
    (before : index + 1 < items.length) :
    (items.eraseIdx index).head? = items.head? ∧ (items.eraseIdx index).getLast? = items.getLast? := by
  rw [List.eraseIdx_eq_take_drop_succ]
  constructor
  · cases items with
    | nil => simp at before
    | cons first rest =>
        cases index with
        | zero => exact absurd behind (Nat.lt_irrefl 0)
        | succ index => rfl
  · rw [List.getLast?_append, List.getLast?_drop, if_neg (Nat.not_le.mpr before)]
    cases last : items.getLast? with
    | none =>
        rw [List.getLast?_eq_none_iff.mp last] at before
        simp at before
    | some item => rfl

end Limit

namespace ClientProtocol

theorem limit_loop_ends (fuel : Nat) (states : List SentState) :
    (limitSentStatesLoop fuel states).head? = states.head? ∧
      (limitSentStatesLoop fuel states).getLast? = states.getLast? := by
  induction fuel generalizing states with
  | zero => exact ⟨rfl, rfl⟩
  | succ fuel induction =>
      rw [limitSentStatesLoop]
      split_ifs with many
      · rw [MAXIMUM_SENT_STATES] at many
        have ends := @erase_inside_ends _ states (states.length - 16) (by omega) (by omega)
        have rest := induction (states.eraseIdx (states.length - 16))
        exact ⟨rest.1.trans ends.1, rest.2.trans ends.2⟩
      · exact ⟨rfl, rfl⟩

theorem limit_loop_sublist (fuel : Nat) (states : List SentState) :
    List.Sublist (limitSentStatesLoop fuel states) states := by
  induction fuel generalizing states with
  | zero => exact .refl states
  | succ fuel induction =>
      rw [limitSentStatesLoop]
      split_ifs with many
      · exact (induction _).trans (List.eraseIdx_sublist _ _)
      · exact .refl states

theorem limit_loop_bounded (fuel : Nat) (states : List SentState)
    (enough : states.length ≤ MAXIMUM_SENT_STATES + fuel) :
    (limitSentStatesLoop fuel states).length ≤ MAXIMUM_SENT_STATES := by
  induction fuel generalizing states with
  | zero => exact enough
  | succ fuel induction =>
      rw [limitSentStatesLoop]
      split_ifs with many
      · apply induction
        have inside : states.length - 16 < states.length := by
          rw [MAXIMUM_SENT_STATES] at many
          omega
        rw [List.length_eraseIdx_of_lt inside]
        omega
      · exact Nat.not_lt.mp many

theorem limit_ends (states : List SentState) :
    (limitSentStates states).head? = states.head? ∧
      (limitSentStates states).getLast? = states.getLast? :=
  limit_loop_ends states.length states

section Checked

variable {terminal : Terminal}

/-- The slice that `retransmit_pending` takes. -/
def pendingInstructionsChecked (protocol : ClientProtocol terminal) (confirmed latest : SentState) :
    Option InstructionBatch :=
  (sliceRange protocol.localInstructions confirmed.instructionEnd latest.instructionEnd).map
    InstructionBatch.mk

def processAcknowledgementChecked (protocol : ClientProtocol terminal) (acknowledgedState : UInt64) :
    Option (ClientProtocol terminal) :=
  match protocol.sentStates.findIdx? fun state => state.stateId = acknowledgedState with
  | none => some protocol
  | some acknowledgedIndex => do
      let sentStates ← drainFront protocol.sentStates acknowledgedIndex
      let confirmed ← sentStates.head?
      if confirmed.instructionEnd = 0 then some { protocol with sentStates }
      else
        let localInstructions ← drainFront protocol.localInstructions confirmed.instructionEnd
        let sentStates ← sentStates.mapM (SentState.rebase confirmed.instructionEnd)
        some { protocol with localInstructions, sentStates }

end Checked

section History

variable {terminal : Terminal} {protocol after : ClientProtocol terminal}

/-- The sent states and where their instructions end. -/
structure SentHistory (protocol : ClientProtocol terminal) : Prop where
  nonempty : 1 ≤ protocol.sentStates.length
  bounded : protocol.sentStates.length ≤ MAXIMUM_SENT_STATES
  first : ∀ front ∈ protocol.sentStates.head?, front.instructionEnd = 0
  ordered : (protocol.sentStates.map SentState.instructionEnd).Pairwise (· ≤ ·)
  newest : ∀ back ∈ protocol.sentStates.getLast?,
    back.instructionEnd = protocol.localInstructions.length

theorem new_sent_history (terminal : Terminal) (key : SessionKey) : (new terminal key).SentHistory where
  nonempty := Nat.le_refl 1
  bounded := Nat.le_of_ble_eq_true rfl
  first := by
    intro front found
    rw [← Option.some.inj found]
  ordered := List.pairwise_singleton _ _
  newest := by
    intro back found
    rw [← Option.some.inj found]
    rfl

theorem SentHistory.of_same_sent (history : protocol.SentHistory) (same : SameSent protocol after) :
    after.SentHistory := by
  rcases history with ⟨nonempty, bounded, first, ordered, newest⟩
  rw [← same.states] at nonempty bounded first ordered newest
  rw [← same.instructions] at newest
  exact ⟨nonempty, bounded, first, ordered, newest⟩

theorem SentHistory.within (history : protocol.SentHistory) {state : SentState}
    (member : state ∈ protocol.sentStates) :
    state.instructionEnd ≤ protocol.localInstructions.length := by
  have split := List.dropLast_append_getLast (List.ne_nil_of_mem member)
  have last := List.getLast?_eq_some_getLast (List.ne_nil_of_mem member)
  rw [← history.newest _ last]
  have ordered := history.ordered
  rw [← split, List.map_append, List.pairwise_append] at ordered
  rw [← split] at member
  rcases List.mem_append.mp member with earlier | here
  · exact ordered.2.2 _ (List.mem_map_of_mem earlier) _ List.mem_cons_self
  · exact Nat.le_of_eq (congrArg SentState.instructionEnd (List.mem_singleton.mp here))

/-- What an acknowledgement drops ends where the rest begins. -/
theorem SentHistory.beyond (history : protocol.SentHistory) {front back : List SentState}
    {acknowledged : SentState} (split : protocol.sentStates = front ++ acknowledged :: back) :
    ∀ state ∈ acknowledged :: back, acknowledged.instructionEnd ≤ state.instructionEnd := by
  have ordered := history.ordered
  rw [split, List.map_append, List.pairwise_append, List.map_cons, List.pairwise_cons] at ordered
  intro state member
  rcases List.mem_cons.mp member with here | behind
  · rw [here]
  · exact ordered.2.1.1 _ (List.mem_map_of_mem behind)

theorem SentHistory.acknowledgement (history : protocol.SentHistory) (acknowledgedState : UInt64) :
    (protocol.processAcknowledgement acknowledgedState).SentHistory := by
  rcases acknowledgement_drops protocol acknowledgedState with
    same | ⟨front, acknowledged, back, split, instructions, states⟩
  · rw [same]
    exact history
  · have among : List.Sublist (acknowledged :: back) protocol.sentStates := by
      rw [split]
      exact List.sublist_append_right front _
    constructor
    · rw [states, List.length_map]
      exact Nat.le_add_left 1 _
    · rw [states, List.length_map]
      exact Nat.le_trans among.length_le history.bounded
    · rw [states]
      intro first found
      rw [← Option.some.inj found]
      exact Nat.sub_self _
    · have ordered := history.ordered.sublist (among.map SentState.instructionEnd)
      rw [List.pairwise_map] at ordered
      rw [states, List.map_map, List.pairwise_map]
      apply ordered.imp
      intro earlier later order
      exact Nat.sub_le_sub_right order _
    · rw [states, instructions]
      intro last found
      rw [List.getLast?_map] at found
      rcases Option.map_eq_some_iff.mp found with ⟨original, latest, same⟩
      have whole : protocol.sentStates.getLast? = some original := by
        rw [split, List.getLast?_append, latest]
        rfl
      rw [← same, List.length_drop, history.newest original whole]

theorem SentHistory.record (history : protocol.SentHistory) {target : UInt64} {batch : InstructionBatch}
    (states : after.sentStates = limitSentStates (protocol.sentStates ++ [⟨target,
      protocol.localInstructions.length + batch.instructions.length⟩]))
    (instructions : after.localInstructions = protocol.localInstructions ++ batch.instructions) :
    after.SentHistory := by
  have ends := limit_ends (protocol.sentStates ++ [⟨target,
    protocol.localInstructions.length + batch.instructions.length⟩])
  rw [← states] at ends
  have kept : List.Sublist after.sentStates (protocol.sentStates ++ [⟨target,
      protocol.localInstructions.length + batch.instructions.length⟩]) := by
    rw [states]
    exact limit_loop_sublist _ _
  constructor
  · apply List.length_pos_iff.mpr
    intro empty
    rw [empty, List.getLast?_append, List.getLast?_singleton] at ends
    cases ends.2
  · rw [states]
    exact limit_loop_bounded _ _ (Nat.le_add_left _ _)
  · intro front found
    rw [Option.mem_def, ends.1] at found
    apply history.first front
    cases recorded : protocol.sentStates with
    | nil =>
        have nonempty := history.nonempty
        rw [recorded] at nonempty
        cases nonempty
    | cons confirmed rest =>
        rw [recorded] at found
        exact found
  · apply List.Pairwise.sublist (kept.map SentState.instructionEnd)
    rw [List.map_append, List.pairwise_append]
    refine ⟨history.ordered, List.pairwise_singleton _ _, ?_⟩
    intro earlier listed later last
    rcases List.mem_map.mp listed with ⟨state, member, same⟩
    rw [List.mem_singleton.mp last, ← same]
    exact Nat.le_add_right_of_le (history.within member)
  · intro back found
    rw [Option.mem_def, ends.2, List.getLast?_append, List.getLast?_singleton] at found
    rw [← Option.some.inj found, instructions, List.length_append]

theorem SentHistory.pending_checked (history : protocol.SentHistory) {confirmed latest : SentState}
    (first : confirmed ∈ protocol.sentStates.head?) (last : latest ∈ protocol.sentStates.getLast?) :
    protocol.pendingInstructionsChecked confirmed latest =
      some (protocol.pendingInstructions confirmed latest) := by
  have start := history.first confirmed first
  have stop := history.newest latest last
  rw [pendingInstructionsChecked, sliceRange, if_pos]
  · rfl
  · rw [start, stop]
    exact ⟨Nat.zero_le _, Nat.le_refl _⟩

theorem SentHistory.acknowledgement_checked (history : protocol.SentHistory)
    (acknowledgedState : UInt64) :
    protocol.processAcknowledgementChecked acknowledgedState =
      some (protocol.processAcknowledgement acknowledgedState) := by
  unfold processAcknowledgementChecked processAcknowledgement
  cases found : protocol.sentStates.findIdx? fun state => state.stateId = acknowledgedState with
  | none => rfl
  | some index =>
      have inside := (List.findIdx?_eq_some_iff_findIdx_eq.mp found).1
      have shape := List.drop_eq_getElem_cons inside
      have split : protocol.sentStates =
          protocol.sentStates.take index ++
            protocol.sentStates[index] :: protocol.sentStates.drop (index + 1) := by
        rw [← shape, List.take_append_drop]
      have beyond := history.beyond split
      have within := history.within (List.getElem_mem inside)
      have drained : drainFront protocol.sentStates index = some (protocol.sentStates.drop index) :=
        if_pos (Nat.le_of_lt inside)
      have instructions : drainFront protocol.localInstructions
          protocol.sentStates[index].instructionEnd =
            some (protocol.localInstructions.drop protocol.sentStates[index].instructionEnd) :=
        if_pos within
      simp only [drained, shape, bind, Option.bind, List.head?_cons, Option.map_some,
        Option.getD_some, instructions, rebase_all beyond]
      split_ifs with nothing
      · rfl
      · rfl

end History

section Step

variable {lib : Libraries} {protocol : ClientProtocol lib.terminal}

theorem perform_sent_cases (operation : ProtocolOperation) :
    SameSent protocol (protocol.perform lib operation).2 ∨
      (∃ acknowledgedState, SameSent (protocol.processAcknowledgement acknowledgedState)
        (protocol.perform lib operation).2) ∨
      ∃ target batch,
        (protocol.perform lib operation).2.sentStates =
            limitSentStates (protocol.sentStates ++ [⟨target,
              protocol.localInstructions.length + (batch : InstructionBatch).instructions.length⟩]) ∧
          (protocol.perform lib operation).2.localInstructions =
            protocol.localInstructions ++ batch.instructions := by
  have performed : protocol.perform lib operation =
      ((protocol.perform lib operation).1, (protocol.perform lib operation).2) := rfl
  cases keeps : operation.keepsHistory with
  | true =>
      rcases perform_keeps keeps performed with ⟨channel, moved⟩
      rw [moved]
      exact Or.inl (with_channel_same_sent channel)
  | false =>
      cases operation with
      | buildUpdate sentTimestamp batch =>
          cases built : (protocol.perform lib (.buildUpdate sentTimestamp batch)).1 with
          | packets result =>
              rw [built] at performed
              cases result with
              | error error => exact Or.inl (perform_failed performed)
              | ok packets =>
                  rcases (perform_update_after performed).2 with ⟨channel, moved⟩
                  rw [moved]
                  exact Or.inr (Or.inr ⟨_, batch, rfl, rfl⟩)
          | receipt result => cases built
          | nothing => cases built
      | buildShutdown sentTimestamp batch =>
          cases built : (protocol.perform lib (.buildShutdown sentTimestamp batch)).1 with
          | packets result =>
              rw [built] at performed
              cases result with
              | error error => exact Or.inl (perform_failed performed)
              | ok packets =>
                  rcases (perform_shutdown_after performed).2 with ⟨channel, moved⟩
                  rw [moved]
                  exact Or.inr (Or.inr ⟨_, batch, rfl, rfl⟩)
          | receipt result => cases built
          | nothing => cases built
      | ingestPacket packet =>
          rcases (ingest_packet_outbound lib protocol packet).settles.history with same | acknowledged
          · exact Or.inl same
          · exact Or.inr (Or.inl acknowledged)
      | setLocalCapabilities capabilities => exact Or.inl ⟨rfl, rfl, rfl⟩
      | setInitialRemoteViewport columns rows =>
          rcases (set_initial_remote_viewport_settles columns rows).history with same | acknowledged
          · exact Or.inl same
          · exact Or.inr (Or.inl acknowledged)
      | _ => cases keeps

theorem SentHistory.step (history : protocol.SentHistory) (operation : ProtocolOperation) :
    (protocol.perform lib operation).2.SentHistory := by
  rcases @perform_sent_cases lib protocol operation with
    same | ⟨acknowledgedState, same⟩ | ⟨target, batch, states, instructions⟩
  · exact history.of_same_sent same
  · exact (history.acknowledgement acknowledgedState).of_same_sent same
  · exact history.record states instructions

/-- The send history is well formed, and nothing that is done with it panics, loses an end of it
or leaves a failed message behind. -/
structure WellFormedHistory (lib : Libraries) (protocol : ClientProtocol lib.terminal) : Prop extends
    SentHistory protocol where
  retransmits : ∀ confirmed ∈ protocol.sentStates.head?, ∀ latest ∈ protocol.sentStates.getLast?,
    protocol.pendingInstructionsChecked confirmed latest =
      some (protocol.pendingInstructions confirmed latest)
  acknowledges : ∀ other, SameSent protocol other → ∀ acknowledgedState,
    other.processAcknowledgementChecked acknowledgedState =
      some (other.processAcknowledgement acknowledgedState)
  limits : ∀ recorded : SentState,
    (limitSentStates (protocol.sentStates ++ [recorded])).head? = protocol.sentStates.head? ∧
      (limitSentStates (protocol.sentStates ++ [recorded])).getLast? = some recorded
  refuses : ∀ operation error after,
    protocol.perform lib operation = (.packets (.error error), after) → SameSent protocol after

/-- The send history of every run is well formed. -/
theorem sent_history_well_formed (lib : Libraries) (key : SessionKey)
    (operations : List ProtocolOperation) : WellFormedHistory lib (after lib key operations) := by
  have history : (after lib key operations).SentHistory := by
    apply invariant_final (perform lib) SentHistory
    · intro protocol operation kept
      exact kept.step operation
    · exact new_sent_history lib.terminal key
  refine ⟨history, ?_, ?_, ?_, ?_⟩
  · intro confirmed first latest last
    exact history.pending_checked first last
  · intro other same acknowledgedState
    exact (history.of_same_sent same).acknowledgement_checked acknowledgedState
  · intro recorded
    have ends := limit_ends ((after lib key operations).sentStates ++ [recorded])
    rw [List.getLast?_append, List.getLast?_singleton] at ends
    refine ⟨ends.1.trans ?_, ends.2⟩
    have nonempty := history.nonempty
    cases states : (after lib key operations).sentStates with
    | nil => simp [states] at nonempty
    | cons front rest => rfl
  · intro operation error after performed
    exact perform_failed performed

end Step

end ClientProtocol

end FerrumTty.Session
