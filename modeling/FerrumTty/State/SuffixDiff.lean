import FerrumTty.State.Clones

/-!
# The suffix diff

Two states that grew from one blank screen without a compaction are compared by their streams. When
the delivered stream comes first in the target's, the diff is what the target's holds beyond it,
in whatever chunks the bytes arrived.
-/

namespace FerrumTty.State

set_option autoImplicit false

open Crypto Wire Runs

variable {terminal : Terminal}

/-- The instruction that carries an echo acknowledgement. -/
def echoInstruction (value : UInt64) : Instruction where
  bytes := none
  viewport := none
  marker := some { value }
  sessionControl := none

/-- The instructions of a suffix: a byte run that is not empty, a viewport or a session control. -/
theorem suffix_instruction_cases {suffix : List StateOperation} {offset : Nat}
    {instruction : Instruction} (member : instruction ∈ suffixInstructions suffix offset) :
    (∃ value, value ≠ [] ∧ instruction = hostBytesInstruction value) ∨
      (∃ columns rows, instruction = viewportInstruction columns rows) ∨
      ∃ control, instruction = sessionControlInstruction control := by
  rcases List.mem_filterMap.mp member with ⟨⟨operation, index⟩, _, made⟩
  cases operation with
  | hostBytes value =>
      simp only [suffixInstruction] at made
      split_ifs at made with first empty empty
      · have rest : value.drop offset ≠ [] := fun none => empty (List.isEmpty_iff.mpr none)
        exact Or.inl ⟨_, rest, (Option.some.inj made).symm⟩
      · have rest : value.drop 0 ≠ [] := fun none => empty (List.isEmpty_iff.mpr none)
        exact Or.inl ⟨_, rest, (Option.some.inj made).symm⟩
  | resize columns rows => exact Or.inr (Or.inl ⟨columns, rows, (Option.some.inj made).symm⟩)
  | sessionControl control => exact Or.inr (Or.inr ⟨control, (Option.some.inj made).symm⟩)

theorem suffix_instructions_filled {suffix : List StateOperation} {offset : Nat}
    {instruction : Instruction} (member : instruction ∈ suffixInstructions suffix offset)
    {run : ByteRun} (present : run ∈ instruction.bytes) : run.value ≠ [] := by
  rcases suffix_instruction_cases member with
    ⟨value, filled, same⟩ | ⟨columns, rows, same⟩ | ⟨control, same⟩
  · rw [same] at present
    rw [← Option.some.inj present]
    exact filled
  · rw [same] at present
    cases present
  · rw [same] at present
    cases present

theorem suffix_instructions_unmarked {suffix : List StateOperation} {offset : Nat}
    {instruction : Instruction} (member : instruction ∈ suffixInstructions suffix offset) :
    instruction.marker = none := by
  rcases suffix_instruction_cases member with
    ⟨value, _, same⟩ | ⟨columns, rows, same⟩ | ⟨control, same⟩
  · rw [same]
    rfl
  · rw [same]
    rfl
  · rw [same]
    rfl

theorem last_viewport_instructions (viewport : ViewportSize) (instructions : List Instruction) :
    lastViewport viewport (instructionsStream instructions) = viewportAfter viewport instructions := by
  induction instructions generalizing viewport with
  | nil => rfl
  | cons instruction rest induction =>
      rcases instruction with ⟨bytes, next, marker, control⟩
      have single : lastViewport viewport (instructionStream ⟨bytes, next, marker, control⟩) =
          next.getD viewport := by
        rw [instructionStream, last_viewport_append, last_viewport_append]
        have written : lastViewport viewport (bytes.elim [] fun run => run.value.map .byte) =
            viewport := by
          cases bytes with
          | none => rfl
          | some run => exact last_viewport_bytes viewport run.value
        rw [written]
        cases next <;> cases control <;> rfl
      rw [instructions_stream_cons, last_viewport_append, single, induction]
      rfl

namespace RemoteTerminalState

/-- The acknowledgement goes first when there is a new one. -/
theorem echo_instructions_cases (target delivered : RemoteTerminalState terminal) :
    (∃ value, target.echoAck = some value ∧ target.echoAck ≠ delivered.echoAck ∧
        target.echoInstructions delivered = [echoInstruction value]) ∨
      (target.echoAck = none ∨ target.echoAck = delivered.echoAck) ∧
        target.echoInstructions delivered = [] := by
  unfold echoInstructions
  by_cases different : target.echoAck ≠ delivered.echoAck
  · rw [if_pos different]
    cases acknowledged : target.echoAck with
    | none => exact Or.inr ⟨Or.inl rfl, rfl⟩
    | some value => exact Or.inl ⟨value, rfl, acknowledged ▸ different, rfl⟩
  · rw [if_neg different]
    exact Or.inr ⟨Or.inr (not_not.mp different), rfl⟩

theorem echo_instructions_stream (target delivered : RemoteTerminalState terminal) :
    instructionsStream (target.echoInstructions delivered) = [] := by
  rcases echo_instructions_cases target delivered with ⟨value, _, _, first⟩ | ⟨_, first⟩
  · rw [first]
    rfl
  · rw [first]
    rfl

/-- What a diff of two states on one line of history is made of. -/
structure SuffixDiff (target delivered : RemoteTerminalState terminal) (diff : InstructionBatch) :
    Prop where
  filled : ∀ instruction ∈ diff.instructions, ∀ run ∈ instruction.bytes, run.value ≠ []
  remainder : target.history.stream =
    delivered.history.stream ++ instructionsStream diff.instructions
  viewport : viewportAfter delivered.viewport diff.instructions = target.viewport
  marked : ∀ value, target.echoAck = some value → target.echoAck ≠ delivered.echoAck →
    ∃ suffix, diff.instructions = echoInstruction value :: suffix ∧
      ∀ instruction ∈ suffix, instruction.marker = none
  unmarked : target.echoAck = none ∨ target.echoAck = delivered.echoAck →
    ∀ instruction ∈ diff.instructions, instruction.marker = none

/-- A state of a run without compactions: its viewport is the last one of its history. -/
structure Grown (initial : ViewportSize) (state : RemoteTerminalState terminal) : Prop where
  formed : WellFormed state
  viewport : lastViewport initial state.history.stream = state.viewport

section Step

variable {initial : ViewportSize} {state result : RemoteTerminalState terminal}

theorem apply_grown (grown : Grown initial state) {batch : InstructionBatch}
    (room : state.validateHistoryGrowth batch = .ok ()) (applied : state.apply batch = .ok result) :
    Grown initial result := by
  rcases apply_steps applied with ⟨prepared, ready, stepped⟩
  rw [prepareHistory, room] at ready
  rw [← Except.ok.inj ready] at stepped
  rcases apply_all_spec stepped with ⟨stream, viewport, _, formed⟩
  refine ⟨formed grown.formed, ?_⟩
  rw [stream, last_viewport_append, grown.viewport, last_viewport_added, viewport]

theorem clone_grown (grown : Grown initial state) : Grown initial state.clone :=
  ⟨clone_formed grown.formed, grown.viewport⟩

end Step

theorem suffix_diff {initial : ViewportSize} {target delivered : RemoteTerminalState terminal}
    (targetGrown : Grown initial target) (deliveredGrown : Grown initial delivered)
    (before : delivered.history.stream <+: target.history.stream) :
    ∃ diff, target.diffFrom delivered = .ok diff ∧ SuffixDiff target delivered diff := by
  have prefixed := suffix_start_ok_iff _ _ (canonical_operations _ targetGrown.formed.filled)
    (canonical_operations _ deliveredGrown.formed.filled)
  rw [canonical_stream, canonical_stream] at prefixed
  rcases prefixed.mpr before with ⟨⟨suffixStart, firstByteOffset⟩, found⟩
  have remainder := (suffix_start_from_sound 0 suffixStart firstByteOffset _ _ found).2
  rw [canonical_stream, canonical_stream, Nat.sub_zero] at remainder
  have diffed : target.diffFrom delivered = .ok ⟨target.echoInstructions delivered ++
      suffixInstructions (target.history.canonicalOperations.drop suffixStart) firstByteOffset⟩ := by
    unfold diffFrom
    simp only [found]
    rfl
  refine ⟨_, diffed, ?_, ?_, ?_, ?_, ?_⟩
  · intro instruction member run present
    rcases List.mem_append.mp member with echoed | member
    · rcases echo_instructions_cases target delivered with ⟨value, _, _, first⟩ | ⟨_, first⟩
      · rw [first] at echoed
        rw [List.mem_singleton.mp echoed] at present
        cases present
      · rw [first] at echoed
        cases echoed
    · exact suffix_instructions_filled member present
  · rw [instructions_stream_append, echo_instructions_stream]
    exact remainder
  · rw [← last_viewport_instructions, instructions_stream_append, echo_instructions_stream,
      List.nil_append, ← deliveredGrown.viewport, ← last_viewport_append, ← remainder]
    exact targetGrown.viewport
  · intro value acknowledged different
    rcases echo_instructions_cases target delivered with ⟨other, same, _, first⟩ | ⟨absent, _⟩
    · rw [acknowledged, Option.some.injEq] at same
      rw [first, same]
      exact ⟨_, rfl, fun _ member => suffix_instructions_unmarked member⟩
    · rw [acknowledged] at absent different
      rcases absent with absent | absent
      · cases absent
      · exact absurd absent different
  · intro unchanged instruction member
    rcases echo_instructions_cases target delivered with ⟨value, same, different, _⟩ | ⟨_, first⟩
    · rcases unchanged with absent | equal
      · rw [absent] at same
        cases same
      · exact absurd equal different
    · rw [first] at member
      exact suffix_instructions_unmarked member

section Run

variable {columns rows : UInt16} {start : RemoteTerminalState terminal}

theorem run_grown (created : new columns rows = .ok start) {operations : List Operation}
    (uncompacted : Uncompacted start operations) :
    Grown (viewportOf columns rows) (final perform start operations) := by
  apply uncompacted_final (Grown (viewportOf columns rows)) _ _ _ uncompacted
  · intro state batch result grown room applied
    exact apply_grown grown room applied
  · intro state grown
    exact clone_grown grown
  · rcases new_formed created with ⟨formed, empty, viewport, _⟩
    apply Grown.mk formed
    rw [empty, viewport]
    rfl

/-- Two runs from one blank screen: the suffix is found exactly when one stream begins with the
other, and then the diff is exact. -/
theorem suffix_diff_exact (created : new columns rows = .ok start) {target delivered : List Operation}
    (targetUncompacted : Uncompacted start target)
    (deliveredUncompacted : Uncompacted start delivered) :
    ((∃ found, historySuffixStart (final perform start target).history.canonicalOperations
          (final perform start delivered).history.canonicalOperations = .ok found) ↔
        (final perform start delivered).history.stream <+:
          (final perform start target).history.stream) ∧
      ((final perform start delivered).history.stream <+:
          (final perform start target).history.stream →
        ∃ diff, (final perform start target).diffFrom (final perform start delivered) = .ok diff ∧
          SuffixDiff (final perform start target) (final perform start delivered) diff) := by
  have targetGrown := run_grown created targetUncompacted
  have deliveredGrown := run_grown created deliveredUncompacted
  have prefixed := suffix_start_ok_iff _ _ (canonical_operations _ targetGrown.formed.filled)
    (canonical_operations _ deliveredGrown.formed.filled)
  rw [canonical_stream, canonical_stream] at prefixed
  exact ⟨prefixed, suffix_diff targetGrown deliveredGrown⟩

/-- A line that was written to in one piece, and an earlier one. -/
theorem line_suffix_diff : ∃ diff,
    (final perform blankLine [.apply ⟨[hostBytesInstruction [0x61, 0x62], echoInstruction 1]⟩]).diffFrom
        (final perform blankLine [.apply ⟨[hostBytesInstruction [0x61]]⟩, .clone]) = .ok diff ∧
      SuffixDiff
        (final perform blankLine [.apply ⟨[hostBytesInstruction [0x61, 0x62], echoInstruction 1]⟩])
        (final perform blankLine [.apply ⟨[hostBytesInstruction [0x61]]⟩, .clone]) diff := by
  have created : new 4 1 = .ok blankLine := rfl
  have target : Uncompacted blankLine
      [.apply ⟨[hostBytesInstruction [0x61, 0x62], echoInstruction 1]⟩] := by
    intro event member batch applied compacts
    rw [trace, trace, List.mem_singleton] at member
    rw [member] at applied compacts
    rw [← Operation.apply.inj applied] at compacts
    exact compacts.1 rfl
  have delivered : Uncompacted blankLine [.apply ⟨[hostBytesInstruction [0x61]]⟩, .clone] := by
    intro event member batch applied compacts
    rw [trace, trace, trace, List.mem_cons, List.mem_singleton] at member
    rcases member with first | second
    · rw [first] at applied compacts
      rw [← Operation.apply.inj applied] at compacts
      exact compacts.1 rfl
    · rw [second] at applied
      cases applied
  apply (suffix_diff_exact created target delivered).2
  exact ⟨[.byte 0x62], rfl⟩

end Run

end RemoteTerminalState

end FerrumTty.State
