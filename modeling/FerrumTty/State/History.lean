import FerrumTty.Wire.Message
import Mathlib.Data.List.Chain

/-!
# Operation histories

The operation list a remote terminal state is rebuilt from, its canonical form and
the two comparisons of `diff_from`. A history is read as a stream of single host
bytes, viewport changes and session controls; the canonical form is the only one
without empty or adjacent byte runs, so comparing canonical lists compares streams.
-/

namespace FerrumTty.State

set_option autoImplicit false

open Crypto Wire

def MAX_RETAINED_HOST_BYTES : Nat := 16 * 1024 * 1024
def MAX_RETAINED_OPERATIONS : Nat := 65536

inductive StateOperation where
  | hostBytes (bytes : Bytes)
  | resize (columns rows : UInt16)
  | sessionControl (control : SessionControl)
  deriving DecidableEq, Repr

def StateOperation.isResize : StateOperation → Bool
  | .resize .. => true
  | _ => false

/-- The chain of history nodes is the list of its operations, newest first. -/
structure StateHistory where
  tail : List StateOperation
  operationCount : Nat
  retainedBytes : Nat
  deriving DecidableEq, Repr

inductive StateError where
  | invalidViewport
  | historyLimitExceeded
  | divergedHistory
  | echoAckRegression
  deriving DecidableEq, Repr

def extendCanonical (canonical : List StateOperation) (operation : StateOperation) :
    List StateOperation :=
  match canonical.getLast?, operation with
  | some (.hostBytes previous), .hostBytes bytes =>
      canonical.dropLast ++ [.hostBytes (previous ++ bytes)]
  | _, _ => canonical ++ [operation]

namespace StateHistory

def empty : StateHistory where
  tail := []
  operationCount := 0
  retainedBytes := 0

def push (history : StateHistory) (operation : StateOperation) : StateHistory :=
  { history with
    tail := operation :: history.tail
    operationCount := history.operationCount + 1 }

def operations (history : StateHistory) : List StateOperation := history.tail.reverse

def canonicalOperations (history : StateHistory) : List StateOperation :=
  history.operations.foldl extendCanonical []

end StateHistory

/-- The loop of `history_suffix_start` from `index` on. -/
def historySuffixStartFrom (index : Nat) :
    List StateOperation → List StateOperation → Except StateError (Nat × Nat)
  | _, [] => .ok (index, 0)
  | [], _ :: _ => .error .divergedHistory
  | .hostBytes targetBytes :: target, .hostBytes deliveredBytes :: delivered =>
      if deliveredBytes.isPrefixOf targetBytes then
        if targetBytes.length ≠ deliveredBytes.length then
          if delivered.isEmpty then .ok (index, deliveredBytes.length)
          else .error .divergedHistory
        else historySuffixStartFrom (index + 1) target delivered
      else .error .divergedHistory
  | targetOperation :: target, deliveredOperation :: delivered =>
      if targetOperation = deliveredOperation then
        historySuffixStartFrom (index + 1) target delivered
      else .error .divergedHistory

def historySuffixStart (target delivered : List StateOperation) : Except StateError (Nat × Nat) :=
  historySuffixStartFrom 0 target delivered

def commonByteCount : Bytes → Bytes → Nat
  | left :: lefts, right :: rights => if left = right then commonByteCount lefts rights + 1 else 0
  | _, _ => 0

/-- A byte run that is left out when it is empty. -/
def byteRun (bytes : Bytes) : List StateOperation :=
  if bytes.isEmpty then [] else [.hostBytes bytes]

def splitCommonHistory : List StateOperation → List StateOperation →
    List StateOperation × List StateOperation × List StateOperation
  | targetOperation :: target, deliveredOperation :: delivered =>
      if targetOperation = deliveredOperation then
        let (common, targetTail, deliveredTail) := splitCommonHistory target delivered
        (targetOperation :: common, targetTail, deliveredTail)
      else
        match targetOperation, deliveredOperation with
        | .hostBytes targetBytes, .hostBytes deliveredBytes =>
            let commonBytes := commonByteCount targetBytes deliveredBytes
            (byteRun (targetBytes.take commonBytes),
              byteRun (targetBytes.drop commonBytes) ++ target,
              byteRun (deliveredBytes.drop commonBytes) ++ delivered)
        | _, _ => ([], targetOperation :: target, deliveredOperation :: delivered)
  | target, delivered => ([], target, delivered)

def hostBytesInstruction (value : Bytes) : Instruction where
  bytes := some { value }
  viewport := none
  marker := none
  sessionControl := none

def viewportOf (columns rows : UInt16) : ViewportSize where
  columns := columns.toUInt64
  rows := rows.toUInt64

def viewportInstruction (columns rows : UInt16) : Instruction where
  bytes := none
  viewport := some (viewportOf columns rows)
  marker := none
  sessionControl := none

def sessionControlInstruction (control : SessionControl) : Instruction where
  bytes := none
  viewport := none
  marker := none
  sessionControl := some control

/-- The closure that `diff_from` maps over the enumerated suffix. -/
def suffixInstruction (firstByteOffset : Nat) : StateOperation × Nat → Option Instruction
  | (.hostBytes value, index) =>
      let value := value.drop (if index = 0 then firstByteOffset else 0)
      if value.isEmpty then none else some (hostBytesInstruction value)
  | (.resize columns rows, _) => some (viewportInstruction columns rows)
  | (.sessionControl control, _) => some (sessionControlInstruction control)

def suffixInstructions (suffix : List StateOperation) (firstByteOffset : Nat) : List Instruction :=
  suffix.zipIdx.filterMap (suffixInstruction firstByteOffset)

/-- One item of the stream that a history or a batch stands for. -/
inductive StreamItem where
  | byte (value : UInt8)
  | viewport (size : ViewportSize)
  | control (control : SessionControl)
  deriving DecidableEq, Repr

def StateOperation.stream : StateOperation → List StreamItem
  | .hostBytes bytes => bytes.map .byte
  | .resize columns rows => [.viewport (viewportOf columns rows)]
  | .sessionControl control => [.control control]

def streamOf (operations : List StateOperation) : List StreamItem :=
  operations.flatMap StateOperation.stream

def StateHistory.stream (history : StateHistory) : List StreamItem := streamOf history.operations

def instructionStream (instruction : Instruction) : List StreamItem :=
  (instruction.bytes.elim [] fun run => run.value.map .byte) ++
    (instruction.viewport.elim [] fun viewport => [.viewport viewport]) ++
    (instruction.sessionControl.elim [] fun control => [.control control])

/-- What a batch says, before the receiver leaves out the resizes that change nothing. -/
def instructionsStream (instructions : List Instruction) : List StreamItem :=
  instructions.flatMap instructionStream

section Divergence

variable {Item : Type} [DecidableEq Item]

/-- What the first list holds beyond its longest common prefix with the second. -/
def beyondCommon : List Item → List Item → List Item
  | item :: first, other :: second =>
      if item = other then beyondCommon first second else item :: first
  | first, _ => first

@[simp] theorem beyond_common_append (common first second : List Item) :
    beyondCommon (common ++ first) (common ++ second) = beyondCommon first second := by
  induction common with
  | nil => rfl
  | cons item rest induction => simp [beyondCommon, induction]

theorem beyond_common_of_heads {first second : List Item}
    (heads : ∀ item ∈ first.head?, item ∉ second.head?) : beyondCommon first second = first := by
  cases first with
  | nil => cases second <;> rfl
  | cons item first =>
      cases second with
      | nil => rfl
      | cons other second =>
          rw [beyondCommon, if_neg]
          intro same
          exact heads item rfl (by simp [same])

end Divergence

@[simp] theorem stream_of_nil : streamOf [] = [] := rfl

@[simp] theorem stream_of_cons (operation : StateOperation) (rest : List StateOperation) :
    streamOf (operation :: rest) = operation.stream ++ streamOf rest := rfl

@[simp] theorem stream_of_append (first second : List StateOperation) :
    streamOf (first ++ second) = streamOf first ++ streamOf second := by
  simp [streamOf]

@[simp] theorem stream_of_byte_run (bytes : Bytes) :
    streamOf (byteRun bytes) = bytes.map .byte := by
  cases bytes <;> simp [byteRun, StateOperation.stream]

@[simp] theorem stream_empty : StateHistory.empty.stream = [] := rfl

theorem stream_push (history : StateHistory) (operation : StateOperation) :
    (history.push operation).stream = history.stream ++ operation.stream := by
  simp [StateHistory.stream, StateHistory.push, StateHistory.operations]

theorem viewport_of_eq_iff {columns rows otherColumns otherRows : UInt16} :
    viewportOf columns rows = viewportOf otherColumns otherRows ↔
      columns = otherColumns ∧ rows = otherRows := by
  simp only [viewportOf, ViewportSize.mk.injEq, UInt16.toUInt64_inj]

/-- No empty byte run and no two byte runs side by side. -/
def Apart : StateOperation → StateOperation → Prop
  | .hostBytes _, .hostBytes _ => False
  | _, _ => True

structure Canonical (operations : List StateOperation) : Prop where
  filled : .hostBytes [] ∉ operations
  separated : operations.IsChain Apart

theorem Canonical.tail {operation : StateOperation} {rest : List StateOperation}
    (canonical : Canonical (operation :: rest)) : Canonical rest where
  filled := fun member => canonical.filled (List.mem_cons_of_mem _ member)
  separated := canonical.separated.tail

theorem extend_canonical_cases (operations : List StateOperation) (operation : StateOperation) :
    (∃ previous bytes, operations.getLast? = some (.hostBytes previous) ∧
        operation = .hostBytes bytes ∧
        extendCanonical operations operation =
          operations.dropLast ++ [.hostBytes (previous ++ bytes)]) ∨
      ((∀ before ∈ operations.getLast?, Apart before operation) ∧
        extendCanonical operations operation = operations ++ [operation]) := by
  unfold extendCanonical
  cases last : operations.getLast? with
  | none => exact Or.inr ⟨by simp, rfl⟩
  | some before =>
      cases before <;> cases operation <;> simp [Apart]

theorem extend_canonical_stream (operations : List StateOperation) (operation : StateOperation) :
    streamOf (extendCanonical operations operation) = streamOf operations ++ operation.stream := by
  rcases extend_canonical_cases operations operation with
    ⟨previous, bytes, last, rfl, merged⟩ | ⟨_, appended⟩
  · have shape : operations = operations.dropLast ++ [.hostBytes previous] :=
      (List.dropLast_append_getLast? _ last).symm
    rw [merged]
    conv_rhs => rw [shape]
    simp [StateOperation.stream]
  · rw [appended]
    simp

theorem extend_canonical (operations : List StateOperation) (operation : StateOperation)
    (canonical : Canonical operations) (filled : operation ≠ .hostBytes []) :
    Canonical (extendCanonical operations operation) := by
  rcases extend_canonical_cases operations operation with
    ⟨previous, bytes, last, rfl, merged⟩ | ⟨apart, appended⟩
  · have chained := canonical.separated
    rw [← List.dropLast_append_getLast? _ last, List.isChain_append] at chained
    rw [merged]
    constructor
    · intro member
      rcases List.mem_append.mp member with early | late
      · exact canonical.filled (List.dropLast_subset _ early)
      · have empty : previous ++ bytes = [] := by simpa using (List.mem_singleton.mp late).symm
        exact filled (by rw [(List.append_eq_nil_iff.mp empty).2])
    · apply List.isChain_append.mpr
      refine ⟨chained.1, List.isChain_singleton _, ?_⟩
      intro before beforeLast after afterHead
      have head : after = .hostBytes (previous ++ bytes) := by simpa using afterHead.symm
      have beside := chained.2.2 before beforeLast (.hostBytes previous) (by simp)
      rw [head]
      cases before with
      | hostBytes other => exact beside
      | resize columns rows => trivial
      | sessionControl control => trivial
  · rw [appended]
    constructor
    · intro member
      rcases List.mem_append.mp member with early | late
      · exact canonical.filled early
      · exact filled (List.mem_singleton.mp late).symm
    · apply List.isChain_append.mpr
      refine ⟨canonical.separated, List.isChain_singleton _, ?_⟩
      intro before beforeLast after afterHead
      have head : after = operation := by simpa using afterHead.symm
      rw [head]
      exact apart before beforeLast

theorem fold_canonical (operations start : List StateOperation) :
    streamOf (operations.foldl extendCanonical start) = streamOf start ++ streamOf operations := by
  induction operations generalizing start with
  | nil => simp
  | cons operation rest induction =>
      rw [List.foldl_cons, induction, extend_canonical_stream, List.append_assoc, stream_of_cons]

theorem canonical_fold (operations start : List StateOperation) (canonical : Canonical start)
    (filled : .hostBytes [] ∉ operations) :
    Canonical (operations.foldl extendCanonical start) := by
  induction operations generalizing start with
  | nil => exact canonical
  | cons operation rest induction =>
      rw [List.mem_cons, not_or] at filled
      exact induction _ (extend_canonical start operation canonical (Ne.symm filled.1)) filled.2

theorem canonical_stream (history : StateHistory) :
    streamOf history.canonicalOperations = history.stream := by
  simp [StateHistory.canonicalOperations, fold_canonical, StateHistory.stream]

theorem canonical_operations (history : StateHistory) (filled : .hostBytes [] ∉ history.tail) :
    Canonical history.canonicalOperations :=
  canonical_fold _ _ ⟨List.not_mem_nil, List.IsChain.nil⟩ (by simpa [StateHistory.operations])

/-- The stream does not go on with a host byte. -/
def StartsApart (stream : List StreamItem) : Prop := ∀ value, .byte value ∉ stream.head?

theorem stream_after_bytes {bytes : Bytes} {rest : List StateOperation}
    (canonical : Canonical (.hostBytes bytes :: rest)) : StartsApart (streamOf rest) := by
  intro value
  cases rest with
  | nil => simp
  | cons next rest =>
      have beside := (List.isChain_cons_cons.mp canonical.separated).1
      cases next with
      | hostBytes other => exact absurd beside id
      | resize columns rows => simp [StateOperation.stream]
      | sessionControl control => simp [StateOperation.stream]

theorem byte_prefix_iff (left right : Bytes) {leftRest rightRest : List StreamItem}
    (leftApart : StartsApart leftRest) (rightApart : StartsApart rightRest) :
    left.map StreamItem.byte ++ leftRest <+: right.map StreamItem.byte ++ rightRest ↔
      (left = right ∧ leftRest <+: rightRest) ∨
        (left <+: right ∧ left.length ≠ right.length ∧ leftRest = []) := by
  induction left generalizing right with
  | nil =>
      cases right with
      | nil => simp
      | cons value right =>
          cases leftRest with
          | nil => simp
          | cons item leftRest =>
              have different : item ≠ .byte value := fun same => leftApart value (by simp [same])
              simp [different]
  | cons value left induction =>
      cases right with
      | nil =>
          cases rightRest with
          | nil => simp
          | cons item rightRest =>
              have different : .byte value ≠ item := fun same => rightApart value (by simp [same])
              simp [different]
      | cons other right =>
          simp only [List.map_cons, List.cons_append, List.cons_prefix_cons, StreamItem.byte.injEq,
            induction, List.cons.injEq, List.length_cons, ne_eq, Nat.add_right_cancel_iff]
          tauto

theorem stream_of_eq_nil_iff {operations : List StateOperation} (canonical : Canonical operations) :
    streamOf operations = [] ↔ operations = [] := by
  cases operations with
  | nil => simp
  | cons operation rest =>
      have filled := canonical.filled
      cases operation <;> simp_all [StateOperation.stream]

theorem operation_prefix_iff {target delivered : StateOperation} (apart : Apart target delivered)
    (targetFilled : target ≠ .hostBytes []) (deliveredFilled : delivered ≠ .hostBytes [])
    (targetRest deliveredRest : List StreamItem) :
    delivered.stream ++ deliveredRest <+: target.stream ++ targetRest ↔
      target = delivered ∧ deliveredRest <+: targetRest := by
  cases target with
  | hostBytes targetBytes =>
      cases targetBytes with
      | nil => exact absurd rfl targetFilled
      | cons value targetBytes =>
          cases delivered with
          | hostBytes deliveredBytes => exact absurd apart id
          | resize columns rows => simp [StateOperation.stream]
          | sessionControl control => simp [StateOperation.stream]
  | resize columns rows =>
      cases delivered with
      | hostBytes deliveredBytes =>
          cases deliveredBytes with
          | nil => exact absurd rfl deliveredFilled
          | cons value deliveredBytes => simp [StateOperation.stream]
      | resize otherColumns otherRows =>
          simp [StateOperation.stream, viewport_of_eq_iff, eq_comm]
      | sessionControl control => simp [StateOperation.stream]
  | sessionControl control =>
      cases delivered with
      | hostBytes deliveredBytes =>
          cases deliveredBytes with
          | nil => exact absurd rfl deliveredFilled
          | cons value deliveredBytes => simp [StateOperation.stream]
      | resize columns rows => simp [StateOperation.stream]
      | sessionControl other => simp [StateOperation.stream, eq_comm]

theorem suffix_start_from_apart (index : Nat) {targetOperation deliveredOperation : StateOperation}
    (apart : Apart targetOperation deliveredOperation) (target delivered : List StateOperation) :
    historySuffixStartFrom index (targetOperation :: target) (deliveredOperation :: delivered) =
      if targetOperation = deliveredOperation then historySuffixStartFrom (index + 1) target delivered
      else .error .divergedHistory := by
  cases targetOperation <;> cases deliveredOperation <;>
    first | exact absurd apart id | rw [historySuffixStartFrom]; simp

theorem suffix_start_from_ok_iff (index : Nat) (target delivered : List StateOperation)
    (targetCanonical : Canonical target) (deliveredCanonical : Canonical delivered) :
    (∃ start, historySuffixStartFrom index target delivered = .ok start) ↔
      streamOf delivered <+: streamOf target := by
  induction delivered generalizing index target with
  | nil => cases target <;> simp [historySuffixStartFrom]
  | cons deliveredOperation delivered induction =>
      have deliveredFilled : deliveredOperation ≠ .hostBytes [] := fun empty =>
        deliveredCanonical.filled (by simp [empty])
      cases target with
      | nil =>
          have nonempty := stream_of_eq_nil_iff deliveredCanonical
          simp [historySuffixStartFrom, -stream_of_cons, nonempty]
      | cons targetOperation target =>
          have targetFilled : targetOperation ≠ .hostBytes [] := fun empty =>
            targetCanonical.filled (by simp [empty])
          have rest := induction (index + 1) target targetCanonical.tail deliveredCanonical.tail
          by_cases apart : Apart targetOperation deliveredOperation
          · rw [suffix_start_from_apart index apart, stream_of_cons, stream_of_cons,
              operation_prefix_iff apart targetFilled deliveredFilled, ← rest]
            split_ifs with same <;> simp [same]
          · cases targetOperation with
            | hostBytes targetBytes =>
                cases deliveredOperation with
                | hostBytes deliveredBytes =>
                    have step := byte_prefix_iff deliveredBytes targetBytes
                      (stream_after_bytes deliveredCanonical) (stream_after_bytes targetCanonical)
                    simp only [stream_of_cons, StateOperation.stream] at step ⊢
                    rw [step, historySuffixStartFrom, stream_of_eq_nil_iff deliveredCanonical.tail,
                      ← rest]
                    by_cases contained : deliveredBytes <+: targetBytes
                    · rw [if_pos (List.isPrefixOf_iff_prefix.mpr contained)]
                      by_cases lengths : targetBytes.length = deliveredBytes.length
                      · have same := contained.eq_of_length lengths.symm
                        simp [same]
                      · have different : deliveredBytes ≠ targetBytes := fun same =>
                          lengths (by rw [same])
                        rw [if_pos lengths]
                        cases delivered <;> simp [contained, different, Ne.symm lengths]
                    · rw [if_neg (fun found => contained (List.isPrefixOf_iff_prefix.mp found))]
                      have different : deliveredBytes ≠ targetBytes := fun same =>
                        contained (same ▸ List.prefix_rfl)
                      simp [contained, different]
                | resize columns rows => exact absurd trivial apart
                | sessionControl control => exact absurd trivial apart
            | resize columns rows => exact absurd (by cases deliveredOperation <;> trivial) apart
            | sessionControl control => exact absurd (by cases deliveredOperation <;> trivial) apart

theorem suffix_start_ok_iff (target delivered : List StateOperation)
    (targetCanonical : Canonical target) (deliveredCanonical : Canonical delivered) :
    (∃ start, historySuffixStart target delivered = .ok start) ↔
      streamOf delivered <+: streamOf target :=
  suffix_start_from_ok_iff 0 target delivered targetCanonical deliveredCanonical

theorem suffix_start_from_error (index : Nat) (target delivered : List StateOperation)
    (error : StateError) (failed : historySuffixStartFrom index target delivered = .error error) :
    error = .divergedHistory := by
  fun_induction historySuffixStartFrom index target delivered <;> simp_all

@[simp] theorem instructions_stream_append (first second : List Instruction) :
    instructionsStream (first ++ second) = instructionsStream first ++ instructionsStream second := by
  simp [instructionsStream]

@[simp] theorem instructions_stream_cons (instruction : Instruction) (rest : List Instruction) :
    instructionsStream (instruction :: rest) =
      instructionStream instruction ++ instructionsStream rest := rfl

theorem suffix_instruction_stream (offset index : Nat) (operation : StateOperation) :
    instructionsStream (suffixInstruction offset (operation, index)).toList =
      match operation with
      | .hostBytes value => (value.drop (if index = 0 then offset else 0)).map .byte
      | _ => operation.stream := by
  cases operation with
  | hostBytes value =>
      simp only [suffixInstruction]
      split_ifs with first empty empty <;>
        simp_all [instructionsStream, instructionStream, hostBytesInstruction]
  | resize columns rows => rfl
  | sessionControl control => rfl

theorem suffix_instructions_cons (offset index : Nat) (operation : StateOperation)
    (rest : List StateOperation) :
    ((operation :: rest).zipIdx index).filterMap (suffixInstruction offset) =
      (suffixInstruction offset (operation, index)).toList ++
        (rest.zipIdx (index + 1)).filterMap (suffixInstruction offset) := by
  rw [List.zipIdx_cons, List.filterMap_cons]
  cases suffixInstruction offset (operation, index) <;> rfl

theorem later_suffix_stream (offset index : Nat) (operations : List StateOperation) :
    instructionsStream ((operations.zipIdx (index + 1)).filterMap (suffixInstruction offset)) =
      streamOf operations := by
  induction operations generalizing index with
  | nil => rfl
  | cons operation rest induction =>
      rw [suffix_instructions_cons, instructions_stream_append, suffix_instruction_stream, induction,
        stream_of_cons]
      cases operation <;> simp [StateOperation.stream]

theorem suffix_instructions_stream (operations : List StateOperation) :
    instructionsStream (suffixInstructions operations 0) = streamOf operations := by
  cases operations with
  | nil => rfl
  | cons operation rest =>
      rw [suffixInstructions, suffix_instructions_cons, instructions_stream_append,
        suffix_instruction_stream, later_suffix_stream, stream_of_cons]
      cases operation <;> simp [StateOperation.stream]

theorem suffix_after_bytes_stream (bytes : Bytes) (rest : List StateOperation) (offset : Nat) :
    instructionsStream (suffixInstructions (.hostBytes bytes :: rest) offset) =
      (bytes.drop offset).map .byte ++ streamOf rest := by
  rw [suffixInstructions, suffix_instructions_cons, instructions_stream_append,
    suffix_instruction_stream, later_suffix_stream]
  simp

/-- The instructions cut out at the start that was found are what the target's stream has
beyond the delivered one. -/
theorem suffix_start_from_sound (index start offset : Nat) (target delivered : List StateOperation)
    (found : historySuffixStartFrom index target delivered = .ok (start, offset)) :
    index ≤ start ∧ streamOf target = streamOf delivered ++
      instructionsStream (suffixInstructions (target.drop (start - index)) offset) := by
  fun_induction historySuffixStartFrom index target delivered with
  | case1 index target =>
      simp only [Except.ok.injEq, Prod.mk.injEq] at found
      obtain ⟨rfl, rfl⟩ := found
      simp [suffix_instructions_stream]
  | case2 index operation delivered => cases found
  | case3 index targetBytes target deliveredBytes delivered contained lengths last =>
      simp only [Except.ok.injEq, Prod.mk.injEq] at found
      obtain ⟨rfl, rfl⟩ := found
      obtain ⟨more, rfl⟩ := List.isPrefixOf_iff_prefix.mp contained
      rw [List.isEmpty_iff.mp last, Nat.sub_self, List.drop_zero, suffix_after_bytes_stream]
      simp [StateOperation.stream]
  | case4 => cases found
  | case5 index targetBytes target deliveredBytes delivered contained lengths induction =>
      obtain ⟨later, split⟩ := induction found
      have same := (List.isPrefixOf_iff_prefix.mp contained).eq_of_length
        (not_not.mp lengths).symm
      have next : start - index = start - (index + 1) + 1 := by omega
      refine ⟨by omega, ?_⟩
      rw [next, List.drop_succ_cons, stream_of_cons, stream_of_cons, split, same, List.append_assoc]
  | case6 => cases found
  | case7 index target operation delivered notBoth induction =>
      obtain ⟨later, split⟩ := induction found
      have next : start - index = start - (index + 1) + 1 := by omega
      refine ⟨by omega, ?_⟩
      rw [next, List.drop_succ_cons, stream_of_cons, stream_of_cons, split, List.append_assoc]
  | case8 => cases found

theorem common_byte_count_split (left right : Bytes) :
    left.take (commonByteCount left right) = right.take (commonByteCount left right) ∧
      ∀ value ∈ (left.drop (commonByteCount left right)).head?,
        value ∉ (right.drop (commonByteCount left right)).head? := by
  induction left generalizing right with
  | nil => cases right <;> simp [commonByteCount]
  | cons value left induction =>
      cases right with
      | nil => simp [commonByteCount]
      | cons other right =>
          rw [commonByteCount]
          split_ifs with same
          · simpa [same] using induction right
          · simp [Ne.symm same]

theorem split_common_history_stream (target delivered : List StateOperation) :
    streamOf target = streamOf (splitCommonHistory target delivered).1 ++
        streamOf (splitCommonHistory target delivered).2.1 ∧
      streamOf delivered = streamOf (splitCommonHistory target delivered).1 ++
        streamOf (splitCommonHistory target delivered).2.2 := by
  fun_induction splitCommonHistory target delivered with
  | case1 target operation delivered common targetTail deliveredTail split induction =>
      rw [split] at induction
      simp [induction]
  | case2 target delivered targetBytes deliveredBytes commonBytes different =>
      have joint := (common_byte_count_split targetBytes deliveredBytes).1
      have whole (bytes : Bytes) : bytes.map StreamItem.byte =
          (bytes.take commonBytes).map .byte ++ (bytes.drop commonBytes).map .byte := by
        rw [← List.map_append, List.take_append_drop]
      constructor
      · simp only [stream_of_cons, stream_of_append, stream_of_byte_run, StateOperation.stream]
        rw [whole targetBytes, List.append_assoc]
      · simp only [stream_of_cons, stream_of_append, stream_of_byte_run, StateOperation.stream]
        rw [whole deliveredBytes, List.append_assoc, joint]
  | case3 => simp
  | case4 => simp

theorem operation_stream_head {operation : StateOperation} (filled : operation ≠ .hostBytes [])
    (rest : List StreamItem) : (operation.stream ++ rest).head? = operation.stream.head? := by
  cases operation with
  | hostBytes bytes =>
      cases bytes with
      | nil => exact absurd rfl filled
      | cons value bytes => rfl
  | resize columns rows => rfl
  | sessionControl control => rfl

theorem operation_heads_differ {target delivered : StateOperation} (apart : Apart target delivered)
    (different : target ≠ delivered) : target.stream.head? ≠ delivered.stream.head? := by
  cases target with
  | hostBytes targetBytes =>
      cases delivered with
      | hostBytes deliveredBytes => exact absurd apart id
      | resize columns rows => cases targetBytes <;> simp [StateOperation.stream]
      | sessionControl control => cases targetBytes <;> simp [StateOperation.stream]
  | resize columns rows =>
      cases delivered with
      | hostBytes deliveredBytes => cases deliveredBytes <;> simp [StateOperation.stream]
      | resize otherColumns otherRows =>
          simpa [StateOperation.stream, viewport_of_eq_iff] using different
      | sessionControl control => simp [StateOperation.stream]
  | sessionControl control =>
      cases delivered with
      | hostBytes deliveredBytes => cases deliveredBytes <;> simp [StateOperation.stream]
      | resize columns rows => simp [StateOperation.stream]
      | sessionControl other => simpa [StateOperation.stream] using different

theorem byte_run_head (bytes : Bytes) (rest : List StreamItem) :
    (bytes.map StreamItem.byte ++ rest).head? = (bytes.head?.map .byte).or rest.head? := by
  cases bytes <;> simp

/-- The two tails of the split do not go on with the same item. -/
theorem split_common_history_heads (target delivered : List StateOperation)
    (targetCanonical : Canonical target) (deliveredCanonical : Canonical delivered) :
    ∀ item ∈ (streamOf (splitCommonHistory target delivered).2.1).head?,
      item ∉ (streamOf (splitCommonHistory target delivered).2.2).head? := by
  fun_induction splitCommonHistory target delivered with
  | case1 target operation delivered common targetTail deliveredTail split induction =>
      have tails := induction targetCanonical.tail deliveredCanonical.tail
      rwa [split] at tails
  | case2 target delivered targetBytes deliveredBytes commonBytes different =>
      obtain ⟨joint, heads⟩ := common_byte_count_split targetBytes deliveredBytes
      have targetApart := stream_after_bytes targetCanonical
      have deliveredApart := stream_after_bytes deliveredCanonical
      intro item targetHead deliveredHead
      simp only [stream_of_append, stream_of_byte_run, byte_run_head] at targetHead deliveredHead
      cases targetMore : (targetBytes.drop commonBytes).head? with
      | some value =>
          rw [targetMore] at targetHead
          have itemByte : item = .byte value := by simpa using targetHead.symm
          cases deliveredMore : (deliveredBytes.drop commonBytes).head? with
          | some other =>
              rw [deliveredMore] at deliveredHead
              have same : value = other := by simpa [itemByte, eq_comm] using deliveredHead
              exact heads value targetMore (by rw [same]; exact deliveredMore)
          | none =>
              rw [deliveredMore, itemByte] at deliveredHead
              exact deliveredApart value (by simpa using deliveredHead)
      | none =>
          cases deliveredMore : (deliveredBytes.drop commonBytes).head? with
          | some other =>
              rw [deliveredMore] at deliveredHead
              have itemByte : item = .byte other := by simpa using deliveredHead.symm
              rw [targetMore, itemByte] at targetHead
              exact targetApart other (by simpa using targetHead)
          | none =>
              have targetWhole := List.take_append_drop commonBytes targetBytes
              have deliveredWhole := List.take_append_drop commonBytes deliveredBytes
              rw [List.head?_eq_none_iff.mp targetMore] at targetWhole
              rw [List.head?_eq_none_iff.mp deliveredMore] at deliveredWhole
              exact different (by rw [← targetWhole, ← deliveredWhole, joint])
  | case3 targetOperation target deliveredOperation delivered different notBoth =>
      have targetFilled : targetOperation ≠ .hostBytes [] := fun empty =>
        targetCanonical.filled (by simp [empty])
      have deliveredFilled : deliveredOperation ≠ .hostBytes [] := fun empty =>
        deliveredCanonical.filled (by simp [empty])
      intro item targetHead deliveredHead
      rw [stream_of_cons, operation_stream_head targetFilled] at targetHead
      rw [stream_of_cons, operation_stream_head deliveredFilled] at deliveredHead
      have apart : Apart targetOperation deliveredOperation := by
        cases targetOperation <;> cases deliveredOperation <;>
          first | trivial | exact absurd rfl (notBoth _ _ rfl)
      exact operation_heads_differ apart different (targetHead.trans deliveredHead.symm)
  | case4 target delivered notBoth =>
      cases target with
      | nil => simp
      | cons operation target =>
          cases delivered with
          | nil => simp
          | cons other delivered => exact absurd rfl (notBoth _ _ _ _ rfl)

theorem split_common_target (target delivered : List StateOperation)
    (targetCanonical : Canonical target) (deliveredCanonical : Canonical delivered) :
    streamOf (splitCommonHistory target delivered).2.1 =
      beyondCommon (streamOf target) (streamOf delivered) := by
  obtain ⟨targetSplit, deliveredSplit⟩ := split_common_history_stream target delivered
  rw [targetSplit, deliveredSplit, beyond_common_append]
  exact (beyond_common_of_heads
    (split_common_history_heads target delivered targetCanonical deliveredCanonical)).symm

theorem split_common_delivered (target delivered : List StateOperation)
    (targetCanonical : Canonical target) (deliveredCanonical : Canonical delivered) :
    streamOf (splitCommonHistory target delivered).2.2 =
      beyondCommon (streamOf delivered) (streamOf target) := by
  obtain ⟨targetSplit, deliveredSplit⟩ := split_common_history_stream target delivered
  have heads := split_common_history_heads target delivered targetCanonical deliveredCanonical
  rw [targetSplit, deliveredSplit, beyond_common_append]
  refine (beyond_common_of_heads ?_).symm
  intro item deliveredHead targetHead
  exact heads item targetHead deliveredHead

end FerrumTty.State
