import FerrumTty.Wire.Message

/-!
# A stored codec

A lawful `Codec` that can be run: streams are stored behind a two-byte zlib header, and
messages are decoded field by field, the last occurrence of a field winning.
-/

namespace FerrumTty.Wire

set_option autoImplicit false

open Crypto Proto3

def STORED_HEADER : Bytes := [0x78, 0x01]

/-- One decoder for all message types: fields are read in order into a default message. -/
def decodeFields {Message : Type} (field : Message → WireField → Option Message) (default : Message)
    (encoded : Bytes) : Option Message := do
  let fields ← readFields encoded
  fields.foldlM field default

def ByteRun.field (run : ByteRun) : WireField → Option ByteRun
  | ⟨4, .bytes value⟩ => some { run with value }
  | ⟨4, .varint _⟩ => none
  | _ => some run

def ViewportSize.field (viewport : ViewportSize) : WireField → Option ViewportSize
  | ⟨5, .varint value⟩ => some { viewport with columns := UInt64.ofNat value }
  | ⟨6, .varint value⟩ => some { viewport with rows := UInt64.ofNat value }
  | ⟨5, .bytes _⟩ => none
  | ⟨6, .bytes _⟩ => none
  | _ => some viewport

def Marker.field (marker : Marker) : WireField → Option Marker
  | ⟨8, .varint value⟩ => some { marker with value := UInt64.ofNat value }
  | ⟨8, .bytes _⟩ => none
  | _ => some marker

def SessionControl.field (control : SessionControl) : WireField → Option SessionControl
  | ⟨10, .varint value⟩ => some { control with kind := UInt32.ofNat value }
  | ⟨11, .bytes value⟩ => some { control with payload := value }
  | ⟨10, .bytes _⟩ => none
  | ⟨11, .varint _⟩ => none
  | _ => some control

def Instruction.field (instruction : Instruction) : WireField → Option Instruction
  | ⟨2, .bytes value⟩ => do
      let run ← decodeFields ByteRun.field ⟨[]⟩ value
      some { instruction with bytes := some run }
  | ⟨3, .bytes value⟩ => do
      let viewport ← decodeFields ViewportSize.field ⟨0, 0⟩ value
      some { instruction with viewport := some viewport }
  | ⟨7, .bytes value⟩ => do
      let marker ← decodeFields Marker.field ⟨0⟩ value
      some { instruction with marker := some marker }
  | ⟨9, .bytes value⟩ => do
      let control ← decodeFields SessionControl.field ⟨0, []⟩ value
      some { instruction with sessionControl := some control }
  | ⟨2, .varint _⟩ => none
  | ⟨3, .varint _⟩ => none
  | ⟨7, .varint _⟩ => none
  | ⟨9, .varint _⟩ => none
  | _ => some instruction

def InstructionBatch.field (batch : InstructionBatch) : WireField → Option InstructionBatch
  | ⟨1, .bytes value⟩ => do
      let instruction ← decodeFields Instruction.field ⟨none, none, none, none⟩ value
      some { batch with instructions := batch.instructions ++ [instruction] }
  | ⟨1, .varint _⟩ => none
  | _ => some batch

def StateUpdate.field (update : StateUpdate) : WireField → Option StateUpdate
  | ⟨1, .varint value⟩ => some { update with protocolVersion := UInt64.ofNat value }
  | ⟨2, .varint value⟩ => some { update with baseState := UInt64.ofNat value }
  | ⟨3, .varint value⟩ => some { update with targetState := UInt64.ofNat value }
  | ⟨4, .varint value⟩ => some { update with acknowledgedState := UInt64.ofNat value }
  | ⟨5, .varint value⟩ => some { update with discardBefore := UInt64.ofNat value }
  | ⟨6, .bytes value⟩ => some { update with delta := value }
  | ⟨7, .bytes value⟩ => some { update with padding := value }
  | ⟨8, .bytes value⟩ => some { update with capabilities := value }
  | ⟨number, _⟩ => if 1 ≤ number ∧ number ≤ 8 then none else some update

def storedCodec : Codec where
  compress message := some (STORED_HEADER ++ message)
  readToEnd limit stream :=
    if STORED_HEADER.isPrefixOf stream then some ((stream.drop STORED_HEADER.length).take limit)
    else none
  decodeUpdate := decodeFields StateUpdate.field
    { StateUpdate.new 0 0 0 with protocolVersion := 0 }
  decodeBatch := decodeFields InstructionBatch.field ⟨[]⟩

section Decoding

variable {Message : Type} (field : Message → WireField → Option Message)

theorem decode_fields_encode (default : Message) (fields : List WireField) :
    decodeFields field default (encodeFields fields) = fields.foldlM field default := by
  rw [decodeFields, read_fields_encode]
  rfl

/-- A scalar field that is left out when it is zero leaves the default in place. -/
theorem fold_word_field (number : Nat) (value : UInt64) (set : UInt64 → Message)
    (read : field (set 0) ⟨number, .varint value.toNat⟩ = some (set value)) :
    (varintField number value.toNat).foldlM field (set 0) = some (set value) := by
  unfold varintField
  split_ifs with left_out
  · have zero : value = 0 := UInt64.toNat_inj.mp left_out
    rw [zero]
    rfl
  · rw [List.foldlM_cons, read]
    rfl

theorem fold_kind_field (number : Nat) (value : UInt32) (set : UInt32 → Message)
    (read : field (set 0) ⟨number, .varint value.toNat⟩ = some (set value)) :
    (varintField number value.toNat).foldlM field (set 0) = some (set value) := by
  unfold varintField
  split_ifs with left_out
  · have zero : value = 0 := UInt32.toNat_inj.mp left_out
    rw [zero]
    rfl
  · rw [List.foldlM_cons, read]
    rfl

theorem fold_bytes_field (number : Nat) (value : Bytes) (set : Bytes → Message)
    (read : field (set []) ⟨number, .bytes value⟩ = some (set value)) :
    (bytesField number value).foldlM field (set []) = some (set value) := by
  unfold bytesField
  split_ifs with left_out
  · rw [List.isEmpty_iff.mp left_out]
    rfl
  · rw [List.foldlM_cons, read]
    rfl

theorem fold_message_field {Inner : Type} (number : Nat) (inner : Option Inner)
    (fields : Inner → List WireField) (set : Option Inner → Message)
    (read : ∀ value, field (set none) ⟨number, .bytes (encodeFields (fields value))⟩ =
      some (set (some value))) :
    (messageField number (inner.map fields)).foldlM field (set none) = some (set inner) := by
  cases inner with
  | none => rfl
  | some value =>
      simp only [messageField, Option.map_some, Option.toList_some, List.foldlM_cons]
      rw [read value]
      rfl

end Decoding

theorem decode_byte_run (run : ByteRun) :
    decodeFields ByteRun.field ⟨[]⟩ (encodeFields run.fields) = some run := by
  rw [decode_fields_encode]
  exact fold_bytes_field ByteRun.field 4 run.value ByteRun.mk rfl

theorem decode_viewport (viewport : ViewportSize) :
    decodeFields ViewportSize.field ⟨0, 0⟩ (encodeFields viewport.fields) = some viewport := by
  have columns := fold_word_field ViewportSize.field 5 viewport.columns
    (fun columns => ⟨columns, 0⟩) (by simp [ViewportSize.field])
  have rows := fold_word_field ViewportSize.field 6 viewport.rows
    (fun rows => ⟨viewport.columns, rows⟩) (by simp [ViewportSize.field])
  rw [decode_fields_encode, ViewportSize.fields, List.foldlM_append, columns]
  exact rows

theorem decode_marker (marker : Marker) :
    decodeFields Marker.field ⟨0⟩ (encodeFields marker.fields) = some marker := by
  rw [decode_fields_encode]
  exact fold_word_field Marker.field 8 marker.value Marker.mk (by simp [Marker.field])

theorem decode_session_control (control : SessionControl) :
    decodeFields SessionControl.field ⟨0, []⟩ (encodeFields control.fields) = some control := by
  have kind := fold_kind_field SessionControl.field 10 control.kind
    (fun kind => ⟨kind, []⟩) (by simp [SessionControl.field])
  have payload := fold_bytes_field SessionControl.field 11 control.payload
    (fun payload => ⟨control.kind, payload⟩) rfl
  rw [decode_fields_encode, SessionControl.fields, List.foldlM_append, kind]
  exact payload

theorem decode_instruction (instruction : Instruction) :
    decodeFields Instruction.field ⟨none, none, none, none⟩ (encodeFields instruction.fields) =
      some instruction := by
  have bytes := fold_message_field Instruction.field 2 instruction.bytes ByteRun.fields
    (fun bytes => ⟨bytes, none, none, none⟩)
    (by intro run; simp [Instruction.field, decode_byte_run])
  have viewport := fold_message_field Instruction.field 3 instruction.viewport
    ViewportSize.fields (fun viewport => ⟨instruction.bytes, viewport, none, none⟩)
    (by intro viewport; simp [Instruction.field, decode_viewport])
  have marker := fold_message_field Instruction.field 7 instruction.marker Marker.fields
    (fun marker => ⟨instruction.bytes, instruction.viewport, marker, none⟩)
    (by intro marker; simp [Instruction.field, decode_marker])
  have control := fold_message_field Instruction.field 9 instruction.sessionControl
    SessionControl.fields
    (fun control => ⟨instruction.bytes, instruction.viewport, instruction.marker, control⟩)
    (by intro control; simp [Instruction.field, decode_session_control])
  rw [decode_fields_encode, Instruction.fields, List.foldlM_append, List.foldlM_append,
    List.foldlM_append, bytes]
  simp only [Option.bind_eq_bind, Option.bind_some]
  rw [viewport]
  simp only [Option.bind_some]
  rw [marker]
  exact control

theorem decode_instructions_fields (instructions : List Instruction) (batch : InstructionBatch) :
    (instructions.map fun instruction =>
        (⟨1, .bytes (encodeFields instruction.fields)⟩ : WireField)).foldlM InstructionBatch.field batch =
      some ⟨batch.instructions ++ instructions⟩ := by
  induction instructions generalizing batch with
  | nil => simp
  | cons instruction rest induction =>
      have step : batch.field ⟨1, .bytes (encodeFields instruction.fields)⟩ =
          some ⟨batch.instructions ++ [instruction]⟩ := by
        simp [InstructionBatch.field, decode_instruction]
      rw [List.map_cons, List.foldlM_cons, step, Option.bind_eq_bind, Option.bind_some, induction]
      simp

theorem decode_state_update (update : StateUpdate) :
    decodeFields StateUpdate.field { StateUpdate.new 0 0 0 with protocolVersion := 0 }
      update.encode = some update := by
  have protocolVersion := fold_word_field StateUpdate.field 1 update.protocolVersion
    (fun value => ⟨value, 0, 0, 0, 0, [], [], []⟩) (by simp [StateUpdate.field])
  have baseState := fold_word_field StateUpdate.field 2 update.baseState
    (fun value => ⟨update.protocolVersion, value, 0, 0, 0, [], [], []⟩) (by simp [StateUpdate.field])
  have targetState := fold_word_field StateUpdate.field 3 update.targetState
    (fun value => ⟨update.protocolVersion, update.baseState, value, 0, 0, [], [], []⟩)
    (by simp [StateUpdate.field])
  have acknowledgedState := fold_word_field StateUpdate.field 4 update.acknowledgedState
    (fun value => ⟨update.protocolVersion, update.baseState, update.targetState, value, 0, [], [], []⟩)
    (by simp [StateUpdate.field])
  have discardBefore := fold_word_field StateUpdate.field 5 update.discardBefore
    (fun value => ⟨update.protocolVersion, update.baseState, update.targetState,
      update.acknowledgedState, value, [], [], []⟩) (by simp [StateUpdate.field])
  have delta := fold_bytes_field StateUpdate.field 6 update.delta
    (fun value => ⟨update.protocolVersion, update.baseState, update.targetState,
      update.acknowledgedState, update.discardBefore, value, [], []⟩) rfl
  have padding := fold_bytes_field StateUpdate.field 7 update.padding
    (fun value => ⟨update.protocolVersion, update.baseState, update.targetState,
      update.acknowledgedState, update.discardBefore, update.delta, value, []⟩) rfl
  have capabilities := fold_bytes_field StateUpdate.field 8 update.capabilities
    (fun value => ⟨update.protocolVersion, update.baseState, update.targetState,
      update.acknowledgedState, update.discardBefore, update.delta, update.padding, value⟩) rfl
  rw [StateUpdate.encode, decode_fields_encode, StateUpdate.fields]
  simp only [List.foldlM_append, List.append_assoc]
  apply Option.bind_eq_some_iff.mpr ⟨_, protocolVersion, _⟩
  apply Option.bind_eq_some_iff.mpr ⟨_, baseState, _⟩
  apply Option.bind_eq_some_iff.mpr ⟨_, targetState, _⟩
  apply Option.bind_eq_some_iff.mpr ⟨_, acknowledgedState, _⟩
  apply Option.bind_eq_some_iff.mpr ⟨_, discardBefore, _⟩
  apply Option.bind_eq_some_iff.mpr ⟨_, delta, _⟩
  apply Option.bind_eq_some_iff.mpr ⟨_, padding, _⟩
  exact capabilities

theorem lawful_stored_codec : LawfulCodec storedCodec where
  read_compress message compressed limit stored := by
    have same : STORED_HEADER ++ message = compressed := Option.some.inj stored
    have headed : STORED_HEADER.isPrefixOf compressed = true := by
      rw [← same]
      exact List.isPrefixOf_iff_prefix.mpr (List.prefix_append _ _)
    change (if STORED_HEADER.isPrefixOf compressed then _ else _) = _
    rw [if_pos headed, ← same, List.drop_left]
  decode_update := decode_state_update
  decode_batch batch := by
    change decodeFields InstructionBatch.field ⟨[]⟩ (encodeFields batch.fields) = some batch
    rw [decode_fields_encode]
    exact decode_instructions_fields batch.instructions ⟨[]⟩

end FerrumTty.Wire
