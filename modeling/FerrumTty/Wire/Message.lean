import FerrumTty.Crypto.SecureChannel
import FerrumTty.Library.Proto3

/-!
# State updates and instruction batches

The message half of `ferrumtty-wire`. The message types are encoded as their field
declarations say; zlib and the decoding half of prost are libraries outside this
repository and enter as the parameter `Codec`. The hand-written validator that runs
before prost is the repository's own and is modelled in full.
-/

namespace FerrumTty.Wire

set_option autoImplicit false

open Crypto Proto3

def PROTOCOL_VERSION : UInt64 := 2
def MAXIMUM_DECOMPRESSED_BYTES : Nat := 16 * 1024 * 1024
def SESSION_CONTROL_CAPABILITY : UInt8 := 1

structure ByteRun where
  value : Bytes
  deriving DecidableEq, Repr

structure ViewportSize where
  columns : UInt64
  rows : UInt64
  deriving DecidableEq, Repr

structure Marker where
  value : UInt64
  deriving DecidableEq, Repr

structure SessionControl where
  kind : UInt32
  payload : Bytes
  deriving DecidableEq, Repr

structure Instruction where
  bytes : Option ByteRun
  viewport : Option ViewportSize
  marker : Option Marker
  sessionControl : Option SessionControl
  deriving DecidableEq, Repr

structure InstructionBatch where
  instructions : List Instruction
  deriving DecidableEq, Repr

structure StateUpdate where
  protocolVersion : UInt64
  baseState : UInt64
  targetState : UInt64
  acknowledgedState : UInt64
  discardBefore : UInt64
  delta : Bytes
  padding : Bytes
  capabilities : Bytes
  deriving DecidableEq, Repr

inductive MessageError where
  | compressionFailed
  | decompressionFailed
  | decompressedMessageTooLarge
  | malformedProtobuf
  | unsupportedProtocolVersion
  | unsupportedWireType
  deriving DecidableEq, Repr

def ByteRun.fields (run : ByteRun) : List WireField := bytesField 4 run.value

def ViewportSize.fields (viewport : ViewportSize) : List WireField :=
  varintField 5 viewport.columns.toNat ++ varintField 6 viewport.rows.toNat

def Marker.fields (marker : Marker) : List WireField := varintField 8 marker.value.toNat

def SessionControl.fields (control : SessionControl) : List WireField :=
  varintField 10 control.kind.toNat ++ bytesField 11 control.payload

/-- An optional sub-message is written whenever it is present, also when it is empty. -/
def messageField (number : Nat) (message : Option (List WireField)) : List WireField :=
  (message.map fun fields => WireField.mk number (.bytes (encodeFields fields))).toList

def Instruction.fields (instruction : Instruction) : List WireField :=
  messageField 2 (instruction.bytes.map ByteRun.fields) ++
    messageField 3 (instruction.viewport.map ViewportSize.fields) ++
    messageField 7 (instruction.marker.map Marker.fields) ++
    messageField 9 (instruction.sessionControl.map SessionControl.fields)

def InstructionBatch.fields (batch : InstructionBatch) : List WireField :=
  batch.instructions.map fun instruction => ⟨1, .bytes (encodeFields instruction.fields)⟩

def InstructionBatch.encodeBytes (batch : InstructionBatch) : Bytes := encodeFields batch.fields

namespace StateUpdate

def new (baseState targetState acknowledgedState : UInt64) : StateUpdate where
  protocolVersion := PROTOCOL_VERSION
  baseState := baseState
  targetState := targetState
  acknowledgedState := acknowledgedState
  discardBefore := 0
  delta := []
  padding := []
  capabilities := []

def fields (update : StateUpdate) : List WireField :=
  varintField 1 update.protocolVersion.toNat ++ varintField 2 update.baseState.toNat ++
    varintField 3 update.targetState.toNat ++ varintField 4 update.acknowledgedState.toNat ++
    varintField 5 update.discardBefore.toNat ++ bytesField 6 update.delta ++
    bytesField 7 update.padding ++ bytesField 8 update.capabilities

def encode (update : StateUpdate) : Bytes := encodeFields update.fields

end StateUpdate

/-- zlib and the decoders that prost derives. `readToEnd limit` reads a stream through
`take(limit)`; a failed read is `none`. -/
structure Codec where
  compress : Bytes → Option Bytes
  readToEnd : Nat → Bytes → Option Bytes
  decodeUpdate : Bytes → Option StateUpdate
  decodeBatch : Bytes → Option InstructionBatch

structure LawfulCodec (codec : Codec) : Prop where
  read_compress : ∀ message compressed limit, codec.compress message = some compressed →
    codec.readToEnd limit compressed = some (message.take limit)
  decode_update : ∀ update : StateUpdate, codec.decodeUpdate update.encode = some update
  decode_batch : ∀ batch : InstructionBatch, codec.decodeBatch batch.encodeBytes = some batch

/-- The loop of `decode_varint` from the byte at `index` on. -/
def decodeVarintFrom (index : Nat) (value : UInt64) : Bytes → Except MessageError (UInt64 × Nat)
  | [] => .error .malformedProtobuf
  | byte :: rest =>
      if index ≥ 10 then .error .malformedProtobuf
      else
        let payload := (byte &&& 0x7f).toUInt64
        if index = 9 ∧ payload > 1 then .error .malformedProtobuf
        else
          let value := value ||| (payload <<< UInt64.ofNat (index * 7))
          if byte &&& 0x80 = 0 then .ok (value, index + 1)
          else decodeVarintFrom (index + 1) value rest

def decodeVarint (encoded : Bytes) : Except MessageError (UInt64 × Nat) :=
  decodeVarintFrom 0 0 encoded

/-- `encoded.get(count..)` -/
def dropExactly (count : Nat) (encoded : Bytes) : Except MessageError Bytes :=
  if count ≤ encoded.length then .ok (encoded.drop count) else .error .malformedProtobuf

def skipValue (encoded : Bytes) (wireType : UInt8) : Except MessageError Bytes :=
  if wireType = 0 then do
    let (_, bytes) ← decodeVarint encoded
    .ok (encoded.drop bytes)
  else if wireType = 1 then dropExactly 8 encoded
  else if wireType = 2 then do
    let (length, bytes) ← decodeVarint encoded
    dropExactly length.toNat (encoded.drop bytes)
  else if wireType = 5 then dropExactly 4 encoded
  else .error .unsupportedWireType

def checkWireType (allowed : List (UInt64 × UInt8)) (field : UInt64) (wireType : UInt8) :
    Except MessageError Unit :=
  match allowed.find? fun entry => entry.1 = field with
  | some (_, expected) =>
      if wireType ≠ expected then .error .unsupportedWireType else .ok ()
  | none => .ok ()

/-- The loop of `validate_fields`. Every round consumes a byte, so the length of the
input is fuel enough and the first case is only met on an empty rest. -/
def validateFieldsLoop (allowed : List (UInt64 × UInt8)) : Nat → Bytes → Except MessageError Unit
  | _, [] => .ok ()
  | 0, _ :: _ => .error .malformedProtobuf
  | fuel + 1, remaining => do
      let (key, keyBytes) ← decodeVarint remaining
      let wireType := (key &&& 7).toUInt8
      checkWireType allowed (key >>> 3) wireType
      let rest ← skipValue (remaining.drop keyBytes) wireType
      validateFieldsLoop allowed fuel rest

def validateFields (encoded : Bytes) (allowed : List (UInt64 × UInt8)) : Except MessageError Unit :=
  validateFieldsLoop allowed encoded.length encoded

def lengthDelimitedFieldsLoop : Nat → Bytes → Except MessageError (List (UInt64 × Bytes))
  | _, [] => .ok []
  | 0, _ :: _ => .error .malformedProtobuf
  | fuel + 1, encoded => do
      let (key, keyBytes) ← decodeVarint encoded
      let encoded := encoded.drop keyBytes
      let wireType := (key &&& 7).toUInt8
      if wireType = 0 ∨ wireType = 1 ∨ wireType = 5 then
        let rest ← skipValue encoded wireType
        lengthDelimitedFieldsLoop fuel rest
      else if wireType = 2 then
        let (length, lengthBytes) ← decodeVarint encoded
        let encoded := encoded.drop lengthBytes
        if length.toNat ≤ encoded.length then
          let values ← lengthDelimitedFieldsLoop fuel (encoded.drop length.toNat)
          .ok ((key >>> 3, encoded.take length.toNat) :: values)
        else .error .malformedProtobuf
      else .error .unsupportedWireType

def lengthDelimitedFields (encoded : Bytes) : Except MessageError (List (UInt64 × Bytes)) :=
  lengthDelimitedFieldsLoop encoded.length encoded

def lengthDelimitedValues (encoded : Bytes) (allowed : List (UInt64 × UInt8)) :
    Except MessageError (List Bytes) := do
  validateFields encoded allowed
  let fields ← lengthDelimitedFields encoded
  .ok ((fields.filter fun entry => (entry.1, 2) ∈ allowed).map Prod.snd)

def validateInstructionField (field : UInt64) (value : Bytes) : Except MessageError Unit :=
  if field = 2 then validateFields value [(4, 2)]
  else if field = 3 then validateFields value [(5, 0), (6, 0)]
  else if field = 7 then validateFields value [(8, 0)]
  else if field = 9 then validateFields value [(10, 0), (11, 2)]
  else .ok ()

def validateInstruction (instruction : Bytes) : Except MessageError Unit := do
  validateFields instruction [(2, 2), (3, 2), (7, 2), (9, 2)]
  let fields ← lengthDelimitedFields instruction
  fields.forM fun (field, value) => validateInstructionField field value

def validateInstructionBatch (encoded : Bytes) : Except MessageError Unit := do
  let instructions ← lengthDelimitedValues encoded [(1, 2)]
  instructions.forM validateInstruction

def UPDATE_FIELDS : List (UInt64 × UInt8) :=
  [(1, 0), (2, 0), (3, 0), (4, 0), (5, 0), (6, 2), (7, 2), (8, 2)]

section Codec

variable (codec : Codec)

def StateUpdate.decodeInstructions (update : StateUpdate) : Except MessageError InstructionBatch := do
  validateInstructionBatch update.delta
  match codec.decodeBatch update.delta with
  | none => .error .malformedProtobuf
  | some batch => .ok batch

/-- Writing a message into a growing buffer cannot fail, so only zlib can. -/
def encodeCompressedUpdate (update : StateUpdate) : Except MessageError Bytes :=
  if update.protocolVersion ≠ PROTOCOL_VERSION then .error .unsupportedProtocolVersion
  else
    match codec.compress update.encode with
    | none => .error .compressionFailed
    | some compressed => .ok compressed

def decodeCompressedUpdate (compressed : Bytes) : Except MessageError StateUpdate :=
  match codec.readToEnd (MAXIMUM_DECOMPRESSED_BYTES + 1) compressed with
  | none => .error .decompressionFailed
  | some encoded =>
      if encoded.length > MAXIMUM_DECOMPRESSED_BYTES then .error .decompressedMessageTooLarge
      else do
        validateFields encoded UPDATE_FIELDS
        match codec.decodeUpdate encoded with
        | none => .error .malformedProtobuf
        | some update =>
            if update.protocolVersion ≠ PROTOCOL_VERSION then .error .unsupportedProtocolVersion
            else do
              validateInstructionBatch update.delta
              .ok update

end Codec

end FerrumTty.Wire
