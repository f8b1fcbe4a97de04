import FerrumTty.Wire.Message
import Mathlib.Data.Nat.Bitwise

/-!
# Encoded messages pass the validator

The validator that runs before prost reads varints with wrapping 64-bit words and walks
over the fields twice. On everything the encoder emits it succeeds, so under a lawful
codec an encoded update of at most 16 MiB decodes to itself.
-/

namespace FerrumTty.Wire

set_option autoImplicit false

open Crypto Proto3

theorem byte_continues_iff (byte : UInt8) : byte &&& 0x80 = 0 ↔ byte.toNat < 128 := by
  have bits : (byte &&& 0x80).toNat = 128 * (byte.toNat / 128 % 2) := by
    have power : ((0x80 : UInt8)).toNat = 2 ^ 7 := by decide
    rw [UInt8.toNat_and, power, Nat.and_two_pow, Nat.testBit_eq_decide_div_mod_eq, Nat.mul_comm]
    rcases Nat.mod_two_eq_zero_or_one (byte.toNat / 2 ^ 7) with even | odd
    · have low : byte.toNat / 128 % 2 = 0 := even
      rw [decide_eq_false (by omega), low]
      rfl
    · have high : byte.toNat / 128 % 2 = 1 := odd
      rw [decide_eq_true odd, high]
      rfl
  have range : byte.toNat < 256 := byte.toNat_lt
  rw [← UInt8.toNat_inj, bits]
  change 128 * (byte.toNat / 128 % 2) = 0 ↔ byte.toNat < 128
  omega

theorem byte_payload (byte : UInt8) : (byte &&& 0x7f).toUInt64.toNat = byte.toNat % 128 := by
  have mask : ((0x7f : UInt8)).toNat = 2 ^ 7 - 1 := by decide
  rw [UInt8.toNat_toUInt64, UInt8.toNat_and, mask, Nat.and_two_pow_sub_one_eq_mod]

/-- One group of seven bits lands above the bits read so far without touching them. -/
theorem accumulate_group {value payload : UInt64} {index : Nat} (small : index ≤ 9)
    (below : value.toNat < 2 ^ (7 * index)) (fits : payload.toNat * 2 ^ (7 * index) < 2 ^ 64) :
    (value ||| (payload <<< UInt64.ofNat (index * 7))).toNat =
      value.toNat + payload.toNat * 2 ^ (7 * index) := by
  have amount : (UInt64.ofNat (index * 7)).toNat % 64 = 7 * index := by
    rw [UInt64.toNat_ofNat']
    omega
  have shifted : (payload <<< UInt64.ofNat (index * 7)).toNat = payload.toNat <<< (7 * index) := by
    rw [UInt64.toNat_shiftLeft, amount, Nat.shiftLeft_eq, Nat.mod_eq_of_lt fits]
  rw [UInt64.toNat_or, shifted, Nat.or_comm, ← Nat.shiftLeft_add_eq_or_of_lt below,
    Nat.shiftLeft_eq, Nat.add_comm]

theorem decode_last_group {value index : Nat} {accumulated : UInt64} (low : value < 128)
    (below : accumulated.toNat < 2 ^ (7 * index)) (small : index ≤ 9)
    (fits : value * 2 ^ (7 * index) < 2 ^ 64) (rest : Bytes) :
    decodeVarintFrom index accumulated (UInt8.ofNat value :: rest) =
      .ok (UInt64.ofNat (accumulated.toNat + value * 2 ^ (7 * index)), index + 1) := by
  have byte : (UInt8.ofNat value).toNat = value := by
    rw [UInt8.toNat_ofNat']
    omega
  have payload : (UInt8.ofNat value &&& 0x7f).toUInt64.toNat = value := by
    rw [byte_payload, byte]
    omega
  have tenth : ¬ (index = 9 ∧ (UInt8.ofNat value &&& 0x7f).toUInt64 > 1) := by
    intro overflow
    rcases overflow with ⟨nine, large⟩
    have above : 1 < (UInt8.ofNat value &&& 0x7f).toUInt64.toNat := UInt64.lt_iff_toNat_lt.mp large
    rw [payload] at above
    subst nine
    omega
  have joined := accumulate_group small below
    (by rw [payload]; exact fits)
  rw [payload] at joined
  rw [decodeVarintFrom, if_neg (by omega)]
  simp only
  rw [if_neg tenth, if_pos ((byte_continues_iff _).mpr (by rw [byte]; exact low)), ← joined,
    UInt64.ofNat_toNat]

theorem decode_inner_group {low index : Nat} {accumulated : UInt64} (bound : low < 128)
    (small : index < 9) (rest : Bytes) :
    decodeVarintFrom index accumulated (UInt8.ofNat (low + 128) :: rest) =
      decodeVarintFrom (index + 1)
        (accumulated ||| (UInt64.ofNat low <<< UInt64.ofNat (index * 7))) rest := by
  have byte : (UInt8.ofNat (low + 128)).toNat = low + 128 := by
    rw [UInt8.toNat_ofNat']
    omega
  have payload : (UInt8.ofNat (low + 128) &&& 0x7f).toUInt64 = UInt64.ofNat low := by
    apply UInt64.toNat.inj
    rw [byte_payload, byte, UInt64.toNat_ofNat']
    omega
  rw [decodeVarintFrom, if_neg (by omega)]
  simp only
  rw [if_neg (by omega), if_neg (by rw [byte_continues_iff, byte]; omega), payload]

theorem decode_varint_groups (fuel value index : Nat) (accumulated : UInt64) (suffix : Bytes)
    (enough : value < 2 ^ (fuel + 1)) (below : accumulated.toNat < 2 ^ (7 * index))
    (small : index ≤ 9) (fits : value * 2 ^ (7 * index) < 2 ^ 64) :
    decodeVarintFrom index accumulated (varintGroups fuel value ++ suffix) =
      .ok (UInt64.ofNat (accumulated.toNat + value * 2 ^ (7 * index)),
        index + (varintGroups fuel value).length) := by
  induction fuel generalizing value index accumulated with
  | zero => exact decode_last_group (by omega) below small fits suffix
  | succ fuel induction =>
      rw [varintGroups]
      split_ifs with low
      · exact decode_last_group low below small fits suffix
      · have power : 2 ^ (7 * (index + 1)) = 128 * 2 ^ (7 * index) := by
          rw [Nat.mul_add, Nat.pow_add, Nat.mul_comm]
        have parts : value * 2 ^ (7 * index) =
            value % 128 * 2 ^ (7 * index) + value / 128 * 2 ^ (7 * (index + 1)) := by
          rw [power]
          conv_lhs => rw [← Nat.mod_add_div value 128]
          ring
        have inner : index < 9 := by
          by_contra ninth
          have nine : index = 9 := by omega
          subst nine
          omega
        have group : (UInt64.ofNat (value % 128)).toNat = value % 128 := by
          rw [UInt64.toNat_ofNat']
          omega
        have joined := accumulate_group small below
          (by rw [group]; omega)
        rw [group] at joined
        have grown : value % 128 * 2 ^ (7 * index) ≤ 127 * 2 ^ (7 * index) :=
          Nat.mul_le_mul_right _ (by omega)
        rw [List.cons_append, decode_inner_group (by omega) inner]
        have high := induction (value / 128) (index + 1)
          (accumulated ||| (UInt64.ofNat (value % 128) <<< UInt64.ofNat (index * 7)))
          (by rw [Nat.pow_succ] at enough; omega) (by rw [joined, power]; omega) (by omega) (by omega)
        rw [high, joined, parts, List.length_cons, Nat.add_assoc, Nat.add_assoc, Nat.add_comm 1]

/-- `decode_varint` inverts the encoder on every 64-bit value and reports its length. -/
theorem decode_varint_encode {value : Nat} (fits : value < 2 ^ 64) (suffix : Bytes) :
    decodeVarint (encodeVarint value ++ suffix) =
      .ok (UInt64.ofNat value, (encodeVarint value).length) := by
  have decoded := decode_varint_groups value.log2 value 0 0 suffix (lt_two_pow_log2 value)
    (by decide) (by decide) (by simpa using fits)
  have start : (0 : UInt64).toNat + value * 2 ^ (7 * 0) = value := by simp
  rw [start, Nat.zero_add] at decoded
  exact decoded

def SmallField (field : WireField) : Prop :=
  field.number < 2 ^ 32 ∧
    match field.value with
    | .varint value => value < 2 ^ 64
    | .bytes value => value.length < 2 ^ 64

theorem read_key {field : WireField} (small : SmallField field) (suffix : Bytes) :
    ∃ key, decodeVarint (field.encode ++ suffix) = .ok (key, (encodeVarint field.key).length) ∧
      (key &&& 7).toUInt8 = UInt8.ofNat field.value.wireType ∧
      key >>> 3 = UInt64.ofNat field.number ∧
      (field.encode ++ suffix).drop (encodeVarint field.key).length = field.value.encode ++ suffix := by
  have kind : field.value.wireType ≤ 2 := by
    cases field.value <;> simp [FieldValue.wireType]
  have number : field.key = field.number * 8 + field.value.wireType := rfl
  have bound := small.1
  have word : (UInt64.ofNat field.key).toNat = field.key := by
    rw [UInt64.toNat_ofNat']
    omega
  refine ⟨UInt64.ofNat field.key, ?_, ?_, ?_, ?_⟩
  · rw [WireField.encode, List.append_assoc]
    exact decode_varint_encode (by omega) _
  · apply UInt8.toNat.inj
    have mask : ((7 : UInt64)).toNat = 2 ^ 3 - 1 := by decide
    rw [UInt64.toNat_toUInt8, UInt64.toNat_and, mask, Nat.and_two_pow_sub_one_eq_mod, word,
      UInt8.toNat_ofNat']
    omega
  · apply UInt64.toNat.inj
    have amount : ((3 : UInt64)).toNat % 64 = 3 := by decide
    rw [UInt64.toNat_shiftRight, amount, word, Nat.shiftRight_eq_div_pow, UInt64.toNat_ofNat']
    omega
  · rw [WireField.encode, List.append_assoc]
    exact List.drop_left' rfl

theorem skip_value_encode {field : WireField} (small : SmallField field) (suffix : Bytes) :
    skipValue (field.value.encode ++ suffix) (UInt8.ofNat field.value.wireType) = .ok suffix := by
  have range := small.2
  cases shape : field.value with
  | varint value =>
      rw [shape] at range
      have decoded := decode_varint_encode range suffix
      have kind : UInt8.ofNat (FieldValue.varint value).wireType = 0 := rfl
      rw [skipValue, if_pos kind, FieldValue.encode, decoded]
      simp only [bind, Except.bind]
      rw [List.drop_left' rfl]
  | bytes value =>
      rw [shape] at range
      have decoded := decode_varint_encode range (value ++ suffix)
      have kind : UInt8.ofNat (FieldValue.bytes value).wireType = 2 := rfl
      have length : (UInt64.ofNat value.length).toNat = value.length := by
        rw [UInt64.toNat_ofNat']
        exact Nat.mod_eq_of_lt range
      rw [kind, skipValue, if_neg (by decide), if_neg (by decide), if_pos rfl, FieldValue.encode,
        List.append_assoc, decoded]
      simp only [bind, Except.bind, length]
      rw [List.drop_left' rfl, dropExactly, if_pos (by simp), List.drop_left' rfl]

/-- The field table names the wire type the field is written with. -/
def Admits (allowed : List (UInt64 × UInt8)) (field : WireField) : Prop :=
  checkWireType allowed (UInt64.ofNat field.number) (UInt8.ofNat field.value.wireType) = .ok ()

theorem validate_fields_loop_encode (allowed : List (UInt64 × UInt8)) (fuel : Nat)
    (fields : List WireField) (enough : fields.length ≤ fuel)
    (small : ∀ field ∈ fields, SmallField field) (admitted : ∀ field ∈ fields, Admits allowed field) :
    validateFieldsLoop allowed fuel (encodeFields fields) = .ok () := by
  induction fields generalizing fuel with
  | nil => cases fuel <;> rfl
  | cons field rest induction =>
      cases fuel with
      | zero => simp at enough
      | succ fuel =>
          rcases encode_fields_head field rest with ⟨head, tail, shape⟩
          obtain ⟨key, decoded, kind, number, value⟩ :=
            read_key (small field (by simp)) (encodeFields rest)
          have skipped := skip_value_encode (small field (by simp)) (encodeFields rest)
          have allowedField := admitted field (by simp)
          have inner := induction fuel (by simpa using enough)
            (by intro other member; exact small other (by simp [member]))
            (by intro other member; exact admitted other (by simp [member]))
          rw [Admits] at allowedField
          rw [shape, validateFieldsLoop, ← shape, encode_fields_cons, decoded]
          · simp only [bind, Except.bind, kind, number, value, skipped, allowedField]
            exact inner
          · simp

theorem validate_fields_encode (allowed : List (UInt64 × UInt8)) (fields : List WireField)
    (small : ∀ field ∈ fields, SmallField field) (admitted : ∀ field ∈ fields, Admits allowed field) :
    validateFields (encodeFields fields) allowed = .ok () :=
  validate_fields_loop_encode allowed _ fields (length_le_encode_fields fields) small admitted

/-- The length-delimited fields of a message, under the numbers the validator reads. -/
def delimited (field : WireField) : Option (UInt64 × Bytes) :=
  match field.value with
  | .varint _ => none
  | .bytes value => some (UInt64.ofNat field.number, value)

theorem length_delimited_fields_loop_encode (fuel : Nat) (fields : List WireField)
    (enough : fields.length ≤ fuel) (small : ∀ field ∈ fields, SmallField field) :
    lengthDelimitedFieldsLoop fuel (encodeFields fields) = .ok (fields.filterMap delimited) := by
  induction fields generalizing fuel with
  | nil => cases fuel <;> rfl
  | cons field rest induction =>
      cases fuel with
      | zero => simp at enough
      | succ fuel =>
          rcases encode_fields_head field rest with ⟨head, tail, shape⟩
          obtain ⟨key, decoded, kind, number, value⟩ :=
            read_key (small field (by simp)) (encodeFields rest)
          have skipped := skip_value_encode (small field (by simp)) (encodeFields rest)
          have inner := induction fuel (by simpa using enough)
            (by intro other member; exact small other (by simp [member]))
          have range := (small field (by simp)).2
          rw [shape, lengthDelimitedFieldsLoop, ← shape, encode_fields_cons, decoded]
          · simp only [bind, Except.bind, kind, number, value]
            cases written : field.value with
            | varint payload =>
                have zero : UInt8.ofNat (FieldValue.varint payload).wireType = 0 := rfl
                rw [written, zero] at skipped
                have dropped : delimited field = none := by rw [delimited, written]
                rw [zero, if_pos (Or.inl rfl), skipped, List.filterMap_cons_none dropped]
                exact inner
            | bytes payload =>
                rw [written] at range
                have two : UInt8.ofNat (FieldValue.bytes payload).wireType = 2 := rfl
                have kept : delimited field = some (UInt64.ofNat field.number, payload) := by
                  rw [delimited, written]
                have length : (UInt64.ofNat payload.length).toNat = payload.length := by
                  rw [UInt64.toNat_ofNat']
                  exact Nat.mod_eq_of_lt range
                have lengthRead := decode_varint_encode range (payload ++ encodeFields rest)
                rw [two, if_neg (by decide), if_pos rfl, FieldValue.encode, List.append_assoc,
                  lengthRead, List.filterMap_cons_some kept]
                simp only [length]
                rw [List.drop_left' rfl, if_pos (by simp), List.drop_left' rfl, List.take_left' rfl,
                  inner]
          · simp

theorem length_delimited_fields_encode (fields : List WireField)
    (small : ∀ field ∈ fields, SmallField field) :
    lengthDelimitedFields (encodeFields fields) = .ok (fields.filterMap delimited) :=
  length_delimited_fields_loop_encode _ fields (length_le_encode_fields fields) small

theorem payload_length_le {fields : List WireField} {field : WireField} {value : Bytes}
    (member : field ∈ fields) (written : field.value = .bytes value) :
    value.length ≤ (encodeFields fields).length := by
  obtain ⟨before, behind, rfl⟩ := List.append_of_mem member
  have own : value.length ≤ field.encode.length := by
    simp only [WireField.encode, written, FieldValue.encode, List.length_append]
    omega
  simp only [encodeFields, List.flatMap_append, List.flatMap_cons, List.length_append]
  omega

theorem varint_groups_length_le (fuel value : Nat) : (varintGroups fuel value).length ≤ fuel + 1 := by
  induction fuel generalizing value with
  | zero => exact Nat.le_refl 1
  | succ fuel induction =>
      rw [varintGroups]
      split_ifs
      · exact Nat.succ_le_succ (Nat.zero_le _)
      · exact Nat.succ_le_succ (induction _)

theorem encode_varint_length_le (value : Nat) : (encodeVarint value).length ≤ value + 1 :=
  Nat.le_trans (varint_groups_length_le _ _) (Nat.succ_le_succ (Nat.log2_le_self value))

theorem encode_replicate_length (number : Nat) (field : WireField) :
    (encodeFields (List.replicate number field)).length = number * field.encode.length := by
  simp [encodeFields, List.length_flatMap]

theorem small_fields {fields : List WireField} (total : (encodeFields fields).length < 2 ^ 64)
    (numbers : ∀ field ∈ fields, field.number < 2 ^ 32)
    (scalars : ∀ field ∈ fields, ∀ value, field.value = .varint value → value < 2 ^ 64) :
    ∀ field ∈ fields, SmallField field := by
  intro field member
  refine ⟨numbers field member, ?_⟩
  cases written : field.value with
  | varint value => exact scalars field member value written
  | bytes value => exact Nat.lt_of_le_of_lt (payload_length_le member written) total

theorem mem_varint_field {number value : Nat} {field : WireField}
    (member : field ∈ varintField number value) : field = ⟨number, .varint value⟩ := by
  rw [varintField] at member
  split_ifs at member
  · exact absurd member (by simp)
  · exact List.mem_singleton.mp member

theorem mem_bytes_field {number : Nat} {value : Bytes} {field : WireField}
    (member : field ∈ bytesField number value) : field = ⟨number, .bytes value⟩ := by
  rw [bytesField] at member
  split_ifs at member
  · exact absurd member (by simp)
  · exact List.mem_singleton.mp member

theorem mem_message_field {number : Nat} {message : Option (List WireField)} {field : WireField}
    (member : field ∈ messageField number message) :
    ∃ fields, message = some fields ∧ field = ⟨number, .bytes (encodeFields fields)⟩ := by
  cases message with
  | none => simp [messageField] at member
  | some fields => exact ⟨fields, rfl, by simpa [messageField] using member⟩

/-- What an encoded message of one field table looks like. -/
structure Declared (allowed : List (UInt64 × UInt8)) (fields : List WireField) : Prop where
  numbers : ∀ field ∈ fields, field.number < 2 ^ 32
  scalars : ∀ field ∈ fields, ∀ value, field.value = .varint value → value < 2 ^ 64
  admitted : ∀ field ∈ fields, Admits allowed field

theorem Declared.validated {allowed : List (UInt64 × UInt8)} {fields : List WireField}
    (declared : Declared allowed fields) (total : (encodeFields fields).length < 2 ^ 64) :
    validateFields (encodeFields fields) allowed = .ok () :=
  validate_fields_encode allowed fields (small_fields total declared.numbers declared.scalars)
    declared.admitted

theorem Declared.delimited {allowed : List (UInt64 × UInt8)} {fields : List WireField}
    (declared : Declared allowed fields) (total : (encodeFields fields).length < 2 ^ 64) :
    lengthDelimitedFields (encodeFields fields) = .ok (fields.filterMap delimited) :=
  length_delimited_fields_encode fields (small_fields total declared.numbers declared.scalars)

theorem declared_append {allowed : List (UInt64 × UInt8)} {left right : List WireField}
    (first : Declared allowed left) (second : Declared allowed right) :
    Declared allowed (left ++ right) where
  numbers := by
    intro field member
    exact (List.mem_append.mp member).elim (first.numbers field) (second.numbers field)
  scalars := by
    intro field member
    exact (List.mem_append.mp member).elim (first.scalars field) (second.scalars field)
  admitted := by
    intro field member
    exact (List.mem_append.mp member).elim (first.admitted field) (second.admitted field)

theorem declared_varint {allowed : List (UInt64 × UInt8)} {number value : Nat}
    (small : number < 2 ^ 32) (fits : value < 2 ^ 64)
    (admitted : checkWireType allowed (UInt64.ofNat number) 0 = .ok ()) :
    Declared allowed (varintField number value) where
  numbers := by
    intro field member
    rw [mem_varint_field member]
    exact small
  scalars := by
    intro field member other written
    rw [mem_varint_field member] at written
    cases written
    exact fits
  admitted := by
    intro field member
    rw [mem_varint_field member]
    exact admitted

theorem declared_bytes {allowed : List (UInt64 × UInt8)} {number : Nat} {value : Bytes}
    (small : number < 2 ^ 32) (admitted : checkWireType allowed (UInt64.ofNat number) 2 = .ok ()) :
    Declared allowed (bytesField number value) where
  numbers := by
    intro field member
    rw [mem_bytes_field member]
    exact small
  scalars := by
    intro field member other written
    rw [mem_bytes_field member] at written
    cases written
  admitted := by
    intro field member
    rw [mem_bytes_field member]
    exact admitted

theorem declared_message {allowed : List (UInt64 × UInt8)} {number : Nat}
    {message : Option (List WireField)} (small : number < 2 ^ 32)
    (admitted : checkWireType allowed (UInt64.ofNat number) 2 = .ok ()) :
    Declared allowed (messageField number message) where
  numbers := by
    intro field member
    obtain ⟨fields, -, rfl⟩ := mem_message_field member
    exact small
  scalars := by
    intro field member other written
    obtain ⟨fields, -, rfl⟩ := mem_message_field member
    cases written
  admitted := by
    intro field member
    obtain ⟨fields, -, rfl⟩ := mem_message_field member
    exact admitted

theorem ByteRun.declared (run : ByteRun) : Declared [(4, 2)] run.fields :=
  declared_bytes (by decide) rfl

theorem ViewportSize.declared (viewport : ViewportSize) :
    Declared [(5, 0), (6, 0)] viewport.fields :=
  declared_append (declared_varint (by decide) viewport.columns.toNat_lt rfl)
    (declared_varint (by decide) viewport.rows.toNat_lt rfl)

theorem Marker.declared (marker : Marker) : Declared [(8, 0)] marker.fields :=
  declared_varint (by decide) marker.value.toNat_lt rfl

theorem SessionControl.declared (control : SessionControl) :
    Declared [(10, 0), (11, 2)] control.fields :=
  declared_append
    (declared_varint (by decide)
      (Nat.lt_of_lt_of_le control.kind.toNat_lt (by decide)) rfl)
    (declared_bytes (by decide) rfl)

theorem Instruction.declared (instruction : Instruction) :
    Declared [(2, 2), (3, 2), (7, 2), (9, 2)] instruction.fields :=
  declared_append
    (declared_append
      (declared_append (declared_message (by decide) rfl) (declared_message (by decide) rfl))
      (declared_message (by decide) rfl))
    (declared_message (by decide) rfl)

theorem InstructionBatch.declared (batch : InstructionBatch) : Declared [(1, 2)] batch.fields where
  numbers := by
    intro field member
    obtain ⟨instruction, -, rfl⟩ := List.mem_map.mp member
    change 1 < 2 ^ 32
    decide
  scalars := by
    intro field member value written
    obtain ⟨instruction, -, rfl⟩ := List.mem_map.mp member
    cases written
  admitted := by
    intro field member
    obtain ⟨instruction, -, rfl⟩ := List.mem_map.mp member
    rfl

theorem StateUpdate.declared (update : StateUpdate) : Declared UPDATE_FIELDS update.fields :=
  declared_append
    (declared_append
      (declared_append
        (declared_append
          (declared_append
            (declared_append
              (declared_append
                (declared_varint (by decide) update.protocolVersion.toNat_lt rfl)
                (declared_varint (by decide) update.baseState.toNat_lt rfl))
              (declared_varint (by decide) update.targetState.toNat_lt rfl))
            (declared_varint (by decide) update.acknowledgedState.toNat_lt rfl))
          (declared_varint (by decide) update.discardBefore.toNat_lt rfl))
        (declared_bytes (by decide) rfl))
      (declared_bytes (by decide) rfl))
    (declared_bytes (by decide) rfl)

/-- The delta of an update that fits the decompression limit fits a length field. -/
theorem StateUpdate.delta_length_lt (update : StateUpdate)
    (short : update.encode.length ≤ MAXIMUM_DECOMPRESSED_BYTES) : update.delta.length < 2 ^ 64 := by
  have room : MAXIMUM_DECOMPRESSED_BYTES < 2 ^ 64 := by decide
  by_cases empty : update.delta.isEmpty
  · rw [List.isEmpty_iff.mp empty]
    decide
  · have member : (⟨6, .bytes update.delta⟩ : WireField) ∈ update.fields := by
      simp [StateUpdate.fields, bytesField, empty]
    exact Nat.lt_of_le_of_lt (payload_length_le member rfl) (Nat.lt_of_le_of_lt short room)

theorem for_each_ok {Item Error : Type} {items : List Item} {check : Item → Except Error Unit}
    (passes : ∀ item ∈ items, check item = .ok ()) : items.forM check = .ok () := by
  induction items with
  | nil => rfl
  | cons item rest induction =>
      rw [List.forM, passes item (by simp)]
      apply induction
      intro other member
      exact passes other (by simp [member])

theorem instruction_field_valid {instruction : Instruction} {number : UInt64} {value : Bytes}
    (total : (encodeFields instruction.fields).length < 2 ^ 64)
    (member : (number, value) ∈ instruction.fields.filterMap delimited) :
    validateInstructionField number value = .ok () := by
  obtain ⟨field, inside, found⟩ := List.mem_filterMap.mp member
  have short (payload : Bytes) (written : field.value = .bytes payload) : payload.length < 2 ^ 64 :=
    Nat.lt_of_le_of_lt (payload_length_le inside written) total
  rw [Instruction.fields, List.mem_append, List.mem_append, List.mem_append] at inside
  rcases inside with ((bytes | viewport) | marker) | control
  · obtain ⟨fields, present, rfl⟩ := mem_message_field bytes
    obtain ⟨run, -, rfl⟩ := Option.map_eq_some_iff.mp present
    cases found
    exact run.declared.validated (short _ rfl)
  · obtain ⟨fields, present, rfl⟩ := mem_message_field viewport
    obtain ⟨size, -, rfl⟩ := Option.map_eq_some_iff.mp present
    cases found
    exact size.declared.validated (short _ rfl)
  · obtain ⟨fields, present, rfl⟩ := mem_message_field marker
    obtain ⟨echo, -, rfl⟩ := Option.map_eq_some_iff.mp present
    cases found
    exact echo.declared.validated (short _ rfl)
  · obtain ⟨fields, present, rfl⟩ := mem_message_field control
    obtain ⟨message, -, rfl⟩ := Option.map_eq_some_iff.mp present
    cases found
    exact message.declared.validated (short _ rfl)

theorem validate_instruction_encode {instruction : Instruction}
    (total : (encodeFields instruction.fields).length < 2 ^ 64) :
    validateInstruction (encodeFields instruction.fields) = .ok () := by
  have valid := instruction.declared.validated total
  have listed := instruction.declared.delimited total
  rw [validateInstruction, valid, listed]
  apply for_each_ok
  intro entry member
  exact instruction_field_valid total member

/-- The validator accepts every batch the encoder writes. -/
theorem validate_batch_encode {batch : InstructionBatch} (total : batch.encodeBytes.length < 2 ^ 64) :
    validateInstructionBatch batch.encodeBytes = .ok () := by
  have valid := batch.declared.validated total
  have listed := batch.declared.delimited total
  have values : lengthDelimitedValues batch.encodeBytes [(1, 2)] =
      .ok (batch.instructions.map fun instruction => encodeFields instruction.fields) := by
    rw [lengthDelimitedValues, InstructionBatch.encodeBytes, valid, listed]
    simp only [bind, Except.bind, InstructionBatch.fields, List.filterMap_map]
    have found : delimited ∘ (fun instruction : Instruction =>
        (⟨1, .bytes (encodeFields instruction.fields)⟩ : WireField)) =
        some ∘ fun instruction => (1, encodeFields instruction.fields) := rfl
    rw [found, List.filterMap_eq_map, List.filter_eq_self.mpr, List.map_map]
    · rfl
    · intro entry member
      obtain ⟨instruction, -, rfl⟩ := List.mem_map.mp member
      rfl
  rw [validateInstructionBatch, values]
  apply for_each_ok
  intro encoded member
  obtain ⟨instruction, inside, rfl⟩ := List.mem_map.mp member
  apply validate_instruction_encode
  have written : (⟨1, .bytes (encodeFields instruction.fields)⟩ : WireField) ∈ batch.fields :=
    List.mem_map_of_mem inside
  exact Nat.lt_of_le_of_lt (payload_length_le written rfl) total

section Codec

variable {codec : Codec} (lawful : LawfulCodec codec)

include lawful

theorem decode_instructions_encode {update : StateUpdate} {batch : InstructionBatch}
    (written : update.delta = batch.encodeBytes) (total : batch.encodeBytes.length < 2 ^ 64) :
    update.decodeInstructions codec = .ok batch := by
  rw [StateUpdate.decodeInstructions, written, validate_batch_encode total]
  simp only [bind, Except.bind, lawful.decode_batch]

/-- An encoded update of at most 16 MiB that carries an encoded batch decodes to itself. -/
theorem decode_compressed_update {update : StateUpdate} {batch : InstructionBatch}
    {compressed : Bytes} (version : update.protocolVersion = PROTOCOL_VERSION)
    (written : update.delta = batch.encodeBytes)
    (short : update.encode.length ≤ MAXIMUM_DECOMPRESSED_BYTES)
    (encoded : encodeCompressedUpdate codec update = .ok compressed) :
    decodeCompressedUpdate codec compressed = .ok update := by
  have packed : codec.compress update.encode = some compressed := by
    rw [encodeCompressedUpdate, if_neg (not_not.mpr version)] at encoded
    cases stream : codec.compress update.encode with
    | none => rw [stream] at encoded; cases encoded
    | some bytes => rw [stream] at encoded; cases encoded; rfl
  have room : MAXIMUM_DECOMPRESSED_BYTES < 2 ^ 64 := by decide
  have valid := update.declared.validated (Nat.lt_of_le_of_lt short room)
  have inner := update.delta_length_lt short
  rw [written] at inner
  have read := lawful.read_compress _ _ (MAXIMUM_DECOMPRESSED_BYTES + 1) packed
  rw [List.take_of_length_le (Nat.le_succ_of_le short)] at read
  rw [decodeCompressedUpdate, read]
  simp only
  rw [if_neg (Nat.not_lt.mpr short), StateUpdate.encode, valid]
  have decoded := lawful.decode_update update
  rw [StateUpdate.encode] at decoded
  simp only [bind, Except.bind, decoded]
  rw [if_neg (not_not.mpr version), written, validate_batch_encode inner]

end Codec

end FerrumTty.Wire
