import FerrumTty.Library.WireGrammar
import FerrumTty.Wire.MessageRoundTrip
import Mathlib.Data.List.Nodup

/-!
# The validator and its grammar

The validator walks over bytes that a peer chose. Reading a varint, skipping a value and
taking a field each succeed exactly on what the wire format has at that place, so both
scanners accept the concatenations of fields and cut them at the same places.
-/

namespace FerrumTty.Wire

set_option autoImplicit false

open Crypto WireGrammar

theorem except_bind_ok {Problem First Second : Type} {first : Except Problem First}
    {next : First → Except Problem Second} {result : Second} (bound : first >>= next = .ok result) :
    ∃ value, first = .ok value ∧ next value = .ok result := by
  cases first with
  | error problem => cases bound
  | ok value => exact ⟨value, rfl, bound⟩

/-- A group of seven bits fits where the loop of `decode_varint` puts it. -/
theorem group_fits {payload : UInt64} {index : Nat} (small : index ≤ 9)
    (group : payload.toNat < 128) (tenth : ¬ (index = 9 ∧ payload > 1)) :
    payload.toNat * 2 ^ (7 * index) < 2 ^ 64 := by
  by_cases nine : index = 9
  · have single : payload.toNat ≤ 1 := by
      have bounded : ¬ 1 < payload := fun large => tenth ⟨nine, large⟩
      rw [UInt64.lt_iff_toNat_lt] at bounded
      exact Nat.le_of_not_lt bounded
    rw [nine]
    omega
  · have power : 2 ^ (7 * index) ≤ 2 ^ 56 := Nat.pow_le_pow_right (by decide) (by omega)
    calc payload.toNat * 2 ^ (7 * index) ≤ 127 * 2 ^ 56 := Nat.mul_le_mul (by omega) power
      _ < 2 ^ 64 := by decide

theorem decode_varint_from_sound {index : Nat} {accumulated value : UInt64} {encoded : Bytes}
    {count : Nat} (below : accumulated.toNat < 2 ^ (7 * index))
    (decoded : decodeVarintFrom index accumulated encoded = .ok (value, count)) :
    ∃ bytes rest high, encoded = bytes ++ rest ∧ Varint bytes high ∧
      count = index + bytes.length ∧ count ≤ 10 ∧
      value.toNat = accumulated.toNat + high * 2 ^ (7 * index) := by
  induction encoded generalizing index accumulated with
  | nil => cases decoded
  | cons byte rest induction =>
      rw [decodeVarintFrom] at decoded
      dsimp only at decoded
      split_ifs at decoded with long overflow stops
      · have low : byte.toNat < 128 := (byte_continues_iff byte).mp stops
        have payload : (byte &&& 0x7f).toUInt64.toNat = byte.toNat := by
          rw [byte_payload]
          exact Nat.mod_eq_of_lt low
        have joined := accumulate_group (by omega) below
          (group_fits (by omega) (by rw [payload]; exact low) overflow)
        rw [payload] at joined
        cases decoded
        refine ⟨[byte], rest, byte.toNat, rfl, .last low, rfl, ?_, joined⟩
        omega
      · have high : 128 ≤ byte.toNat := by
          rw [byte_continues_iff] at stops
          exact Nat.le_of_not_lt stops
        have range : byte.toNat < 256 := byte.toNat_lt
        have payload : (byte &&& 0x7f).toUInt64.toNat = byte.toNat - 128 := by
          rw [byte_payload]
          omega
        have joined := accumulate_group (by omega) below
          (group_fits (by omega) (by rw [payload]; omega) overflow)
        rw [payload] at joined
        have power : 2 ^ (7 * (index + 1)) = 128 * 2 ^ (7 * index) := by
          rw [Nat.mul_add, Nat.pow_add, Nat.mul_comm]
        have grown : (byte.toNat - 128) * 2 ^ (7 * index) ≤ 127 * 2 ^ (7 * index) :=
          Nat.mul_le_mul_right _ (by omega)
        obtain ⟨bytes, others, upper, split, varint, size, bound, total⟩ :=
          induction (by rw [joined, power]; omega) decoded
        refine ⟨byte :: bytes, others, byte.toNat - 128 + 128 * upper, ?_, .more high varint, ?_,
          bound, ?_⟩
        · rw [split]
          rfl
        · rw [size, List.length_cons]
          omega
        · rw [total, joined, power]
          ring

theorem decode_varint_from_complete {bytes : Bytes} {high : Nat} (varint : Varint bytes high)
    {index : Nat} {accumulated : UInt64} (below : accumulated.toNat < 2 ^ (7 * index))
    (short : index + bytes.length ≤ 10)
    (fits : accumulated.toNat + high * 2 ^ (7 * index) < 2 ^ 64) (rest : Bytes) :
    decodeVarintFrom index accumulated (bytes ++ rest) =
      .ok (UInt64.ofNat (accumulated.toNat + high * 2 ^ (7 * index)), index + bytes.length) := by
  induction varint generalizing index accumulated with
  | @last byte stops =>
      rw [List.length_singleton] at short
      have same : UInt8.ofNat byte.toNat = byte := UInt8.ofNat_toNat
      have decoded := decode_last_group stops below (by omega)
        (Nat.lt_of_le_of_lt (Nat.le_add_left _ _) fits) rest
      rw [same] at decoded
      exact decoded
  | @more byte tail high continues varint induction =>
      have positive := varint_length_pos varint
      rw [List.length_cons] at short
      have range : byte.toNat < 256 := byte.toNat_lt
      have same : UInt8.ofNat (byte.toNat - 128 + 128) = byte := by
        rw [Nat.sub_add_cancel continues, UInt8.ofNat_toNat]
      have power : 2 ^ (7 * (index + 1)) = 128 * 2 ^ (7 * index) := by
        rw [Nat.mul_add, Nat.pow_add, Nat.mul_comm]
      have parts : (byte.toNat - 128 + 128 * high) * 2 ^ (7 * index) =
          (byte.toNat - 128) * 2 ^ (7 * index) + high * 2 ^ (7 * (index + 1)) := by
        rw [power]
        ring
      have group : (UInt64.ofNat (byte.toNat - 128)).toNat = byte.toNat - 128 := by
        rw [UInt64.toNat_ofNat']
        omega
      have joined := accumulate_group (by omega) below
        (by rw [group]; omega)
      rw [group] at joined
      have grown : (byte.toNat - 128) * 2 ^ (7 * index) ≤ 127 * 2 ^ (7 * index) :=
        Nat.mul_le_mul_right _ (by omega)
      have inner := @decode_inner_group (byte.toNat - 128) index accumulated (by omega) (by omega)
        (tail ++ rest)
      rw [same] at inner
      have later := @induction (index + 1) _ (by rw [joined, power]; omega) (by omega)
        (by rw [joined]; omega)
      rw [List.cons_append, inner, later, joined, parts, List.length_cons, Nat.add_assoc,
        Nat.add_assoc, Nat.add_comm 1]

theorem decode_varint_sound {encoded : Bytes} {value : UInt64} {count : Nat}
    (decoded : decodeVarint encoded = .ok (value, count)) :
    ∃ bytes rest, encoded = bytes ++ rest ∧ Word bytes value.toNat ∧ count = bytes.length := by
  obtain ⟨bytes, rest, high, split, varint, size, short, total⟩ :=
    decode_varint_from_sound (by decide) decoded
  have whole : value.toNat = high := by
    rw [total]
    change 0 + high * 1 = high
    omega
  refine ⟨bytes, rest, split, ⟨by rw [whole]; exact varint, by omega, value.toNat_lt⟩, by omega⟩

theorem decode_varint_complete {bytes : Bytes} {value : Nat} (word : Word bytes value)
    (rest : Bytes) :
    decodeVarint (bytes ++ rest) = .ok (UInt64.ofNat value, bytes.length) := by
  have start : (0 : UInt64).toNat + value * 2 ^ (7 * 0) = value := by
    change 0 + value * 1 = value
    omega
  have decoded := @decode_varint_from_complete bytes value word.varint 0 0 (by decide)
    (by have short := word.short; omega) (by rw [start]; exact word.fits) rest
  rw [start, Nat.zero_add] at decoded
  exact decoded

theorem drop_exactly_sound {count : Nat} {encoded rest : Bytes}
    (dropped : dropExactly count encoded = .ok rest) :
    ∃ bytes, encoded = bytes ++ rest ∧ bytes.length = count := by
  rw [dropExactly] at dropped
  split_ifs at dropped with inside
  cases dropped
  exact ⟨encoded.take count, (List.take_append_drop count encoded).symm,
    List.length_take_of_le inside⟩

theorem drop_exactly_complete (bytes rest : Bytes) :
    dropExactly bytes.length (bytes ++ rest) = .ok rest := by
  rw [dropExactly, if_pos (by simp), List.drop_left' rfl]

theorem skip_value_sound {encoded rest : Bytes} {wireType : UInt8}
    (skipped : skipValue encoded wireType = .ok rest) :
    ∃ payload bytes, encoded = bytes ++ rest ∧ Value wireType.toNat payload bytes := by
  rw [skipValue] at skipped
  split_ifs at skipped with varint fixed64 delimited fixed32
  · obtain ⟨⟨value, count⟩, decoded, dropped⟩ := except_bind_ok skipped
    obtain ⟨bytes, others, split, word, size⟩ := decode_varint_sound decoded
    cases dropped
    refine ⟨[], bytes, ?_, by rw [varint]; exact .varint word⟩
    rw [split, size, List.drop_left' rfl]
  · obtain ⟨bytes, split, size⟩ := drop_exactly_sound skipped
    exact ⟨[], bytes, split, by rw [fixed64]; exact .fixed64 size⟩
  · obtain ⟨⟨length, count⟩, decoded, dropped⟩ := except_bind_ok skipped
    obtain ⟨bytes, others, split, word, size⟩ := decode_varint_sound decoded
    obtain ⟨payload, inner, total⟩ := drop_exactly_sound dropped
    rw [split, size, List.drop_left' rfl] at inner
    refine ⟨payload, bytes ++ payload, by rw [split, inner, List.append_assoc], ?_⟩
    rw [delimited]
    exact .delimited (by rw [total]; exact word)
  · obtain ⟨bytes, split, size⟩ := drop_exactly_sound skipped
    exact ⟨[], bytes, split, by rw [fixed32]; exact .fixed32 size⟩

theorem skip_value_complete {wireType : Nat} {payload bytes : Bytes}
    (value : Value wireType payload bytes) (rest : Bytes) :
    skipValue (bytes ++ rest) (UInt8.ofNat wireType) = .ok rest := by
  cases value with
  | varint word =>
      have kind : UInt8.ofNat 0 = 0 := rfl
      rw [kind, skipValue, if_pos rfl, decode_varint_complete word rest]
      exact congrArg Except.ok (List.drop_left' rfl)
  | fixed64 size =>
      have kind : UInt8.ofNat 1 = 1 := rfl
      rw [kind, skipValue, if_neg (by decide), if_pos rfl, ← size]
      exact drop_exactly_complete bytes rest
  | @delimited length _ word =>
      have fits := word.fits
      have total : (UInt64.ofNat payload.length).toNat = payload.length := by
        rw [UInt64.toNat_ofNat']
        exact Nat.mod_eq_of_lt fits
      have kind : UInt8.ofNat 2 = 2 := rfl
      rw [kind, skipValue, if_neg (by decide), if_neg (by decide), if_pos rfl, List.append_assoc,
        decode_varint_complete word (payload ++ rest)]
      change dropExactly (UInt64.ofNat payload.length).toNat
        ((length ++ (payload ++ rest)).drop length.length) = .ok rest
      rw [total, List.drop_left' rfl]
      exact drop_exactly_complete payload rest
  | fixed32 size =>
      have kind : UInt8.ofNat 5 = 5 := rfl
      rw [kind, skipValue, if_neg (by decide), if_neg (by decide), if_neg (by decide), if_pos rfl,
        ← size]
      exact drop_exactly_complete bytes rest

/-- One round of `validate_fields`. -/
def fieldRound (allowed : List (UInt64 × UInt8)) (remaining : Bytes) : Except MessageError Bytes := do
  let (key, keyBytes) ← decodeVarint remaining
  let wireType := (key &&& 7).toUInt8
  checkWireType allowed (key >>> 3) wireType
  skipValue (remaining.drop keyBytes) wireType

def delimitedRound (encoded : Bytes) : Except MessageError (Option (UInt64 × Bytes) × Bytes) := do
  let (key, keyBytes) ← decodeVarint encoded
  let encoded := encoded.drop keyBytes
  let wireType := (key &&& 7).toUInt8
  if wireType = 0 ∨ wireType = 1 ∨ wireType = 5 then
    let rest ← skipValue encoded wireType
    .ok (none, rest)
  else if wireType = 2 then
    let (length, lengthBytes) ← decodeVarint encoded
    let encoded := encoded.drop lengthBytes
    if length.toNat ≤ encoded.length then
      .ok (some (key >>> 3, encoded.take length.toNat), encoded.drop length.toNat)
    else .error .malformedProtobuf
  else .error .unsupportedWireType

theorem validate_fields_loop_cons (allowed : List (UInt64 × UInt8)) (fuel : Nat) (byte : UInt8)
    (rest : Bytes) :
    validateFieldsLoop allowed (fuel + 1) (byte :: rest) =
      fieldRound allowed (byte :: rest) >>= validateFieldsLoop allowed fuel := by
  rw [validateFieldsLoop, fieldRound]
  · cases decodeVarint (byte :: rest) with
    | error problem => rfl
    | ok read =>
        change (checkWireType allowed (read.1 >>> 3) (read.1 &&& 7).toUInt8 >>= fun _ => _) =
          (checkWireType allowed (read.1 >>> 3) (read.1 &&& 7).toUInt8 >>= fun _ => _) >>= _
        cases checkWireType allowed (read.1 >>> 3) (read.1 &&& 7).toUInt8 with
        | error problem => rfl
        | ok checked => rfl
  · intro empty
    cases empty

theorem length_delimited_fields_loop_cons (fuel : Nat) (byte : UInt8) (rest : Bytes) :
    lengthDelimitedFieldsLoop (fuel + 1) (byte :: rest) =
      delimitedRound (byte :: rest) >>= fun read =>
        lengthDelimitedFieldsLoop fuel read.2 >>= fun values => .ok (read.1.toList ++ values) := by
  rw [lengthDelimitedFieldsLoop, delimitedRound]
  · cases decodeVarint (byte :: rest) with
    | error problem => rfl
    | ok read =>
        simp only [bind, Except.bind]
        split_ifs with skips delimited
        · cases skipValue ((byte :: rest).drop read.2) (read.1 &&& 7).toUInt8 with
          | error problem => rfl
          | ok others =>
              dsimp only
              cases lengthDelimitedFieldsLoop fuel others <;> rfl
        · cases decodeVarint ((byte :: rest).drop read.2) with
          | error problem => rfl
          | ok length =>
              dsimp only
              split_ifs
              · dsimp only
                cases lengthDelimitedFieldsLoop fuel _ <;> rfl
              · rfl
        · rfl
  · intro empty
    cases empty

/-- The two scanners cut off the same field, or both refuse it for the same reason. -/
theorem rounds_agree (encoded : Bytes) :
    (delimitedRound encoded).map Prod.snd = fieldRound [] encoded := by
  rw [delimitedRound, fieldRound]
  cases decodeVarint encoded with
  | error problem => rfl
  | ok read =>
      change Except.map Prod.snd (if (read.1 &&& 7).toUInt8 = 0 ∨ (read.1 &&& 7).toUInt8 = 1 ∨
        (read.1 &&& 7).toUInt8 = 5 then _ else _) =
          skipValue (encoded.drop read.2) (read.1 &&& 7).toUInt8
      split_ifs with skips delimited
      · cases skipValue (encoded.drop read.2) (read.1 &&& 7).toUInt8 <;> rfl
      · rw [delimited, skipValue, if_neg (by decide), if_neg (by decide), if_pos rfl]
        cases decodeVarint (encoded.drop read.2) with
        | error problem => rfl
        | ok length =>
            change Except.map Prod.snd (if length.1.toNat ≤ _ then _ else _) =
              dropExactly length.1.toNat _
            rw [dropExactly]
            split_ifs <;> rfl
      · rw [not_or, not_or] at skips
        rw [skipValue, if_neg skips.1, if_neg skips.2.1, if_neg delimited, if_neg skips.2.2]
        rfl

theorem key_parts (key : UInt64) :
    (key &&& 7).toUInt8.toNat = key.toNat % 8 ∧ (key >>> 3).toNat = key.toNat / 8 := by
  constructor
  · have mask : ((7 : UInt64)).toNat = 2 ^ 3 - 1 := by decide
    rw [UInt64.toNat_toUInt8, UInt64.toNat_and, mask, Nat.and_two_pow_sub_one_eq_mod]
    omega
  · have amount : ((3 : UInt64)).toNat % 64 = 3 := by decide
    rw [UInt64.toNat_shiftRight, amount, Nat.shiftRight_eq_div_pow]

/-- The table of a scanner in the grammar's numbers. -/
def declaredTypes (allowed : List (UInt64 × UInt8)) : List (Nat × Nat) :=
  allowed.map fun entry => (entry.1.toNat, entry.2.toNat)

theorem check_wire_type_iff {allowed : List (UInt64 × UInt8)} (distinct : (allowed.map Prod.fst).Nodup)
    (number : UInt64) (wireType : UInt8) :
    checkWireType allowed number wireType = .ok () ↔
      ∀ entry ∈ allowed, entry.1 = number → wireType = entry.2 := by
  rw [checkWireType]
  cases found : allowed.find? fun entry => entry.1 = number with
  | none =>
      have absent := List.find?_eq_none.mp found
      refine iff_of_true rfl ?_
      intro entry member same
      exact absurd (decide_eq_true same) (absent entry member)
  | some entry =>
      obtain ⟨expectedNumber, expected⟩ := entry
      have here : expectedNumber = number := of_decide_eq_true (List.find?_some found :)
      have member := List.mem_of_find?_eq_some found
      dsimp only
      constructor
      · intro checked other inside same
        split_ifs at checked with differs
        have pair := List.inj_on_of_nodup_map distinct inside member (by rw [same, here])
        rw [pair]
        exact not_not.mp differs
      · intro all
        rw [if_neg (not_not.mpr (all _ member here))]

theorem respects_declared_iff {allowed : List (UInt64 × UInt8)} {key : UInt64} {payload : Bytes} :
    (∀ entry ∈ allowed, entry.1 = key >>> 3 → (key &&& 7).toUInt8 = entry.2) ↔
      Respects (declaredTypes allowed) ⟨key.toNat / 8, key.toNat % 8, payload⟩ := by
  obtain ⟨type, number⟩ := key_parts key
  constructor
  · intro all entry member same
    obtain ⟨known, inside, rfl⟩ := List.mem_map.mp member
    have named : known.1 = key >>> 3 := by
      apply UInt64.toNat.inj
      rw [number]
      exact same.symm
    rw [← all known inside named]
    exact type.symm
  · intro respects known inside named
    apply UInt8.toNat.inj
    rw [type]
    apply respects (known.1.toNat, known.2.toNat) (List.mem_map.mpr ⟨known, inside, rfl⟩)
    rw [named, number]

theorem field_round_sound {allowed : List (UInt64 × UInt8)} {remaining rest : Bytes}
    (taken : fieldRound allowed remaining = .ok rest) :
    ∃ field bytes, remaining = bytes ++ rest ∧ Encodes field bytes ∧
      ((allowed.map Prod.fst).Nodup → Respects (declaredTypes allowed) field) := by
  obtain ⟨⟨key, count⟩, decoded, afterKey⟩ := except_bind_ok taken
  obtain ⟨_, checked, skipped⟩ := except_bind_ok afterKey
  obtain ⟨bytes, others, split, word, size⟩ := decode_varint_sound decoded
  obtain ⟨payload, value, inner, content⟩ := skip_value_sound skipped
  rw [split, size, List.drop_left' rfl] at inner
  rw [(key_parts key).1] at content
  refine ⟨⟨key.toNat / 8, key.toNat % 8, payload⟩, bytes ++ value, ?_, ?_, ?_⟩
  · rw [split, inner, List.append_assoc]
  · refine .intro ?_ content
    change Word bytes (key.toNat / 8 * 8 + key.toNat % 8)
    rw [Nat.div_add_mod']
    exact word
  · intro distinct
    exact respects_declared_iff.mp ((check_wire_type_iff distinct _ _).mp checked)

theorem decode_key {field : Field} {key value : Bytes}
    (word : Word key (field.number * 8 + field.wireType))
    (content : Value field.wireType field.payload value) (rest : Bytes) :
    ∃ read, decodeVarint (key ++ value ++ rest) = .ok (read, key.length) ∧
      (key ++ value ++ rest).drop key.length = value ++ rest ∧
      (read &&& 7).toUInt8 = UInt8.ofNat field.wireType ∧
      read >>> 3 = UInt64.ofNat field.number ∧
      read.toNat / 8 = field.number ∧ read.toNat % 8 = field.wireType := by
  have small := value_wire_type content
  have fits := word.fits
  have whole : (UInt64.ofNat (field.number * 8 + field.wireType)).toNat =
      field.number * 8 + field.wireType := by
    rw [UInt64.toNat_ofNat']
    exact Nat.mod_eq_of_lt fits
  have quotient : (field.number * 8 + field.wireType) / 8 = field.number := by omega
  have remainder : (field.number * 8 + field.wireType) % 8 = field.wireType := by omega
  obtain ⟨type, number⟩ := key_parts (UInt64.ofNat (field.number * 8 + field.wireType))
  refine ⟨UInt64.ofNat (field.number * 8 + field.wireType), ?_, ?_, ?_, ?_, ?_, ?_⟩
  · rw [List.append_assoc]
    exact decode_varint_complete word (value ++ rest)
  · rw [List.append_assoc]
    exact List.drop_left' rfl
  · apply UInt8.toNat.inj
    rw [type, whole, remainder, UInt8.toNat_ofNat']
    omega
  · apply UInt64.toNat.inj
    rw [number, whole, quotient, UInt64.toNat_ofNat']
    omega
  · rw [whole, quotient]
  · rw [whole, remainder]

theorem field_round_complete {allowed : List (UInt64 × UInt8)}
    (distinct : (allowed.map Prod.fst).Nodup) {field : Field} {bytes : Bytes}
    (encodes : Encodes field bytes) (respects : Respects (declaredTypes allowed) field)
    (rest : Bytes) : fieldRound allowed (bytes ++ rest) = .ok rest := by
  cases encodes with
  | @intro key value word content =>
      obtain ⟨read, decoded, dropped, type, number, quotient, remainder⟩ :=
        decode_key word content rest
      have checked : checkWireType allowed (read >>> 3) (read &&& 7).toUInt8 = .ok () := by
        rw [check_wire_type_iff distinct,
          @respects_declared_iff allowed read field.payload, quotient, remainder]
        exact respects
      have skipped := skip_value_complete content rest
      rw [fieldRound, decoded]
      change (checkWireType allowed (read >>> 3) (read &&& 7).toUInt8 >>= fun _ =>
        skipValue ((key ++ value ++ rest).drop key.length) (read &&& 7).toUInt8) = _
      rw [checked, dropped, type]
      exact skipped

theorem field_round_shorter {allowed : List (UInt64 × UInt8)} {remaining rest : Bytes}
    (taken : fieldRound allowed remaining = .ok rest) : rest.length < remaining.length := by
  obtain ⟨field, bytes, split, encodes, _⟩ := field_round_sound taken
  have positive := encodes_length_pos encodes
  rw [split, List.length_append]
  omega

theorem validate_fields_loop_sound {allowed : List (UInt64 × UInt8)}
    (distinct : (allowed.map Prod.fst).Nodup) {fuel : Nat} {encoded : Bytes}
    (accepted : validateFieldsLoop allowed fuel encoded = .ok ()) :
    ∃ fields, Fields encoded fields ∧ ∀ field ∈ fields, Respects (declaredTypes allowed) field := by
  induction fuel generalizing encoded with
  | zero =>
      cases encoded with
      | nil => exact ⟨[], .nil, fun field member => absurd member List.not_mem_nil⟩
      | cons byte rest => cases accepted
  | succ fuel induction =>
      cases encoded with
      | nil => exact ⟨[], .nil, fun field member => absurd member List.not_mem_nil⟩
      | cons byte rest =>
          rw [validate_fields_loop_cons] at accepted
          obtain ⟨next, taken, later⟩ := except_bind_ok accepted
          obtain ⟨field, bytes, split, encodes, respects⟩ := field_round_sound taken
          obtain ⟨fields, others, all⟩ := induction later
          refine ⟨field :: fields, by rw [split]; exact .cons encodes others, ?_⟩
          intro other member
          rcases List.mem_cons.mp member with here | inside
          · rw [here]
            exact respects distinct
          · exact all other inside

/-- Fields are not empty, so the loops meet another byte. -/
theorem encodes_cons {field : Field} {bytes : Bytes} (encodes : Encodes field bytes) (rest : Bytes) :
    ∃ byte others, bytes ++ rest = byte :: others ∧ rest.length ≤ others.length := by
  have positive := encodes_length_pos encodes
  cases bytes with
  | nil => cases positive
  | cons byte more =>
      refine ⟨byte, more ++ rest, rfl, ?_⟩
      rw [List.length_append]
      exact Nat.le_add_left _ _

theorem validate_fields_loop_complete {allowed : List (UInt64 × UInt8)}
    (distinct : (allowed.map Prod.fst).Nodup) {encoded : Bytes} {fields : List Field}
    (made : Fields encoded fields)
    (respects : ∀ field ∈ fields, Respects (declaredTypes allowed) field) {fuel : Nat}
    (enough : encoded.length ≤ fuel) : validateFieldsLoop allowed fuel encoded = .ok () := by
  induction made generalizing fuel with
  | nil => cases fuel <;> rfl
  | @cons field fields bytes rest first others induction =>
      obtain ⟨byte, more, split, shorter⟩ := encodes_cons first rest
      rw [split, List.length_cons] at enough
      cases fuel with
      | zero => omega
      | succ fuel =>
          have taken := field_round_complete distinct first (respects field List.mem_cons_self) rest
          rw [split] at taken
          rw [split, validate_fields_loop_cons, taken]
          exact induction (fun other member => respects other (List.mem_cons_of_mem _ member))
            (by omega)

theorem validate_fields_iff {allowed : List (UInt64 × UInt8)}
    (distinct : (allowed.map Prod.fst).Nodup) (encoded : Bytes) :
    validateFields encoded allowed = .ok () ↔
      ∃ fields, Fields encoded fields ∧ ∀ field ∈ fields, Respects (declaredTypes allowed) field := by
  constructor
  · exact validate_fields_loop_sound distinct
  · intro found
    obtain ⟨fields, made, respects⟩ := found
    exact validate_fields_loop_complete distinct made respects (Nat.le_refl _)

def delimitedEntry (field : Field) : Option (UInt64 × Bytes) :=
  if field.wireType = 2 then some (UInt64.ofNat field.number, field.payload) else none

theorem delimited_round_complete {field : Field} {bytes : Bytes} (encodes : Encodes field bytes)
    (rest : Bytes) : delimitedRound (bytes ++ rest) = .ok (delimitedEntry field, rest) := by
  cases encodes with
  | @intro key value word content =>
      obtain ⟨read, decoded, dropped, type, number, _, _⟩ := decode_key word content rest
      have skipped := skip_value_complete content rest
      rw [delimitedRound, decoded]
      simp only [bind, Except.bind, dropped, type, number]
      obtain ⟨fieldNumber, wireType, payload⟩ := field
      dsimp only at content skipped ⊢
      cases content with
      | varint inner =>
          have kind : UInt8.ofNat 0 = 0 := rfl
          rw [kind] at skipped ⊢
          rw [if_pos (Or.inl rfl), skipped]
          rfl
      | fixed64 size =>
          have kind : UInt8.ofNat 1 = 1 := rfl
          rw [kind] at skipped ⊢
          rw [if_pos (Or.inr (Or.inl rfl)), skipped]
          rfl
      | @delimited length _ inner =>
          have fits := inner.fits
          have total : (UInt64.ofNat payload.length).toNat = payload.length := by
            rw [UInt64.toNat_ofNat']
            exact Nat.mod_eq_of_lt fits
          have kind : UInt8.ofNat 2 = 2 := rfl
          rw [kind, if_neg (by decide), if_pos rfl, List.append_assoc,
            decode_varint_complete inner (payload ++ rest)]
          dsimp only
          rw [total, List.drop_left' rfl, if_pos (by simp), List.take_left' rfl, List.drop_left' rfl]
          rfl
      | fixed32 size =>
          have kind : UInt8.ofNat 5 = 5 := rfl
          rw [kind] at skipped ⊢
          rw [if_pos (Or.inr (Or.inr rfl)), skipped]
          rfl

theorem length_delimited_fields_loop_complete {encoded : Bytes} {fields : List Field}
    (made : Fields encoded fields) {fuel : Nat} (enough : encoded.length ≤ fuel) :
    lengthDelimitedFieldsLoop fuel encoded = .ok (fields.filterMap delimitedEntry) := by
  induction made generalizing fuel with
  | nil => cases fuel <;> rfl
  | @cons field fields bytes rest first others induction =>
      obtain ⟨byte, more, split, shorter⟩ := encodes_cons first rest
      rw [split, List.length_cons] at enough
      cases fuel with
      | zero => omega
      | succ fuel =>
          have taken := delimited_round_complete first rest
          have later := @induction fuel (by omega)
          rw [split] at taken
          rw [split, length_delimited_fields_loop_cons, taken]
          change (lengthDelimitedFieldsLoop fuel rest >>= fun values =>
            .ok ((delimitedEntry field).toList ++ values)) = _
          rw [later]
          cases entry : delimitedEntry field with
          | none => rw [List.filterMap_cons_none entry]; rfl
          | some listed => rw [List.filterMap_cons_some entry]; rfl

theorem length_delimited_fields_eq {encoded : Bytes} {fields : List Field}
    (made : Fields encoded fields) :
    lengthDelimitedFields encoded = .ok (fields.filterMap delimitedEntry) :=
  length_delimited_fields_loop_complete made (Nat.le_refl _)

theorem delimited_round_next {encoded rest : Bytes} {entry : Option (UInt64 × Bytes)}
    (taken : delimitedRound encoded = .ok (entry, rest)) : fieldRound [] encoded = .ok rest := by
  rw [← rounds_agree, taken]
  rfl

theorem length_delimited_fields_loop_sound {fuel : Nat} {encoded : Bytes}
    {values : List (UInt64 × Bytes)} (accepted : lengthDelimitedFieldsLoop fuel encoded = .ok values) :
    ∃ fields, Fields encoded fields := by
  induction fuel generalizing encoded values with
  | zero =>
      cases encoded with
      | nil => exact ⟨[], .nil⟩
      | cons byte rest => cases accepted
  | succ fuel induction =>
      cases encoded with
      | nil => exact ⟨[], .nil⟩
      | cons byte rest =>
          rw [length_delimited_fields_loop_cons] at accepted
          obtain ⟨⟨entry, next⟩, taken, later⟩ := except_bind_ok accepted
          obtain ⟨others, inner, _⟩ := except_bind_ok later
          obtain ⟨field, bytes, split, encodes, _⟩ :=
            field_round_sound (delimited_round_next taken)
          obtain ⟨fields, made⟩ := induction inner
          exact ⟨field :: fields, by rw [split]; exact .cons encodes made⟩

theorem scanners_accept_iff (encoded : Bytes) :
    validateFields encoded [] = .ok () ↔ ∃ values, lengthDelimitedFields encoded = .ok values := by
  constructor
  · intro accepted
    obtain ⟨fields, made, _⟩ := (@validate_fields_iff [] List.nodup_nil encoded).mp accepted
    exact ⟨_, length_delimited_fields_eq made⟩
  · intro accepted
    obtain ⟨values, accepted⟩ := accepted
    obtain ⟨fields, made⟩ := length_delimited_fields_loop_sound accepted
    exact (@validate_fields_iff [] List.nodup_nil encoded).mpr
      ⟨fields, made, fun _ _ _ member => absurd member List.not_mem_nil⟩

/-- A round consumes a byte, so as many rounds as bytes are enough. -/
theorem validate_fields_loop_fuel (allowed : List (UInt64 × UInt8)) {first second : Nat}
    {encoded : Bytes} (firstEnough : encoded.length ≤ first) (secondEnough : encoded.length ≤ second) :
    validateFieldsLoop allowed first encoded = validateFieldsLoop allowed second encoded := by
  induction first generalizing second encoded with
  | zero =>
      rw [List.length_eq_zero_iff.mp (Nat.le_zero.mp firstEnough)]
      cases second <;> rfl
  | succ first induction =>
      cases encoded with
      | nil => cases second <;> rfl
      | cons byte rest =>
          rw [List.length_cons] at firstEnough secondEnough
          cases second with
          | zero => omega
          | succ second =>
              rw [validate_fields_loop_cons, validate_fields_loop_cons]
              cases taken : fieldRound allowed (byte :: rest) with
              | error problem => rfl
              | ok next =>
                  have shorter := field_round_shorter taken
                  rw [List.length_cons] at shorter
                  exact induction (by omega) (by omega)

theorem length_delimited_fields_loop_fuel {first second : Nat} {encoded : Bytes}
    (firstEnough : encoded.length ≤ first) (secondEnough : encoded.length ≤ second) :
    lengthDelimitedFieldsLoop first encoded = lengthDelimitedFieldsLoop second encoded := by
  induction first generalizing second encoded with
  | zero =>
      rw [List.length_eq_zero_iff.mp (Nat.le_zero.mp firstEnough)]
      cases second <;> rfl
  | succ first induction =>
      cases encoded with
      | nil => cases second <;> rfl
      | cons byte rest =>
          rw [List.length_cons] at firstEnough secondEnough
          cases second with
          | zero => omega
          | succ second =>
              rw [length_delimited_fields_loop_cons, length_delimited_fields_loop_cons]
              cases taken : delimitedRound (byte :: rest) with
              | error problem => rfl
              | ok read =>
                  have shorter := field_round_shorter (delimited_round_next taken)
                  rw [List.length_cons] at shorter
                  have later := @induction second read.2 (by omega) (by omega)
                  change (lengthDelimitedFieldsLoop first read.2 >>= _) =
                    (lengthDelimitedFieldsLoop second read.2 >>= _)
                  rw [later]

/-- What the rounds of a scanner leave of its input, one after another. -/
def remainders (round : Bytes → Except MessageError Bytes) : Nat → Bytes → List Bytes
  | 0, _ => []
  | _ + 1, [] => []
  | fuel + 1, byte :: rest =>
      match round (byte :: rest) with
      | .error _ => []
      | .ok next => next :: remainders round fuel next

theorem for_each_all {Item Error : Type} {items : List Item} {check : Item → Except Error Unit}
    (passed : items.forM check = .ok ()) : ∀ item ∈ items, check item = .ok () := by
  induction items with
  | nil => exact fun item member => absurd member List.not_mem_nil
  | cons item rest induction =>
      rw [List.forM] at passed
      obtain ⟨_, first, later⟩ := except_bind_ok passed
      intro other member
      rcases List.mem_cons.mp member with here | inside
      · rw [here]
        exact first
      · exact induction later other inside

/-- The wire types of the known fields in the fields of an instruction. -/
def partTypes (number : Nat) : List (Nat × Nat) :=
  if number = 2 then [(4, 2)]
  else if number = 3 then [(5, 0), (6, 0)]
  else if number = 7 then [(8, 0)]
  else if number = 9 then [(10, 0), (11, 2)]
  else []

def WellFormedPart (number : Nat) (bytes : Bytes) : Prop :=
  ∃ fields, Fields bytes fields ∧ ∀ field ∈ fields, Respects (partTypes number) field

def WellFormedInstruction (bytes : Bytes) : Prop :=
  ∃ fields, Fields bytes fields ∧ ∀ field ∈ fields, field.number ∈ [2, 3, 7, 9] →
    field.wireType = 2 ∧ WellFormedPart field.number field.payload

def WellFormedBatch (bytes : Bytes) : Prop :=
  ∃ fields, Fields bytes fields ∧ ∀ field ∈ fields, field.number = 1 →
    field.wireType = 2 ∧ WellFormedInstruction field.payload

theorem validate_part_iff {number : Nat} (known : number ∈ [2, 3, 7, 9]) (bytes : Bytes) :
    validateInstructionField (UInt64.ofNat number) bytes = .ok () ↔ WellFormedPart number bytes := by
  simp only [List.mem_cons, List.not_mem_nil, or_false] at known
  rcases known with rfl | rfl | rfl | rfl
  · exact @validate_fields_iff [(4, 2)] (by decide) bytes
  · exact @validate_fields_iff [(5, 0), (6, 0)] (by decide) bytes
  · exact @validate_fields_iff [(8, 0)] (by decide) bytes
  · exact @validate_fields_iff [(10, 0), (11, 2)] (by decide) bytes

theorem other_part_valid {number : Nat} (fits : number < 2 ^ 64) (other : number ∉ [2, 3, 7, 9])
    (bytes : Bytes) : validateInstructionField (UInt64.ofNat number) bytes = .ok () := by
  have apart {known : UInt64} (inside : known.toNat ∈ [2, 3, 7, 9]) :
      UInt64.ofNat number ≠ known := by
    intro same
    rw [← same, UInt64.toNat_ofNat', Nat.mod_eq_of_lt fits] at inside
    exact other inside
  rw [validateInstructionField, if_neg (@apart 2 (by decide)), if_neg (@apart 3 (by decide)),
    if_neg (@apart 7 (by decide)), if_neg (@apart 9 (by decide))]

theorem fields_numbers {bytes : Bytes} {fields : List Field} (made : Fields bytes fields) :
    ∀ field ∈ fields, field.number < 2 ^ 64 := by
  induction made with
  | nil => exact fun field member => absurd member List.not_mem_nil
  | @cons field fields bytes rest first others induction =>
      intro other member
      rcases List.mem_cons.mp member with here | inside
      · rw [here]
        cases first with
        | intro word content =>
            have fits := word.fits
            omega
      · exact induction other inside

theorem delimited_entry_mem {fields : List Field} {entry : UInt64 × Bytes} :
    entry ∈ fields.filterMap delimitedEntry ↔
      ∃ field ∈ fields, field.wireType = 2 ∧ entry = (UInt64.ofNat field.number, field.payload) := by
  rw [List.mem_filterMap]
  constructor
  · intro found
    obtain ⟨field, member, listed⟩ := found
    rw [delimitedEntry] at listed
    split_ifs at listed with delimited
    exact ⟨field, member, delimited, (Option.some.inj listed).symm⟩
  · intro found
    obtain ⟨field, member, delimited, same⟩ := found
    exact ⟨field, member, by rw [delimitedEntry, if_pos delimited, same]⟩

theorem respects_delimited {numbers : List UInt64} {field : Field} :
    Respects (declaredTypes (numbers.map fun number => (number, 2))) field ↔
      (field.number ∈ numbers.map UInt64.toNat → field.wireType = 2) := by
  constructor
  · intro respects member
    obtain ⟨number, inside, same⟩ := List.mem_map.mp member
    refine respects (number.toNat, 2) (List.mem_map.mpr ⟨(number, 2), ?_, rfl⟩) same.symm
    exact List.mem_map.mpr ⟨number, inside, rfl⟩
  · intro delimited entry member same
    obtain ⟨allowed, inside, rfl⟩ := List.mem_map.mp member
    obtain ⟨number, known, rfl⟩ := List.mem_map.mp inside
    exact delimited (List.mem_map.mpr ⟨number, known, same.symm⟩)

theorem validate_instruction_iff (bytes : Bytes) :
    validateInstruction bytes = .ok () ↔ WellFormedInstruction bytes := by
  have table (field : Field) := @respects_delimited [2, 3, 7, 9] field
  constructor
  · intro accepted
    obtain ⟨_, validated, later⟩ := except_bind_ok accepted
    obtain ⟨fields, made, respects⟩ :=
      (@validate_fields_iff [(2, 2), (3, 2), (7, 2), (9, 2)] (by decide) bytes).mp validated
    obtain ⟨values, listed, checked⟩ := except_bind_ok later
    rw [length_delimited_fields_eq made] at listed
    cases listed
    refine ⟨fields, made, ?_⟩
    intro field member known
    have delimited := (table field).mp (respects field member) known
    refine ⟨delimited, (validate_part_iff known field.payload).mp ?_⟩
    exact for_each_all checked _ (delimited_entry_mem.mpr ⟨field, member, delimited, rfl⟩)
  · intro wellFormed
    obtain ⟨fields, made, known⟩ := wellFormed
    have validated : validateFields bytes [(2, 2), (3, 2), (7, 2), (9, 2)] = .ok () :=
      (@validate_fields_iff [(2, 2), (3, 2), (7, 2), (9, 2)] (by decide) bytes).mpr
        ⟨fields, made, fun field member =>
          (table field).mpr fun inside => (known field member inside).1⟩
    rw [validateInstruction, validated, length_delimited_fields_eq made]
    change (fields.filterMap delimitedEntry).forM _ = (Except.ok () : Except MessageError Unit)
    apply for_each_ok
    intro entry member
    obtain ⟨field, inside, _, rfl⟩ := delimited_entry_mem.mp member
    by_cases named : field.number ∈ [2, 3, 7, 9]
    · exact (validate_part_iff named field.payload).mpr (known field inside named).2
    · exact other_part_valid (fields_numbers made field inside) named field.payload

theorem validate_instruction_batch_iff (bytes : Bytes) :
    validateInstructionBatch bytes = .ok () ↔ WellFormedBatch bytes := by
  have table (field : Field) := @respects_delimited [1] field
  have instructions {fields : List Field} (made : Fields bytes fields)
      (validated : validateFields bytes [(1, 2)] = .ok ()) :
      lengthDelimitedValues bytes [(1, 2)] =
        .ok (((fields.filterMap delimitedEntry).filter fun entry =>
          (entry.1, 2) ∈ [((1 : UInt64), (2 : UInt8))]).map Prod.snd) := by
    rw [lengthDelimitedValues, validated, length_delimited_fields_eq made]
    rfl
  have named {number : Nat} (fits : number < 2 ^ 64) :
      (UInt64.ofNat number, (2 : UInt8)) ∈ [((1 : UInt64), (2 : UInt8))] ↔ number = 1 := by
    rw [List.mem_singleton, Prod.mk.injEq, ← UInt64.toNat_inj, UInt64.toNat_ofNat',
      Nat.mod_eq_of_lt fits]
    exact and_iff_left rfl
  constructor
  · intro accepted
    obtain ⟨values, listed, checked⟩ := except_bind_ok accepted
    obtain ⟨_, validated, _⟩ := except_bind_ok listed
    obtain ⟨fields, made, respects⟩ :=
      (@validate_fields_iff [(1, 2)] (by decide) bytes).mp validated
    rw [instructions made validated] at listed
    cases listed
    refine ⟨fields, made, ?_⟩
    intro field member first
    have delimited := (table field).mp (respects field member) (by rw [first]; decide)
    refine ⟨delimited, (validate_instruction_iff field.payload).mp ?_⟩
    apply for_each_all checked
    refine List.mem_map.mpr ⟨(UInt64.ofNat field.number, field.payload), ?_, rfl⟩
    refine List.mem_filter.mpr ⟨delimited_entry_mem.mpr ⟨field, member, delimited, rfl⟩, ?_⟩
    exact decide_eq_true ((named (fields_numbers made field member)).mpr first)
  · intro wellFormed
    obtain ⟨fields, made, known⟩ := wellFormed
    have validated : validateFields bytes [(1, 2)] = .ok () := by
      refine (@validate_fields_iff [(1, 2)] (by decide) bytes).mpr ⟨fields, made, ?_⟩
      intro field member
      refine (table field).mpr fun inside => (known field member ?_).1
      exact List.mem_singleton.mp inside
    rw [validateInstructionBatch, instructions made validated]
    change List.forM _ validateInstruction = .ok ()
    apply for_each_ok
    intro payload member
    obtain ⟨entry, kept, rfl⟩ := List.mem_map.mp member
    obtain ⟨listed, first⟩ := List.mem_filter.mp kept
    obtain ⟨field, inside, _, rfl⟩ := delimited_entry_mem.mp listed
    have number := (named (fields_numbers made field inside)).mp (of_decide_eq_true first)
    exact (validate_instruction_iff field.payload).mpr (known field inside number).2

/-- The validator accepts exactly its grammar. Its readers stay inside their input, its loops
end within as many rounds as there are bytes, and the two scanners cut at the same places. -/
theorem validator_accepts_grammar (encoded : Bytes) :
    (validateInstructionBatch encoded = .ok () ↔ WellFormedBatch encoded) ∧
    (∀ rest value count, decodeVarint rest = .ok (value, count) → 0 < count ∧ count ≤ rest.length) ∧
    (∀ allowed fuel, encoded.length ≤ fuel →
      validateFieldsLoop allowed fuel encoded = validateFields encoded allowed ∧
      lengthDelimitedFieldsLoop fuel encoded = lengthDelimitedFields encoded) ∧
    (validateFields encoded [] = .ok () ↔ ∃ values, lengthDelimitedFields encoded = .ok values) ∧
    remainders (fieldRound []) encoded.length encoded =
      remainders (fun input => (delimitedRound input).map Prod.snd) encoded.length encoded := by
  refine ⟨validate_instruction_batch_iff encoded, ?_, ?_, scanners_accept_iff encoded, ?_⟩
  · intro rest value count decoded
    obtain ⟨bytes, others, split, word, size⟩ := decode_varint_sound decoded
    rw [size, split, List.length_append]
    exact ⟨varint_length_pos word.varint, Nat.le_add_right _ _⟩
  · intro allowed fuel enough
    exact ⟨validate_fields_loop_fuel allowed enough (Nat.le_refl _),
      length_delimited_fields_loop_fuel enough (Nat.le_refl _)⟩
  · rw [funext rounds_agree]

end FerrumTty.Wire
