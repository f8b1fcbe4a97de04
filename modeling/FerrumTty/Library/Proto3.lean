import Mathlib.Data.List.Basic
import Mathlib.Data.Nat.Log
import Mathlib.Tactic.Ring

/-!
# Proto3 wire format

Varints and the two field shapes a proto3 encoder without packed or fixed-width
fields emits: varint fields and length-delimited ones. `readFields` inverts
`encodeFields`; which field numbers mean what is left to the message types.
-/

namespace FerrumTty.Proto3

set_option autoImplicit false

/-- Seven bits a byte, low bits first; every byte but the last has its top bit set. -/
def varintGroups : Nat → Nat → List UInt8
  | 0, value => [UInt8.ofNat value]
  | fuel + 1, value =>
      if value < 128 then [UInt8.ofNat value]
      else UInt8.ofNat (value % 128 + 128) :: varintGroups fuel (value / 128)

def encodeVarint (value : Nat) : List UInt8 := varintGroups value.log2 value

def readVarint : List UInt8 → Option (Nat × List UInt8)
  | [] => none
  | byte :: rest =>
      if byte.toNat < 128 then some (byte.toNat, rest)
      else do
        let (high, suffix) ← readVarint rest
        some (byte.toNat - 128 + 128 * high, suffix)

inductive FieldValue where
  | varint (value : Nat)
  | bytes (value : List UInt8)
  deriving DecidableEq, Repr

structure WireField where
  number : Nat
  value : FieldValue
  deriving DecidableEq, Repr

def FieldValue.wireType : FieldValue → Nat
  | .varint _ => 0
  | .bytes _ => 2

def FieldValue.encode : FieldValue → List UInt8
  | .varint value => encodeVarint value
  | .bytes value => encodeVarint value.length ++ value

def WireField.key (field : WireField) : Nat := field.number * 8 + field.value.wireType

def WireField.encode (field : WireField) : List UInt8 := encodeVarint field.key ++ field.value.encode

def encodeFields (fields : List WireField) : List UInt8 := fields.flatMap WireField.encode

/-- Scalar fields are left out when they hold the default value. -/
def varintField (number value : Nat) : List WireField :=
  if value = 0 then [] else [⟨number, .varint value⟩]

def bytesField (number : Nat) (value : List UInt8) : List WireField :=
  if value.isEmpty then [] else [⟨number, .bytes value⟩]

def readField (input : List UInt8) : Option (WireField × List UInt8) := do
  let (key, afterKey) ← readVarint input
  if key % 8 = 0 then
    let (value, suffix) ← readVarint afterKey
    some (⟨key / 8, .varint value⟩, suffix)
  else if key % 8 = 2 then
    let (length, afterLength) ← readVarint afterKey
    if length ≤ afterLength.length then
      some (⟨key / 8, .bytes (afterLength.take length)⟩, afterLength.drop length)
    else none
  else none

/-- Reads fields to the end of the input, at most `fuel` of them. -/
def readFieldsLoop : Nat → List UInt8 → Option (List WireField)
  | _, [] => some []
  | 0, _ :: _ => none
  | fuel + 1, input => do
      let (field, suffix) ← readField input
      let fields ← readFieldsLoop fuel suffix
      some (field :: fields)

def readFields (input : List UInt8) : Option (List WireField) := readFieldsLoop input.length input

theorem varint_groups_ne_nil (fuel value : Nat) : varintGroups fuel value ≠ [] := by
  cases fuel with
  | zero => simp [varintGroups]
  | succ fuel =>
      rw [varintGroups]
      split_ifs <;> simp

theorem encode_varint_ne_nil (value : Nat) : encodeVarint value ≠ [] :=
  varint_groups_ne_nil _ _

theorem read_varint_groups (fuel value : Nat) (enough : value < 2 ^ (fuel + 1))
    (suffix : List UInt8) :
    readVarint (varintGroups fuel value ++ suffix) = some (value, suffix) := by
  induction fuel generalizing value with
  | zero =>
      have byte : (UInt8.ofNat value).toNat = value := by
        rw [UInt8.toNat_ofNat']
        omega
      simp only [varintGroups, List.singleton_append, readVarint, byte]
      rw [if_pos (by omega)]
  | succ fuel induction =>
      simp only [varintGroups]
      split_ifs with low
      · have byte : (UInt8.ofNat value).toNat = value := by
          rw [UInt8.toNat_ofNat']
          omega
        simp only [List.singleton_append, readVarint, byte]
        rw [if_pos low]
      · have byte : (UInt8.ofNat (value % 128 + 128)).toNat = value % 128 + 128 := by
          rw [UInt8.toNat_ofNat']
          omega
        have smaller : value / 128 < 2 ^ (fuel + 1) := by
          have bound : 2 ^ (fuel + 1 + 1) = 2 * 2 ^ (fuel + 1) := by ring
          omega
        simp only [List.cons_append, readVarint, byte]
        rw [if_neg (by omega), induction _ smaller]
        simp only [Option.bind_eq_bind, Option.bind_some, Option.some.injEq, Prod.mk.injEq, and_true]
        omega

theorem lt_two_pow_log2 (value : Nat) : value < 2 ^ (value.log2 + 1) := by
  by_cases zero : value = 0
  · subst zero
    decide
  · exact (Nat.log2_lt zero).mp (Nat.lt_succ_self _)

theorem read_varint_encode (value : Nat) (suffix : List UInt8) :
    readVarint (encodeVarint value ++ suffix) = some (value, suffix) :=
  read_varint_groups _ _ (lt_two_pow_log2 value) suffix

theorem read_field_encode (field : WireField) (suffix : List UInt8) :
    readField (field.encode ++ suffix) = some (field, suffix) := by
  obtain ⟨number, value⟩ := field
  simp only [readField, WireField.encode, WireField.key, List.append_assoc, read_varint_encode,
    Option.bind_eq_bind, Option.bind_some]
  cases value with
  | varint value =>
      have wire : (number * 8 + (FieldValue.varint value).wireType) % 8 = 0 := by
        simp [FieldValue.wireType]
      have tag : (number * 8 + (FieldValue.varint value).wireType) / 8 = number := by
        simp [FieldValue.wireType]
      rw [if_pos wire, FieldValue.encode, read_varint_encode, Option.bind_some, tag]
  | bytes value =>
      have wire : (number * 8 + (FieldValue.bytes value).wireType) % 8 = 2 := by
        simp only [FieldValue.wireType]
        omega
      have tag : (number * 8 + (FieldValue.bytes value).wireType) / 8 = number := by
        simp only [FieldValue.wireType]
        omega
      rw [if_neg (by omega), if_pos wire, FieldValue.encode, List.append_assoc, read_varint_encode,
        Option.bind_some, if_pos (by simp), tag]
      simp

theorem field_encode_ne_nil (field : WireField) : field.encode ≠ [] := by
  simp [WireField.encode, encode_varint_ne_nil]

theorem encode_fields_cons (field : WireField) (rest : List WireField) :
    encodeFields (field :: rest) = field.encode ++ encodeFields rest := rfl

theorem encode_fields_head (field : WireField) (rest : List WireField) :
    ∃ head tail, encodeFields (field :: rest) = head :: tail := by
  apply List.exists_cons_of_ne_nil
  rw [encode_fields_cons]
  exact List.append_ne_nil_of_left_ne_nil (field_encode_ne_nil field) _

theorem length_le_encode_fields (fields : List WireField) :
    fields.length ≤ (encodeFields fields).length := by
  induction fields with
  | nil => simp
  | cons field rest induction =>
      have positive := List.length_pos_of_ne_nil (field_encode_ne_nil field)
      simp only [encodeFields, List.flatMap_cons, List.length_append, List.length_cons] at induction ⊢
      omega

theorem read_fields_loop_encode (fuel : Nat) (fields : List WireField) (enough : fields.length ≤ fuel) :
    readFieldsLoop fuel (encodeFields fields) = some fields := by
  induction fields generalizing fuel with
  | nil => cases fuel <;> rfl
  | cons field rest induction =>
      cases fuel with
      | zero => simp at enough
      | succ fuel =>
          rcases encode_fields_head field rest with ⟨head, tail, shape⟩
          rw [shape, readFieldsLoop, ← shape, encode_fields_cons, read_field_encode]
          · simp only [Option.bind_eq_bind, Option.bind_some]
            rw [induction fuel (by simpa using enough)]
            rfl
          · simp

theorem read_fields_encode (fields : List WireField) :
    readFields (encodeFields fields) = some fields :=
  read_fields_loop_encode _ _ (length_le_encode_fields fields)

end FerrumTty.Proto3
