import Mathlib.Algebra.Order.Group.Nat
import Mathlib.Data.List.Basic

/-!
# The grammar of the protobuf wire format

What a reader has to accept: varints of any length that hold a 64-bit word in at most ten
bytes, the four wire types without groups, and fields one after another. An encoder emits
only some of these; a varint may be longer than it needs to be.
-/

namespace FerrumTty.WireGrammar

set_option autoImplicit false

/-- Seven bits a byte, low bits first; every byte but the last has its top bit set. -/
inductive Varint : List UInt8 → Nat → Prop where
  | last {byte : UInt8} (stops : byte.toNat < 128) : Varint [byte] byte.toNat
  | more {byte : UInt8} {rest : List UInt8} {high : Nat} (continues : 128 ≤ byte.toNat)
      (tail : Varint rest high) : Varint (byte :: rest) (byte.toNat - 128 + 128 * high)

/-- A varint that a reader of 64-bit words takes. -/
structure Word (bytes : List UInt8) (value : Nat) : Prop where
  varint : Varint bytes value
  short : bytes.length ≤ 10
  fits : value < 2 ^ 64

/-- A field as the format has it. The payload is that of a length-delimited field. -/
structure Field where
  number : Nat
  wireType : Nat
  payload : List UInt8

/-- The bytes of a value of a wire type. -/
inductive Value : Nat → List UInt8 → List UInt8 → Prop where
  | varint {bytes : List UInt8} {value : Nat} (word : Word bytes value) : Value 0 [] bytes
  | fixed64 {bytes : List UInt8} (size : bytes.length = 8) : Value 1 [] bytes
  | delimited {length payload : List UInt8} (word : Word length payload.length) :
      Value 2 payload (length ++ payload)
  | fixed32 {bytes : List UInt8} (size : bytes.length = 4) : Value 5 [] bytes

inductive Encodes : Field → List UInt8 → Prop where
  | intro {field : Field} {key value : List UInt8} (word : Word key (field.number * 8 + field.wireType))
      (content : Value field.wireType field.payload value) : Encodes field (key ++ value)

inductive Fields : List UInt8 → List Field → Prop where
  | nil : Fields [] []
  | cons {field : Field} {fields : List Field} {bytes rest : List UInt8}
      (first : Encodes field bytes) (others : Fields rest fields) :
      Fields (bytes ++ rest) (field :: fields)

/-- The wire types of the known fields; other fields may have any. -/
def Respects (declared : List (Nat × Nat)) (field : Field) : Prop :=
  ∀ entry ∈ declared, field.number = entry.1 → field.wireType = entry.2

theorem varint_ne_nil {bytes : List UInt8} {value : Nat} (varint : Varint bytes value) :
    bytes ≠ [] := by
  cases varint with
  | last stops => exact List.cons_ne_nil _ _
  | more continues tail => exact List.cons_ne_nil _ _

theorem varint_length_pos {bytes : List UInt8} {value : Nat} (varint : Varint bytes value) :
    0 < bytes.length :=
  List.length_pos_of_ne_nil (varint_ne_nil varint)

theorem value_wire_type {wireType : Nat} {payload bytes : List UInt8}
    (value : Value wireType payload bytes) : wireType < 8 := by
  cases value <;> decide

theorem encodes_length_pos {field : Field} {bytes : List UInt8} (encodes : Encodes field bytes) :
    0 < bytes.length := by
  cases encodes with
  | intro word content =>
      rw [List.length_append]
      exact Nat.lt_of_lt_of_le (varint_length_pos word.varint) (Nat.le_add_right _ _)

end FerrumTty.WireGrammar
