import Mathlib.Data.List.Induction
import Mathlib.Tactic.Ring

/-!
# Big-endian words

Fixed-width base-256 words, most significant byte first. Nothing here names a
packet or a protocol: a width is a number of bytes and a value is a natural
number, so that every fixed-width integer field of a format uses one round trip.
-/

namespace FerrumTty.BigEndian

set_option autoImplicit false

def encode : Nat → Nat → List UInt8
  | 0, _ => []
  | width + 1, value => encode width (value / 256) ++ [UInt8.ofNat value]

def decode (bytes : List UInt8) : Nat :=
  bytes.foldl (fun value byte => value * 256 + byte.toNat) 0

@[simp] theorem encode_length (width value : Nat) : (encode width value).length = width := by
  induction width generalizing value with
  | zero => rfl
  | succ width induction => simp [encode, induction]

@[simp] theorem decode_nil : decode [] = 0 := rfl

theorem decode_append_singleton (bytes : List UInt8) (byte : UInt8) :
    decode (bytes ++ [byte]) = decode bytes * 256 + byte.toNat := by
  simp [decode]

theorem decode_encode (width value : Nat) :
    decode (encode width value) = value % 256 ^ width := by
  induction width generalizing value with
  | zero => simp [encode, Nat.mod_one]
  | succ width induction =>
      have lastByte : (UInt8.ofNat value).toNat = value % 256 := by simp
      rw [encode, decode_append_singleton, induction, lastByte, pow_succ, Nat.mul_comm (256 ^ width),
        Nat.mod_mul]
      ring

theorem decode_encode_of_lt {width value : Nat} (fits : value < 256 ^ width) :
    decode (encode width value) = value := by
  rw [decode_encode, Nat.mod_eq_of_lt fits]

theorem encode_injective {width left right : Nat} (leftFits : left < 256 ^ width)
    (rightFits : right < 256 ^ width) (same : encode width left = encode width right) :
    left = right := by
  have decoded := congrArg decode same
  rwa [decode_encode_of_lt leftFits, decode_encode_of_lt rightFits] at decoded

theorem decode_lt (bytes : List UInt8) : decode bytes < 256 ^ bytes.length := by
  induction bytes using List.reverseRecOn with
  | nil => exact Nat.one_pos
  | append_singleton bytes byte induction =>
      have small : byte.toNat < 256 := byte.toNat_lt
      rw [decode_append_singleton, List.length_append, List.length_singleton, pow_succ]
      omega

theorem encode_decode (bytes : List UInt8) : encode bytes.length (decode bytes) = bytes := by
  induction bytes using List.reverseRecOn with
  | nil => rfl
  | append_singleton bytes byte induction =>
      have small : byte.toNat < 256 := byte.toNat_lt
      have high : (decode bytes * 256 + byte.toNat) / 256 = decode bytes := by omega
      have low : UInt8.ofNat (decode bytes * 256 + byte.toNat) = byte := by
        apply UInt8.toNat.inj
        rw [UInt8.toNat_ofNat']
        omega
      rw [decode_append_singleton, List.length_append, List.length_singleton, encode, high, induction,
        low]

end FerrumTty.BigEndian
