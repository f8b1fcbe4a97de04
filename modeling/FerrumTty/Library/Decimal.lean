import Mathlib.Data.List.TakeWhile

/-!
# Decimal numbers in byte strings

A number is written with its decimal digits and read from the front of a byte string, up to the
first byte that is no digit.
-/

namespace FerrumTty.Decimal

set_option autoImplicit false

def isDigit (byte : UInt8) : Bool := 0x30 ≤ byte && byte ≤ 0x39

def written (value : Nat) : List UInt8 :=
  (Nat.toDigits 10 value).map fun digit => UInt8.ofNat digit.toNat

def valueOf (digits : List UInt8) : Nat :=
  digits.foldl (fun value digit => 10 * value + (digit.toNat - 0x30)) 0

/-- The number at the front of the bytes, and what follows it. -/
def readNumber (bytes : List UInt8) : Option (Nat × List UInt8) :=
  let digits := bytes.takeWhile isDigit
  if digits.isEmpty then none else some (valueOf digits, bytes.dropWhile isDigit)

theorem digit_code {digit : Char} (numeral : digit.isDigit = true) :
    (UInt8.ofNat digit.toNat).toNat = digit.toNat ∧ isDigit (UInt8.ofNat digit.toNat) = true := by
  have bounds : 0x30 ≤ digit.toNat ∧ digit.toNat ≤ 0x39 := by
    simpa [Char.isDigit, UInt32.le_iff_toNat_le] using numeral
  have code : (UInt8.ofNat digit.toNat).toNat = digit.toNat := by
    rw [UInt8.toNat_ofNat']
    omega
  refine ⟨code, ?_⟩
  simp only [isDigit, Bool.and_eq_true, decide_eq_true_eq, UInt8.le_iff_toNat_le, code]
  exact bounds

theorem written_digits (value : Nat) : ∀ byte ∈ written value, isDigit byte = true := by
  intro byte member
  obtain ⟨digit, inside, rfl⟩ := List.mem_map.mp member
  exact (digit_code (Nat.isDigit_of_mem_toDigits (by decide) (by decide) inside)).2

theorem written_ne_nil (value : Nat) : written value ≠ [] := by
  rw [written, Ne, List.map_eq_nil_iff]
  exact Nat.toDigits_ne_nil

theorem value_of_digits (digits : List Char) (all : ∀ digit ∈ digits, digit.isDigit = true)
    (start : Nat) :
    (digits.map fun digit => UInt8.ofNat digit.toNat).foldl
        (fun value digit => 10 * value + (digit.toNat - 0x30)) start =
      Nat.ofDigitChars 10 digits start := by
  induction digits generalizing start with
  | nil => simp
  | cons digit rest induction =>
      have numeral := (digit_code (all digit List.mem_cons_self)).1
      rw [List.map_cons, List.foldl_cons, Nat.ofDigitChars_cons, numeral]
      exact induction (fun other member => all other (List.mem_cons_of_mem _ member)) _

theorem value_of_written (value : Nat) : valueOf (written value) = value := by
  have all : ∀ digit ∈ Nat.toDigits 10 value, digit.isDigit = true :=
    fun digit member => Nat.isDigit_of_mem_toDigits (by decide) (by decide) member
  rw [valueOf, written, value_of_digits _ all, Nat.ofDigitChars_ten_toDigits]

theorem read_written (value : Nat) {stop : UInt8} (ends : isDigit stop = false)
    (rest : List UInt8) :
    readNumber (written value ++ stop :: rest) = some (value, stop :: rest) := by
  have digits := written_digits value
  have front : (written value ++ stop :: rest).takeWhile isDigit = written value := by
    rw [List.takeWhile_append_of_pos digits, List.takeWhile_cons_of_neg (by simp [ends]),
      List.append_nil]
  have back : (written value ++ stop :: rest).dropWhile isDigit = stop :: rest := by
    rw [List.dropWhile_append_of_pos digits, List.dropWhile_cons_of_neg (by simp [ends])]
  have some_digits : (written value).isEmpty = false :=
    List.isEmpty_eq_false_iff.mpr (written_ne_nil value)
  simp only [readNumber, front, back, some_digits, value_of_written]
  rfl

end FerrumTty.Decimal
