import FerrumTty.Wire.Fragment
import Mathlib.Data.Nat.Bitwise

/-!
# Fragments on the wire

`parse` and `encode` invert each other, and `split` succeeds exactly for messages of at most
32768 pieces, which are then the windows of the message in order.
-/

namespace FerrumTty.Wire

set_option autoImplicit false

open Crypto

theorem read_write_word16 (value : UInt16) : readWord16 (writeWord16 value) = value := by
  have bound : value.toNat < 256 ^ 2 := value.toNat_lt
  rw [readWord16, writeWord16, BigEndian.decode_encode_of_lt bound, UInt16.ofNat_toNat]

theorem read_write_word64 (value : UInt64) : readWord64 (writeWord64 value) = value := by
  have bound : value.toNat < 256 ^ 8 := value.toNat_lt
  rw [readWord64, writeWord64, BigEndian.decode_encode_of_lt bound, UInt64.ofNat_toNat]

theorem write_read_word16 {bytes : Bytes} (width : bytes.length = 2) :
    writeWord16 (readWord16 bytes) = bytes := by
  have small := BigEndian.decode_lt bytes
  rw [width] at small
  have kept : (readWord16 bytes).toNat = BigEndian.decode bytes := by
    rw [readWord16, UInt16.toNat_ofNat']
    exact Nat.mod_eq_of_lt small
  rw [writeWord16, kept, ← width, BigEndian.encode_decode]

theorem write_read_word64 {bytes : Bytes} (width : bytes.length = 8) :
    writeWord64 (readWord64 bytes) = bytes := by
  have small := BigEndian.decode_lt bytes
  rw [width] at small
  have kept : (readWord64 bytes).toNat = BigEndian.decode bytes := by
    rw [readWord64, UInt64.toNat_ofNat']
    exact Nat.mod_eq_of_lt small
  rw [writeWord64, kept, ← width, BigEndian.encode_decode]

@[simp] theorem write_word16_length (value : UInt16) : (writeWord16 value).length = 2 :=
  BigEndian.encode_length _ _

@[simp] theorem write_word64_length (value : UInt64) : (writeWord64 value).length = 8 :=
  BigEndian.encode_length _ _

namespace Fragment

theorem index_bits_to_nat (word : UInt16) :
    (word &&& FRAGMENT_INDEX_MASK).toNat = word.toNat % 2 ^ 15 := by
  have mask : FRAGMENT_INDEX_MASK.toNat = 2 ^ 15 - 1 := by decide
  rw [UInt16.toNat_and, mask, Nat.and_two_pow_sub_one_eq_mod]

theorem final_bit_set_iff (word : UInt16) :
    word &&& FINAL_FRAGMENT_BIT ≠ 0 ↔ 2 ^ 15 ≤ word.toNat := by
  have final : FINAL_FRAGMENT_BIT.toNat = 2 ^ 15 := by decide
  have fits : word.toNat < 2 ^ 16 := word.toNat_lt
  have masked : (word &&& FINAL_FRAGMENT_BIT).toNat = (word.toNat / 2 ^ 15 % 2) * 2 ^ 15 := by
    rw [UInt16.toNat_and, final, Nat.and_two_pow, Nat.toNat_testBit]
  have zero : word &&& FINAL_FRAGMENT_BIT = 0 ↔ (word &&& FINAL_FRAGMENT_BIT).toNat = 0 :=
    UInt16.toNat_inj.symm
  rw [ne_eq, zero, masked]
  omega

theorem fragment_word_to_nat (header : FragmentHeader) (small : header.index.toNat < 2 ^ 15) :
    (fragmentWord header).toNat = header.index.toNat + if header.isFinal then 2 ^ 15 else 0 := by
  have masked : (header.index &&& FRAGMENT_INDEX_MASK).toNat = header.index.toNat := by
    rw [index_bits_to_nat, Nat.mod_eq_of_lt small]
  have final : FINAL_FRAGMENT_BIT.toNat = 2 ^ 15 := by decide
  rw [fragmentWord, UInt16.toNat_or, masked]
  split_ifs with last
  · have joined := Nat.two_pow_add_eq_or_of_lt small 1
    rw [Nat.mul_one] at joined
    rw [final, Nat.or_comm, ← joined, Nat.add_comm]
  · simp

theorem fragment_word_index (header : FragmentHeader) (small : header.index.toNat < 2 ^ 15) :
    fragmentWord header &&& FRAGMENT_INDEX_MASK = header.index := by
  apply UInt16.toNat.inj
  rw [index_bits_to_nat, fragment_word_to_nat header small]
  split_ifs <;> omega

theorem fragment_word_final (header : FragmentHeader) (small : header.index.toNat < 2 ^ 15) :
    decide (fragmentWord header &&& FINAL_FRAGMENT_BIT ≠ 0) = header.isFinal := by
  have word := fragment_word_to_nat header small
  rw [Bool.eq_iff_iff, decide_eq_true_iff, final_bit_set_iff, word]
  split_ifs with last
  · simp [last]
  · simpa [last] using small

/-- The index and the final bit read out of a word make up the word again. -/
theorem fragment_word_of_parts (header : FragmentHeader) (word : UInt16)
    (index : header.index = word &&& FRAGMENT_INDEX_MASK)
    (final : header.isFinal = decide (word &&& FINAL_FRAGMENT_BIT ≠ 0)) :
    fragmentWord header = word := by
  have fits : word.toNat < 2 ^ 16 := word.toNat_lt
  have number : header.index.toNat = word.toNat % 2 ^ 15 := by rw [index, index_bits_to_nat]
  have small : header.index.toNat < 2 ^ 15 := by omega
  apply UInt16.toNat.inj
  rw [fragment_word_to_nat header small, number, final]
  by_cases high : 2 ^ 15 ≤ word.toNat
  · rw [if_pos (decide_eq_true ((final_bit_set_iff word).mpr high))]
    omega
  · rw [if_neg (by rwa [decide_eq_true_iff, final_bit_set_iff])]
    omega

/-- What `encode` writes, `parse` reads back: the index fits its fifteen bits and the body
is not larger than a received one may be. -/
theorem parse_encode (fragment : Fragment) (small : fragment.header.index.toNat < 2 ^ 15)
    (fits : fragment.body.length ≤ MAX_RECEIVED_FRAGMENT_BODY_BYTES) :
    parse fragment.encode = .ok fragment := by
  obtain ⟨header, body⟩ := fragment
  have word := fragment_word_index header small
  have final := fragment_word_final header small
  have longEnough : ¬ (Fragment.mk header body).encode.length < FRAGMENT_HEADER_BYTES := by
    simp [encode, FRAGMENT_HEADER_BYTES]
    omega
  have start : (Fragment.mk header body).encode = writeWord16 header.sentTimestamp ++
      (writeWord16 header.echoedTimestamp ++ (writeWord64 header.stateId ++
        (writeWord16 (fragmentWord header) ++ body))) := by
    simp only [encode, List.append_assoc]
  have sent : (Fragment.mk header body).encode.take 2 = writeWord16 header.sentTimestamp := by
    rw [start]
    exact List.take_left' (write_word16_length _)
  have echoed : ((Fragment.mk header body).encode.drop 2).take 2 =
      writeWord16 header.echoedTimestamp := by
    rw [start, List.drop_left' (write_word16_length _)]
    exact List.take_left' (write_word16_length _)
  have stateId : ((Fragment.mk header body).encode.drop 4).take 8 = writeWord64 header.stateId := by
    have split : (Fragment.mk header body).encode.drop 4 =
        ((Fragment.mk header body).encode.drop 2).drop 2 := by rw [List.drop_drop]
    rw [split, start, List.drop_left' (write_word16_length _), List.drop_left' (write_word16_length _)]
    exact List.take_left' (write_word64_length _)
  have rest : (Fragment.mk header body).encode.drop 12 = writeWord16 (fragmentWord header) ++ body := by
    have split : (Fragment.mk header body).encode.drop 12 =
        (((Fragment.mk header body).encode.drop 2).drop 2).drop 8 := by
      rw [List.drop_drop, List.drop_drop]
    rw [split, start, List.drop_left' (write_word16_length _), List.drop_left' (write_word16_length _),
      List.drop_left' (write_word64_length _)]
  have wordBytes : ((Fragment.mk header body).encode.drop 12).take 2 =
      writeWord16 (fragmentWord header) := by
    rw [rest]
    exact List.take_left' (write_word16_length _)
  have bodyBytes : (Fragment.mk header body).encode.drop FRAGMENT_HEADER_BYTES = body := by
    have split : (Fragment.mk header body).encode.drop FRAGMENT_HEADER_BYTES =
        ((Fragment.mk header body).encode.drop 12).drop 2 := by rw [List.drop_drop]; rfl
    rw [split, rest]
    exact List.drop_left' (write_word16_length _)
  rw [parse, if_neg longEnough]
  simp only [sent, echoed, stateId, wordBytes, bodyBytes, read_write_word16, read_write_word64, word,
    final]
  rw [if_neg (Nat.not_lt.mpr fits)]

/-- The header that the fixed prefix of a plaintext stands for. -/
def prefixHeader (plaintext : Bytes) : FragmentHeader :=
  let fragmentWord := readWord16 ((plaintext.drop 12).take 2)
  { sentTimestamp := readWord16 (plaintext.take 2)
    echoedTimestamp := readWord16 ((plaintext.drop 2).take 2)
    stateId := readWord64 ((plaintext.drop 4).take 8)
    index := fragmentWord &&& FRAGMENT_INDEX_MASK
    isFinal := fragmentWord &&& FINAL_FRAGMENT_BIT ≠ 0 }

theorem parse_eq_ok_iff (plaintext : Bytes) (fragment : Fragment) :
    parse plaintext = .ok fragment ↔
      FRAGMENT_HEADER_BYTES ≤ plaintext.length ∧
        plaintext.length ≤ FRAGMENT_HEADER_BYTES + MAX_RECEIVED_FRAGMENT_BODY_BYTES ∧
        fragment = ⟨prefixHeader plaintext, plaintext.drop FRAGMENT_HEADER_BYTES⟩ := by
  have body : (plaintext.drop FRAGMENT_HEADER_BYTES).length =
      plaintext.length - FRAGMENT_HEADER_BYTES := List.length_drop
  rw [parse]
  by_cases short : plaintext.length < FRAGMENT_HEADER_BYTES
  · simp only [if_pos short, reduceCtorEq, false_iff]
    omega
  · rw [if_neg short]
    by_cases large : (plaintext.drop FRAGMENT_HEADER_BYTES).length > MAX_RECEIVED_FRAGMENT_BODY_BYTES
    · simp only [if_pos large, reduceCtorEq, false_iff]
      omega
    · have bounded : plaintext.length ≤ FRAGMENT_HEADER_BYTES + MAX_RECEIVED_FRAGMENT_BODY_BYTES := by
        omega
      simp only [if_neg large, Except.ok.injEq, Nat.le_of_not_lt short, bounded, true_and]
      exact eq_comm

theorem plaintext_fields (plaintext : Bytes) :
    plaintext = plaintext.take 2 ++ (plaintext.drop 2).take 2 ++ (plaintext.drop 4).take 8 ++
      (plaintext.drop 12).take 2 ++ plaintext.drop FRAGMENT_HEADER_BYTES := by
  have field (start width : Nat) : plaintext.drop start =
      (plaintext.drop start).take width ++ plaintext.drop (start + width) := by
    rw [← List.drop_drop, List.take_append_drop]
  calc
    plaintext = plaintext.take 2 ++ plaintext.drop 2 := (List.take_append_drop 2 plaintext).symm
    _ = plaintext.take 2 ++ ((plaintext.drop 2).take 2 ++ plaintext.drop 4) :=
        congrArg _ (field 2 2)
    _ = plaintext.take 2 ++ (plaintext.drop 2).take 2 ++
          ((plaintext.drop 4).take 8 ++ plaintext.drop 12) := by
        rw [List.append_assoc, ← field 4 8]
    _ = plaintext.take 2 ++ (plaintext.drop 2).take 2 ++ (plaintext.drop 4).take 8 ++
          ((plaintext.drop 12).take 2 ++ plaintext.drop FRAGMENT_HEADER_BYTES) := by
        rw [List.append_assoc _ (List.take 8 _), FRAGMENT_HEADER_BYTES, ← field 12 2]
    _ = _ := (List.append_assoc _ _ _).symm

theorem encode_parse {plaintext : Bytes} {fragment : Fragment}
    (parsed : parse plaintext = .ok fragment) : fragment.encode = plaintext := by
  obtain ⟨longEnough, -, rfl⟩ := (parse_eq_ok_iff plaintext fragment).mp parsed
  have width (start count : Nat) (inside : start + count ≤ FRAGMENT_HEADER_BYTES) :
      ((plaintext.drop start).take count).length = count := by
    rw [List.length_take, List.length_drop]
    omega
  have sent := write_read_word16 (width 0 2 (by decide))
  have echoed := write_read_word16 (width 2 2 (by decide))
  have stateId := write_read_word64 (width 4 8 (by decide))
  have lastField := write_read_word16 (width 12 2 (by decide))
  have word : fragmentWord (prefixHeader plaintext) = readWord16 ((plaintext.drop 12).take 2) :=
    fragment_word_of_parts _ _ rfl rfl
  conv_rhs => rw [plaintext_fields plaintext]
  rw [encode, word, lastField, prefixHeader, stateId, echoed]
  exact congrArg (fun first => first ++ _ ++ _ ++ _ ++ _) sent

/-- Fragments that fit the wire and plaintexts of the received sizes correspond. -/
theorem fragment_codec_bijective :
    (∀ fragment : Fragment, fragment.header.index.toNat < 2 ^ 15 → fragment.body.length ≤ 1300 →
      parse fragment.encode = .ok fragment) ∧
    ∀ plaintext : Bytes,
      ((∃ fragment, parse plaintext = .ok fragment) ↔
        14 ≤ plaintext.length ∧ plaintext.length ≤ 1314) ∧
      ∀ fragment, parse plaintext = .ok fragment →
        fragment.encode = plaintext ∧ fragment.header.index.toNat < 2 ^ 15 ∧
          fragment.body.length ≤ 1300 := by
  refine ⟨parse_encode, fun plaintext => ⟨?_, fun fragment parsed => ?_⟩⟩
  · constructor
    · rintro ⟨fragment, parsed⟩
      obtain ⟨longEnough, bounded, -⟩ := (parse_eq_ok_iff plaintext fragment).mp parsed
      exact ⟨longEnough, bounded⟩
    · rintro ⟨longEnough, bounded⟩
      exact ⟨_, (parse_eq_ok_iff plaintext _).mpr ⟨longEnough, bounded, rfl⟩⟩
  · obtain ⟨longEnough, bounded, rfl⟩ := (parse_eq_ok_iff plaintext fragment).mp parsed
    refine ⟨encode_parse parsed, ?_, ?_⟩
    · rw [prefixHeader, index_bits_to_nat]
      exact Nat.mod_lt _ (by decide)
    · rw [List.length_drop]
      exact Nat.sub_le_iff_le_add'.mpr bounded

def pieceAt (message : Bytes) (sentTimestamp echoedTimestamp : UInt16) (stateId : UInt64)
    (index : Nat) : Fragment where
  header :=
    { sentTimestamp, echoedTimestamp, stateId
      index := UInt16.ofNat index
      isFinal := index + 1 = chunkCount message }
  body := Chunks.window MAX_FRAGMENT_BODY_BYTES message index

def pieces (message : Bytes) (sentTimestamp echoedTimestamp : UInt16) (stateId : UInt64) :
    List Fragment :=
  (List.range (chunkCount message)).map (pieceAt message sentTimestamp echoedTimestamp stateId)

theorem chunk_count_positive (message : Bytes) : 0 < chunkCount message := by
  have room : 0 < MAX_FRAGMENT_BODY_BYTES := by decide
  have inside := (Chunks.lt_count_iff room (max message.length 1) 0).mpr (by
    rw [Nat.zero_mul]
    exact Nat.lt_of_lt_of_le Nat.one_pos (Nat.le_max_right _ _))
  exact inside

theorem chunk_count_of_ne_nil {message : Bytes} (nonempty : message ≠ []) :
    chunkCount message = Chunks.count MAX_FRAGMENT_BODY_BYTES message.length := by
  have positive : 1 ≤ message.length := List.length_pos_of_ne_nil nonempty
  rw [chunkCount, Nat.max_eq_left positive]

theorem chunk_count_eq_one_iff (message : Bytes) :
    chunkCount message = 1 ↔ message.length ≤ MAX_FRAGMENT_BODY_BYTES := by
  have positive := chunk_count_positive message
  have room : 0 < MAX_FRAGMENT_BODY_BYTES := by decide
  have atMost := Chunks.count_le_iff room (max message.length 1) 1
  rw [← chunkCount, Nat.one_mul, Nat.max_le] at atMost
  omega

theorem chunk_count_few_iff (message : Bytes) :
    chunkCount message ≤ 2 ^ 15 ↔ message.length ≤ 32768 * MAX_FRAGMENT_BODY_BYTES := by
  have room : 0 < MAX_FRAGMENT_BODY_BYTES := by decide
  rw [chunkCount, Chunks.count_le_iff room, Nat.max_le]
  exact and_iff_left (by decide)

theorem index_to_nat {index : Nat} (small : index < 2 ^ 15) : (UInt16.ofNat index).toNat = index := by
  rw [UInt16.toNat_ofNat']
  exact Nat.mod_eq_of_lt (by omega)

theorem piece_ok (message : Bytes) (sentTimestamp echoedTimestamp : UInt16) (stateId : UInt64)
    (index : Nat) (small : index < 2 ^ 15) :
    piece message sentTimestamp echoedTimestamp stateId index
        (Chunks.window MAX_FRAGMENT_BODY_BYTES message index) =
      .ok (pieceAt message sentTimestamp echoedTimestamp stateId index) := by
  rw [piece, if_pos (by omega)]
  rfl

theorem split_eq (message : Bytes) (sentTimestamp echoedTimestamp : UInt16) (stateId : UInt64) :
    split message sentTimestamp echoedTimestamp stateId =
      if chunkCount message ≤ 2 ^ 15 then .ok (pieces message sentTimestamp echoedTimestamp stateId)
      else .error .tooManyFragments := by
  have mask : FRAGMENT_INDEX_MASK.toNat + 1 = 2 ^ 15 := by decide
  rw [split, mask]
  by_cases few : chunkCount message ≤ 2 ^ 15
  · rw [if_neg (Nat.not_lt.mpr few), if_pos few]
    by_cases empty : message.isEmpty = true
    · rw [if_pos empty, List.isEmpty_iff.mp empty]
      rfl
    · rw [if_neg empty]
      have nonempty : message ≠ [] := fun nil => empty (by rw [nil]; rfl)
      have counted := chunk_count_of_ne_nil nonempty
      have steps (indices : List Nat) (bounded : ∀ index ∈ indices, index < 2 ^ 15) :
          (indices.mapM fun index => piece message sentTimestamp echoedTimestamp stateId index
            (Chunks.window MAX_FRAGMENT_BODY_BYTES message index)) =
          .ok (indices.map (pieceAt message sentTimestamp echoedTimestamp stateId)) := by
        induction indices with
        | nil => rfl
        | cons index rest induction =>
            rw [List.mapM_cons, piece_ok _ _ _ _ _ (bounded index (by simp)),
              induction (by intro other member; exact bounded other (by simp [member]))]
            rfl
      have enumerated : (Chunks.chunks MAX_FRAGMENT_BODY_BYTES message).zipIdx =
          (List.range (chunkCount message)).map fun index =>
            (Chunks.window MAX_FRAGMENT_BODY_BYTES message index, index) := by
        rw [counted]
        apply List.ext_getElem (by simp)
        intro index left right
        simp [Chunks.chunks]
      rw [enumerated, List.mapM_map]
      apply steps
      intro index member
      exact Nat.lt_of_lt_of_le (List.mem_range.mp member) few
  · rw [if_pos (Nat.lt_of_not_le few), if_neg few]

theorem parse_encode_piece (message : Bytes) (sentTimestamp echoedTimestamp : UInt16)
    (stateId : UInt64) (index : Nat) (small : index < 2 ^ 15) :
    parse (pieceAt message sentTimestamp echoedTimestamp stateId index).encode =
      .ok (pieceAt message sentTimestamp echoedTimestamp stateId index) := by
  apply parse_encode
  · have number : (UInt16.ofNat index).toNat = index := index_to_nat small
    exact number.symm ▸ small
  · have short : (Chunks.window MAX_FRAGMENT_BODY_BYTES message index).length ≤
        MAX_FRAGMENT_BODY_BYTES := by
      rw [Chunks.window_length]
      exact Nat.min_le_left _ _
    exact Nat.le_trans short (by decide)

theorem windows_flatten (message : Bytes) :
    ((List.range (chunkCount message)).map
      (Chunks.window MAX_FRAGMENT_BODY_BYTES message)).flatten = message := by
  rw [Chunks.take_windows]
  apply List.take_of_length_le
  have covered := (Chunks.count_le_iff (by decide)
    (max message.length 1) (chunkCount message)).mp (Nat.le_refl _)
  exact Nat.le_trans (Nat.le_max_left _ _) covered

end Fragment

end FerrumTty.Wire
