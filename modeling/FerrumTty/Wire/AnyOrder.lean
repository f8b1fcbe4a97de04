import FerrumTty.Library.Runs
import FerrumTty.Wire.Reassembly
import Mathlib.Algebra.BigOperators.Group.Finset.Basic
import Mathlib.Algebra.Order.BigOperators.Group.Finset

/-!
# Reassembly in any order

The pieces of one message may arrive in any order and more than once. What the accumulator
holds depends on the set of the pieces that arrived, and it completes the message from the
arrival of the last missing piece on.
-/

namespace FerrumTty.Wire

set_option autoImplicit false

open Crypto Fragment Runs

namespace FragmentAccumulator

/-- A fragment on its way from `encode` through `parse` into the accumulator. -/
def deliver (accumulator : FragmentAccumulator) (fragment : Fragment) :
    Except FragmentError (Option Bytes) × FragmentAccumulator :=
  match Fragment.parse fragment.encode with
  | .error error => (.error error, accumulator)
  | .ok parsed => accumulator.push parsed

/-- The pieces with these indices have arrived, and no others. -/
structure Holds (accumulator : FragmentAccumulator) (stateId : UInt64) (message : Bytes)
    (arrived : Finset Nat) : Prop where
  belongs : accumulator.BelongsTo stateId message
  inside : arrived ⊆ Finset.range (chunkCount message)
  stored : ∀ index < chunkCount message,
    UInt16.ofNat index ∈ accumulator.fragments ↔ index ∈ arrived
  size : accumulator.fragments.len = arrived.card
  final : accumulator.finalIndex.isSome = true ↔ chunkCount message - 1 ∈ arrived
  counted : accumulator.totalBytes =
    ∑ index ∈ arrived, (Chunks.window MAX_FRAGMENT_BODY_BYTES message index).length
  room : message.length ≤ accumulator.maximumMessageBytes

variable {accumulator : FragmentAccumulator} {stateId : UInt64} {message : Bytes}
  {arrived : Finset Nat} {index : Nat}

theorem new_holds {maximumMessageBytes : Nat} (room : message.length ≤ maximumMessageBytes) :
    (new stateId maximumMessageBytes).Holds stateId message ∅ where
  belongs := new_belongs stateId maximumMessageBytes message
  inside := Finset.empty_subset _
  stored := by
    intro index _
    exact iff_of_false (AList.notMem_empty _) (Finset.notMem_empty _)
  size := rfl
  final := iff_of_false (by simp [new]) (Finset.notMem_empty _)
  counted := rfl
  room := room

/-- All windows together are as long as the message. -/
theorem windows_total (message : Bytes) :
    ∑ index ∈ Finset.range (chunkCount message),
      (Chunks.window MAX_FRAGMENT_BODY_BYTES message index).length = message.length := by
  have whole := congrArg List.length (windows_flatten message)
  rw [List.length_flatten, List.map_map] at whole
  exact whole

theorem Holds.complete (holds : accumulator.Holds stateId message arrived) :
    accumulator.tryComplete =
      .ok (if arrived = Finset.range (chunkCount message) then some message else none) := by
  have positive := chunk_count_positive message
  have whole : accumulator.finalIndex.isSome = true ∧
      accumulator.fragments.len = chunkCount message ↔
        arrived = Finset.range (chunkCount message) := by
    rw [holds.final, holds.size]
    constructor
    · intro full
      apply Finset.eq_of_subset_of_card_le holds.inside
      rw [Finset.card_range, full.2]
    · intro full
      rw [full, Finset.mem_range, Finset.card_range]
      exact ⟨by omega, rfl⟩
  rw [holds.belongs.try_complete, if_congr whole rfl rfl]

theorem Holds.marked_holds (holds : accumulator.Holds stateId message arrived)
    (sentTimestamp echoedTimestamp : UInt16) (inside : index < chunkCount message)
    (few : chunkCount message ≤ 2 ^ 15) (known : index ∈ arrived) :
    (accumulator.marked (pieceAt message sentTimestamp echoedTimestamp stateId index)).Holds stateId
      message arrived where
  belongs := holds.belongs.marked_belongs sentTimestamp echoedTimestamp inside few
  inside := holds.inside
  stored := by
    rw [marked_fragments]
    exact holds.stored
  size := by
    rw [marked_fragments]
    exact holds.size
  final := by
    rw [marked]
    split_ifs with last
    · have here : index + 1 = chunkCount message := of_decide_eq_true last
      rw [← here, Nat.add_sub_cancel]
      exact iff_of_true rfl known
    · exact holds.final
  counted := by
    rw [marked_total_bytes]
    exact holds.counted
  room := by
    rw [marked_maximum_message_bytes]
    exact holds.room

/-- A new piece always fits, because the pieces together are the message. -/
theorem Holds.fits (holds : accumulator.Holds stateId message arrived)
    (inside : index < chunkCount message) (new : index ∉ arrived) :
    accumulator.totalBytes + (Chunks.window MAX_FRAGMENT_BODY_BYTES message index).length ≤
      accumulator.maximumMessageBytes := by
  have subset : insert index arrived ⊆ Finset.range (chunkCount message) := by
    intro other member
    rcases Finset.mem_insert.mp member with here | earlier
    · rw [here]
      exact Finset.mem_range.mpr inside
    · exact holds.inside earlier
  have bound : ∑ other ∈ insert index arrived,
      (Chunks.window MAX_FRAGMENT_BODY_BYTES message other).length ≤ message.length := by
    rw [← windows_total message]
    exact Finset.sum_le_sum_of_subset subset
  rw [Finset.sum_insert new, ← holds.counted, Nat.add_comm] at bound
  exact Nat.le_trans bound holds.room

theorem Holds.with_body (holds : accumulator.Holds stateId message arrived)
    (sentTimestamp echoedTimestamp : UInt16) (inside : index < chunkCount message)
    (few : chunkCount message ≤ 2 ^ 15) (new : index ∉ arrived) :
    ((accumulator.marked (pieceAt message sentTimestamp echoedTimestamp stateId index)).withBody
      (UInt16.ofNat index) (Chunks.window MAX_FRAGMENT_BODY_BYTES message index)).Holds stateId message
        (insert index arrived) := by
  have absent : UInt16.ofNat index ∉ accumulator.fragments := by
    intro present
    exact new ((holds.stored index inside).mp present)
  constructor
  · exact (holds.belongs.marked_belongs sentTimestamp echoedTimestamp inside few).with_body inside few
  · intro other member
    rcases Finset.mem_insert.mp member with here | earlier
    · rw [here]
      exact Finset.mem_range.mpr inside
    · exact holds.inside earlier
  · intro other within
    rw [withBody, AList.mem_insert, marked_fragments, Finset.mem_insert, holds.stored other within]
    have same : UInt16.ofNat other = UInt16.ofNat index ↔ other = index := by
      constructor
      · intro equal
        rw [← index_to_nat (Nat.lt_of_lt_of_le within few), equal,
          index_to_nat (Nat.lt_of_lt_of_le inside few)]
      · intro equal
        rw [equal]
    rw [same]
  · rw [withBody, AList.len_insert_of_not_mem (by rw [marked_fragments]; exact absent),
      marked_fragments, holds.size, Finset.card_insert_of_notMem new]
  · change (accumulator.marked _).finalIndex.isSome = true ↔ _
    rw [marked]
    split_ifs with last
    · have here : index + 1 = chunkCount message := of_decide_eq_true last
      rw [← here, Nat.add_sub_cancel]
      exact iff_of_true rfl (Finset.mem_insert_self _ _)
    · have other : chunkCount message - 1 ≠ index := by
        intro equal
        have positive := chunk_count_positive message
        exact last (decide_eq_true (by omega))
      rw [holds.final, Finset.mem_insert, or_iff_right other]
  · rw [withBody, Finset.sum_insert new, marked_total_bytes, holds.counted, Nat.add_comm]
  · change message.length ≤ (accumulator.marked _).maximumMessageBytes
    rw [marked_maximum_message_bytes]
    exact holds.room

theorem Holds.push (holds : accumulator.Holds stateId message arrived)
    (sentTimestamp echoedTimestamp : UInt16) (inside : index < chunkCount message)
    (few : chunkCount message ≤ 2 ^ 15) :
    ∃ after : FragmentAccumulator,
      accumulator.push (pieceAt message sentTimestamp echoedTimestamp stateId index) =
        (.ok (if insert index arrived = Finset.range (chunkCount message) then some message else none),
          after) ∧
      after.Holds stateId message (insert index arrived) := by
  rw [holds.belongs.push_eq_store sentTimestamp echoedTimestamp inside few]
  by_cases known : index ∈ arrived
  · have marked := holds.marked_holds sentTimestamp echoedTimestamp inside few known
    obtain ⟨body, found⟩ := AList.lookup_of_mem ((marked.stored index inside).mpr known)
    have same := (marked.belongs.bodies _ body found).2
    rw [index_to_nat (Nat.lt_of_lt_of_le inside few)] at same
    rw [Finset.insert_eq_of_mem known]
    refine ⟨_, ?_, marked⟩
    rw [store, found]
    dsimp only
    rw [if_pos same, marked.complete]
  · have grown := holds.with_body sentTimestamp echoedTimestamp inside few known
    refine ⟨_, ?_, grown⟩
    rw [store_absent, grown.complete]
    · rw [marked_fragments]
      apply AList.lookup_eq_none.mpr
      intro present
      exact known ((holds.stored index inside).mp present)
    · rw [marked_total_bytes, marked_maximum_message_bytes]
      exact holds.fits inside known

section Arrivals

variable {sentTimestamp echoedTimestamp : UInt16}

theorem mem_pieces_iff {fragment : Fragment} :
    fragment ∈ pieces message sentTimestamp echoedTimestamp stateId ↔
      ∃ index < chunkCount message,
        fragment = pieceAt message sentTimestamp echoedTimestamp stateId index := by
  simp only [pieces, List.mem_map, List.mem_range]
  constructor
  · rintro ⟨index, inside, same⟩
    exact ⟨index, inside, same.symm⟩
  · rintro ⟨index, inside, same⟩
    exact ⟨index, inside, same.symm⟩

def indices (fragments : List Fragment) : Finset Nat :=
  (fragments.map fun fragment => fragment.header.index.toNat).toFinset

theorem indices_concat (fragments : List Fragment) (fragment : Fragment) :
    indices (fragments ++ [fragment]) = insert fragment.header.index.toNat (indices fragments) := by
  ext index
  simp [indices]

theorem indices_full_iff (few : chunkCount message ≤ 2 ^ 15) {fragments : List Fragment}
    (genuine : ∀ fragment ∈ fragments,
      fragment ∈ pieces message sentTimestamp echoedTimestamp stateId) :
    indices fragments = Finset.range (chunkCount message) ↔
      ∀ fragment ∈ pieces message sentTimestamp echoedTimestamp stateId, fragment ∈ fragments := by
  have number (index : Nat) (inside : index < chunkCount message) :
      (UInt16.ofNat index).toNat = index := index_to_nat (Nat.lt_of_lt_of_le inside few)
  constructor
  · intro full fragment member
    obtain ⟨index, inside, same⟩ := mem_pieces_iff.mp member
    have present : index ∈ indices fragments := by
      rw [full]
      exact Finset.mem_range.mpr inside
    obtain ⟨other, listed, named⟩ := List.mem_map.mp (List.mem_toFinset.mp present)
    obtain ⟨place, within, shape⟩ := mem_pieces_iff.mp (genuine other listed)
    have here : place = index := by
      rw [← number place within, ← named, shape]
      rfl
    rw [same, ← here, ← shape]
    exact listed
  · intro all
    ext index
    rw [indices, List.mem_toFinset, List.mem_map, Finset.mem_range]
    constructor
    · rintro ⟨fragment, listed, named⟩
      obtain ⟨place, within, shape⟩ := mem_pieces_iff.mp (genuine fragment listed)
      rw [← named, shape]
      exact (number place within).symm ▸ within
    · intro inside
      exact ⟨_, all _ (mem_pieces_iff.mpr ⟨index, inside, rfl⟩), number index inside⟩

theorem Holds.deliver {fragments : List Fragment} (few : chunkCount message ≤ 2 ^ 15)
    (holds : accumulator.Holds stateId message (indices fragments)) {fragment : Fragment}
    (genuine : fragment ∈ pieces message sentTimestamp echoedTimestamp stateId) :
    ∃ after : FragmentAccumulator, accumulator.deliver fragment =
        (.ok (if indices (fragments ++ [fragment]) = Finset.range (chunkCount message) then some message
          else none), after) ∧
      after.Holds stateId message (indices (fragments ++ [fragment])) := by
  obtain ⟨index, inside, shape⟩ := mem_pieces_iff.mp genuine
  have small := Nat.lt_of_lt_of_le inside few
  have named : fragment.header.index.toNat = index := by
    rw [shape]
    exact index_to_nat small
  rw [indices_concat, named, FragmentAccumulator.deliver, shape,
    parse_encode_piece message sentTimestamp echoedTimestamp stateId index small]
  exact holds.push sentTimestamp echoedTimestamp inside few

theorem holds_run {maximumMessageBytes : Nat} (room : message.length ≤ maximumMessageBytes)
    (few : chunkCount message ≤ 2 ^ 15) {arrivals : List Fragment}
    (genuine : ∀ fragment ∈ arrivals,
      fragment ∈ pieces message sentTimestamp echoedTimestamp stateId) :
    (final deliver (new stateId maximumMessageBytes) arrivals).Holds stateId message
      (indices arrivals) := by
  induction arrivals using List.reverseRecOn with
  | nil => exact new_holds room
  | append_singleton earlier last induction =>
      have holds := induction fun fragment member => genuine fragment (List.mem_append_left _ member)
      obtain ⟨after, delivered, grown⟩ := holds.deliver few (genuine last (by simp))
      rw [final_concat, delivered]
      exact grown

end Arrivals

/-- A message can be split iff it is short enough, and then its fragments are never refused, in
whatever order and however often they arrive. Nothing is completed while one is missing, and
the message from then on. -/
theorem any_order_reassembles (message : Bytes) (sentTimestamp echoedTimestamp : UInt16)
    (stateId : UInt64) :
    (split message sentTimestamp echoedTimestamp stateId = .error .tooManyFragments ↔
      32768 * MAX_FRAGMENT_BODY_BYTES < message.length) ∧
    (message.length ≤ 32768 * MAX_FRAGMENT_BODY_BYTES →
      ∃ fragments, split message sentTimestamp echoedTimestamp stateId = .ok fragments ∧
        ∀ maximumMessageBytes, message.length ≤ maximumMessageBytes →
        ∀ earlier last, (∀ fragment ∈ earlier ++ [last], fragment ∈ fragments) →
          (deliver (final deliver (new stateId maximumMessageBytes) earlier) last).1 =
            .ok (if ∀ fragment ∈ fragments, fragment ∈ earlier ++ [last] then some message
              else none)) := by
  have short := chunk_count_few_iff message
  rw [split_eq]
  constructor
  · rw [← Nat.not_le, ← short]
    split_ifs with few
    · exact iff_of_false (by simp) (not_not.mpr few)
    · exact iff_of_true rfl few
  · intro fits
    have few := short.mpr fits
    rw [if_pos few]
    refine ⟨_, rfl, ?_⟩
    intro maximumMessageBytes bound earlier last genuine
    have holds := holds_run bound few
      (fun fragment member => genuine fragment (List.mem_append_left _ member))
    obtain ⟨after, delivered, _⟩ := holds.deliver few (genuine last (by simp))
    rw [delivered, if_congr (indices_full_iff few genuine) rfl rfl]

def longMessage : Bytes := List.replicate 1300 0x61

/-- A message of two fragments, of which the last one arrives first and twice. -/
theorem late_first_fragment_reassembles :
    ∃ fragments, split longMessage 1 2 7 = .ok fragments ∧
      (deliver (final deliver (new 7 1300) [pieceAt longMessage 1 2 7 1, pieceAt longMessage 1 2 7 1])
        (pieceAt longMessage 1 2 7 0)).1 = .ok (some longMessage) := by
  have length : longMessage.length = 1300 := List.length_replicate
  obtain ⟨fragments, divided, completes⟩ :=
    (any_order_reassembles longMessage 1 2 7).2 (by rw [length]; decide)
  have two : chunkCount longMessage = 2 := by
    rw [chunkCount, length]
    rfl
  have listed : fragments = [pieceAt longMessage 1 2 7 0, pieceAt longMessage 1 2 7 1] := by
    rw [split_eq, two, if_pos (by decide), pieces, two] at divided
    exact (Except.ok.inj divided).symm
  refine ⟨fragments, divided, ?_⟩
  rw [completes 1300 (Nat.le_of_eq length), if_pos]
  · simp [listed]
  · simp [listed]

end FragmentAccumulator

end FerrumTty.Wire
