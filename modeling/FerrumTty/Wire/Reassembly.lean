import FerrumTty.Wire.FragmentCodec
import Mathlib.Data.List.Perm.Subperm

/-!
# Reassembly

An accumulator that only ever saw pieces of one message holds windows of that message,
so it completes that message or nothing. Fed the pieces in order, it completes it with
the last one.
-/

namespace FerrumTty.Wire

set_option autoImplicit false

open Crypto Fragment

namespace FragmentAccumulator

/-- Everything stored belongs to one message. -/
structure BelongsTo (accumulator : FragmentAccumulator) (stateId : UInt64) (message : Bytes) :
    Prop where
  named : accumulator.stateId = stateId
  bodies : ∀ index body, accumulator.fragments.lookup index = some body →
    index.toNat < chunkCount message ∧
      body = Chunks.window MAX_FRAGMENT_BODY_BYTES message index.toNat
  final : ∀ finalIndex, accumulator.finalIndex = some finalIndex →
    finalIndex.toNat + 1 = chunkCount message

theorem new_belongs (stateId : UInt64) (maximumMessageBytes : Nat) (message : Bytes) :
    (new stateId maximumMessageBytes).BelongsTo stateId message where
  named := rfl
  bodies := by
    intro index body found
    cases found
  final := by
    intro finalIndex found
    cases found

/-- Distinct numbers below a bound, as many as the bound, are all of them. -/
theorem perm_range_of_full {numbers : List Nat} {bound : Nat} (distinct : numbers.Nodup)
    (below : ∀ number ∈ numbers, number < bound) (full : numbers.length = bound) :
    numbers.Perm (List.range bound) := by
  have subset : numbers ⊆ List.range bound := by
    intro other member
    exact List.mem_range.mpr (below other member)
  exact (List.subperm_of_subset distinct subset).perm_of_length_le (by rw [List.length_range, full])

variable {accumulator : FragmentAccumulator} {stateId : UInt64} {message : Bytes}

theorem keys_perm_range {count : Nat} (full : accumulator.fragments.len = count)
    (below : ∀ key ∈ accumulator.fragments, key.toNat < count) :
    (accumulator.fragments.keys.map UInt16.toNat).Perm (List.range count) := by
  apply perm_range_of_full
  · exact (AList.keys_nodup _).map fun left right same => UInt16.toNat.inj same
  · intro number member
    obtain ⟨key, present, rfl⟩ := List.mem_map.mp member
    exact below key (AList.mem_keys.mp present)
  · rw [List.length_map, ← AList.len_eq_keys_length, full]

theorem stored_of_full {count : Nat} (full : accumulator.fragments.len = count)
    (below : ∀ key ∈ accumulator.fragments, key.toNat < count) {index : Nat} (inside : index < count) :
    UInt16.ofNat index ∈ accumulator.fragments ∧ (UInt16.ofNat index).toNat = index := by
  have member : index ∈ accumulator.fragments.keys.map UInt16.toNat :=
    (keys_perm_range full below).mem_iff.mpr (List.mem_range.mpr inside)
  obtain ⟨key, present, number⟩ := List.mem_map.mp member
  rw [← number, UInt16.ofNat_toNat]
  exact ⟨AList.mem_keys.mp present, rfl⟩

theorem BelongsTo.lookup_of_full (belongs : accumulator.BelongsTo stateId message)
    (full : accumulator.fragments.len = chunkCount message) {index : Nat}
    (inside : index < chunkCount message) :
    accumulator.fragments.lookup (UInt16.ofNat index) =
      some (Chunks.window MAX_FRAGMENT_BODY_BYTES message index) := by
  have below : ∀ key ∈ accumulator.fragments, key.toNat < chunkCount message := by
    intro key present
    obtain ⟨body, found⟩ := AList.lookup_of_mem present
    exact (belongs.bodies key body found).1
  obtain ⟨present, number⟩ := stored_of_full full below inside
  obtain ⟨body, found⟩ := AList.lookup_of_mem present
  have window := (belongs.bodies _ body found).2
  rw [number] at window
  rw [found, window]

theorem collect_bodies {body : Nat → Bytes} {count : Nat} (found : ∀ index < count,
    accumulator.fragments.lookup (UInt16.ofNat index) = some (body index)) :
    accumulator.collectBodies count = some ((List.range count).map body) := by
  have collected (indices : List Nat) (bounded : ∀ index ∈ indices, index < count) :
      (indices.mapM fun index => accumulator.fragments.lookup (UInt16.ofNat index)) =
        some (indices.map body) := by
    induction indices with
    | nil => rfl
    | cons index rest induction =>
        rw [List.mapM_cons, found index (bounded index (by simp)),
          induction (by intro other member; exact bounded other (by simp [member]))]
        rfl
  apply collected
  intro index member
  exact List.mem_range.mp member

/-- Completion is exact: all pieces are there and the last one is known. -/
theorem BelongsTo.try_complete (belongs : accumulator.BelongsTo stateId message) :
    accumulator.tryComplete =
      .ok (if accumulator.finalIndex.isSome ∧ accumulator.fragments.len = chunkCount message then
        some message else none) := by
  rw [tryComplete]
  cases last : accumulator.finalIndex with
  | none => simp
  | some finalIndex =>
      have final := belongs.final finalIndex last
      dsimp only
      rw [final]
      by_cases full : accumulator.fragments.len = chunkCount message
      · have bodies := collect_bodies fun index inside => belongs.lookup_of_full full inside
        rw [if_neg (not_not.mpr full), bodies, if_pos ⟨rfl, full⟩]
        exact congrArg (fun bytes => Except.ok (some bytes)) (windows_flatten message)
      · rw [if_pos full, if_neg (by simp [full])]

/-- The part of `push` between the index checks and `store`. -/
def marked (accumulator : FragmentAccumulator) (fragment : Fragment) : FragmentAccumulator :=
  if fragment.header.isFinal then { accumulator with finalIndex := some fragment.header.index }
  else accumulator

theorem BelongsTo.marked_belongs (belongs : accumulator.BelongsTo stateId message)
    (sentTimestamp echoedTimestamp : UInt16) {index : Nat} (inside : index < chunkCount message)
    (few : chunkCount message ≤ 2 ^ 15) :
    (accumulator.marked (pieceAt message sentTimestamp echoedTimestamp stateId index)).BelongsTo stateId
      message := by
  have number := index_to_nat (Nat.lt_of_lt_of_le inside few)
  by_cases last : index + 1 = chunkCount message
  · rw [marked, if_pos (by simp [pieceAt, last])]
    refine ⟨belongs.named, belongs.bodies, ?_⟩
    intro finalIndex same
    cases same
    change (UInt16.ofNat index).toNat + 1 = chunkCount message
    rw [number, last]
  · rw [marked, if_neg (by simp [pieceAt, last])]
    exact belongs

theorem push_eq_store {fragment : Fragment} (named : fragment.header.stateId = accumulator.stateId)
    (afterFinal : ∀ finalIndex, accumulator.finalIndex = some finalIndex →
      fragment.header.index ≤ finalIndex)
    (agreeing : fragment.header.isFinal = true → ∀ finalIndex,
      accumulator.finalIndex = some finalIndex → finalIndex = fragment.header.index)
    (beyond : fragment.header.isFinal = true → ∀ stored ∈ accumulator.fragments,
      stored ≤ fragment.header.index) :
    accumulator.push fragment =
      (accumulator.marked fragment).store fragment.header.index fragment.body := by
  have behind : ¬ accumulator.finalIndex.any
      (fun finalIndex => decide (fragment.header.index > finalIndex)) = true := by
    cases known : accumulator.finalIndex with
    | none => simp
    | some finalIndex => simpa using UInt16.not_lt.mpr (afterFinal finalIndex known)
  unfold push
  dsimp only
  rw [if_neg (not_not.mpr named), if_neg behind]
  by_cases last : fragment.header.isFinal = true
  · have conflicting : ¬ accumulator.finalIndex.any
        (fun finalIndex => decide (finalIndex ≠ fragment.header.index)) = true := by
      cases known : accumulator.finalIndex with
      | none => simp
      | some finalIndex => simp [agreeing last finalIndex known]
    have greater : ¬ accumulator.fragments.keys.any
        (fun stored => decide (stored > fragment.header.index)) = true := by
      rw [List.any_eq_true]
      intro found
      obtain ⟨stored, present, above⟩ := found
      exact UInt16.not_lt.mpr (beyond last stored (AList.mem_keys.mp present)) (of_decide_eq_true above)
    rw [if_pos last, if_neg conflicting, if_neg greater, marked, if_pos last]
  · rw [if_neg last, marked, if_neg last]

theorem BelongsTo.push_eq_store (belongs : accumulator.BelongsTo stateId message)
    (sentTimestamp echoedTimestamp : UInt16) {index : Nat} (inside : index < chunkCount message)
    (few : chunkCount message ≤ 2 ^ 15) :
    accumulator.push (pieceAt message sentTimestamp echoedTimestamp stateId index) =
      (accumulator.marked (pieceAt message sentTimestamp echoedTimestamp stateId index)).store
        (UInt16.ofNat index) (Chunks.window MAX_FRAGMENT_BODY_BYTES message index) := by
  have number := index_to_nat (Nat.lt_of_lt_of_le inside few)
  have lastIndex (final : decide (index + 1 = chunkCount message) = true) :
      index + 1 = chunkCount message := of_decide_eq_true final
  apply FragmentAccumulator.push_eq_store belongs.named.symm
  · intro finalIndex known
    have final := belongs.final finalIndex known
    change UInt16.ofNat index ≤ finalIndex
    rw [UInt16.le_iff_toNat_le, number]
    omega
  · intro final finalIndex known
    have agreed := belongs.final finalIndex known
    have last := lastIndex final
    apply UInt16.toNat.inj
    change finalIndex.toNat = (UInt16.ofNat index).toNat
    rw [number]
    omega
  · intro final stored present
    have last := lastIndex final
    obtain ⟨body, known⟩ := AList.lookup_of_mem present
    have bound := (belongs.bodies stored body known).1
    change stored ≤ UInt16.ofNat index
    rw [UInt16.le_iff_toNat_le, number]
    omega

def withBody (accumulator : FragmentAccumulator) (index : UInt16) (body : Bytes) :
    FragmentAccumulator :=
  { accumulator with
    totalBytes := accumulator.totalBytes + body.length
    fragments := accumulator.fragments.insert index body }

theorem store_absent {index : UInt16} {body : Bytes}
    (absent : accumulator.fragments.lookup index = none)
    (fits : accumulator.totalBytes + body.length ≤ accumulator.maximumMessageBytes) :
    accumulator.store index body =
      ((accumulator.withBody index body).tryComplete, accumulator.withBody index body) := by
  rw [store, absent]
  dsimp only
  rw [if_neg (Nat.not_lt.mpr fits)]
  rfl

theorem BelongsTo.with_body (belongs : accumulator.BelongsTo stateId message) {index : Nat}
    (inside : index < chunkCount message) (few : chunkCount message ≤ 2 ^ 15) :
    (accumulator.withBody (UInt16.ofNat index)
      (Chunks.window MAX_FRAGMENT_BODY_BYTES message index)).BelongsTo stateId message := by
  have number := index_to_nat (Nat.lt_of_lt_of_le inside few)
  refine ⟨belongs.named, ?_, belongs.final⟩
  intro other body found
  rw [withBody, AList.lookup_insert_cases] at found
  split_ifs at found with same
  · cases found
    rw [same, number]
    exact ⟨inside, rfl⟩
  · exact belongs.bodies other body found

theorem BelongsTo.store_piece (belongs : accumulator.BelongsTo stateId message) {index : Nat}
    (inside : index < chunkCount message) (few : chunkCount message ≤ 2 ^ 15) {result}
    {after : FragmentAccumulator}
    (stored : accumulator.store (UInt16.ofNat index)
      (Chunks.window MAX_FRAGMENT_BODY_BYTES message index) = (result, after)) :
    after.BelongsTo stateId message ∧
      (result = .ok none ∨ result = .ok (some message) ∨ result = .error .messageTooLarge) := by
  have number := index_to_nat (Nat.lt_of_lt_of_le inside few)
  have complete {held : FragmentAccumulator} (heldBelongs : held.BelongsTo stateId message) :
      held.tryComplete = .ok none ∨ held.tryComplete = .ok (some message) ∨
        held.tryComplete = .error .messageTooLarge := by
    rw [heldBelongs.try_complete]
    split_ifs
    · exact Or.inr (Or.inl rfl)
    · exact Or.inl rfl
  rw [store] at stored
  cases found : accumulator.fragments.lookup (UInt16.ofNat index) with
  | some existing =>
      have same := (belongs.bodies _ existing found).2
      rw [number] at same
      rw [found] at stored
      dsimp only at stored
      rw [if_pos same] at stored
      cases stored
      exact ⟨belongs, complete belongs⟩
  | none =>
      rw [found] at stored
      dsimp only at stored
      split_ifs at stored
      · cases stored
        exact ⟨⟨belongs.named, belongs.bodies, belongs.final⟩, Or.inr (Or.inr rfl)⟩
      · cases stored
        have grown := belongs.with_body inside few
        exact ⟨grown, complete grown⟩

theorem BelongsTo.push_piece (belongs : accumulator.BelongsTo stateId message)
    (sentTimestamp echoedTimestamp : UInt16) {index : Nat} (inside : index < chunkCount message)
    (few : chunkCount message ≤ 2 ^ 15) {result} {after : FragmentAccumulator}
    (pushed : accumulator.push (pieceAt message sentTimestamp echoedTimestamp stateId index) =
      (result, after)) :
    after.BelongsTo stateId message ∧
      (result = .ok none ∨ result = .ok (some message) ∨ result = .error .messageTooLarge) := by
  rw [belongs.push_eq_store sentTimestamp echoedTimestamp inside few] at pushed
  exact (belongs.marked_belongs sentTimestamp echoedTimestamp inside few).store_piece inside few pushed

/-- The pieces before an index have arrived, and no others. -/
structure Received (accumulator : FragmentAccumulator) (stateId : UInt64) (message : Bytes)
    (count : Nat) : Prop where
  belongs : accumulator.BelongsTo stateId message
  below : ∀ index ∈ accumulator.fragments, index.toNat < count
  size : accumulator.fragments.len = count
  open_ended : accumulator.finalIndex = none
  counted : accumulator.totalBytes = min (count * MAX_FRAGMENT_BODY_BYTES) message.length
  room : message.length ≤ accumulator.maximumMessageBytes

theorem new_received {maximumMessageBytes : Nat} (room : message.length ≤ maximumMessageBytes) :
    (new stateId maximumMessageBytes).Received stateId message 0 where
  belongs := new_belongs stateId maximumMessageBytes message
  below := by
    intro index member
    exact absurd member (AList.notMem_empty index)
  size := rfl
  open_ended := rfl
  counted := by simp [new]
  room := room

theorem Received.absent {count : Nat} (received : accumulator.Received stateId message count)
    (inside : count < 2 ^ 15) : accumulator.fragments.lookup (UInt16.ofNat count) = none := by
  rw [AList.lookup_eq_none]
  intro present
  have bound := received.below _ present
  rw [index_to_nat inside] at bound
  exact Nat.lt_irrefl _ bound

@[simp] theorem marked_fragments (fragment : Fragment) :
    (accumulator.marked fragment).fragments = accumulator.fragments := by
  rw [marked]
  split_ifs <;> rfl

@[simp] theorem marked_total_bytes (fragment : Fragment) :
    (accumulator.marked fragment).totalBytes = accumulator.totalBytes := by
  rw [marked]
  split_ifs <;> rfl

@[simp] theorem marked_maximum_message_bytes (fragment : Fragment) :
    (accumulator.marked fragment).maximumMessageBytes = accumulator.maximumMessageBytes := by
  rw [marked]
  split_ifs <;> rfl

theorem Received.push_eq {count : Nat} (received : accumulator.Received stateId message count)
    (sentTimestamp echoedTimestamp : UInt16) (inside : count < chunkCount message)
    (few : chunkCount message ≤ 2 ^ 15) :
    ∃ after : FragmentAccumulator,
      accumulator.push (pieceAt message sentTimestamp echoedTimestamp stateId count) =
        (after.tryComplete, after) ∧
      after.BelongsTo stateId message ∧ after.fragments.len = count + 1 ∧
      (∀ index ∈ after.fragments, index.toNat < count + 1) ∧
      after.finalIndex = (if count + 1 = chunkCount message then some (UInt16.ofNat count) else none) ∧
      after.totalBytes = min ((count + 1) * MAX_FRAGMENT_BODY_BYTES) message.length ∧
      after.maximumMessageBytes = accumulator.maximumMessageBytes := by
  let held := accumulator.marked (pieceAt message sentTimestamp echoedTimestamp stateId count)
  have small := Nat.lt_of_lt_of_le inside few
  have absent : held.fragments.lookup (UInt16.ofNat count) = none := by
    rw [marked_fragments]
    exact received.absent small
  have final : held.finalIndex =
      if count + 1 = chunkCount message then some (UInt16.ofNat count) else none := by
    change (accumulator.marked _).finalIndex = _
    rw [marked, apply_ite finalIndex, received.open_ended]
    simp only [pieceAt, decide_eq_true_eq]
  have grown : held.totalBytes + (Chunks.window MAX_FRAGMENT_BODY_BYTES message count).length =
      min ((count + 1) * MAX_FRAGMENT_BODY_BYTES) message.length := by
    rw [marked_total_bytes, received.counted, Chunks.window_length, Nat.add_mul, Nat.one_mul]
    omega
  have fits : held.totalBytes + (Chunks.window MAX_FRAGMENT_BODY_BYTES message count).length ≤
      held.maximumMessageBytes := by
    rw [grown, marked_maximum_message_bytes]
    exact Nat.le_trans (Nat.min_le_right _ _) received.room
  have belongs : held.BelongsTo stateId message :=
    received.belongs.marked_belongs sentTimestamp echoedTimestamp inside few
  refine ⟨_, ?_, belongs.with_body inside few, ?_, ?_, final, grown, marked_maximum_message_bytes _⟩
  · rw [received.belongs.push_eq_store sentTimestamp echoedTimestamp inside few]
    exact store_absent absent fits
  · rw [withBody, AList.len_insert_of_not_mem (AList.lookup_eq_none.mp absent), marked_fragments,
      received.size]
  · intro index present
    rw [withBody, AList.mem_insert, marked_fragments] at present
    rcases present with here | earlier
    · rw [here, index_to_nat small]
      exact Nat.lt_succ_self count
    · exact Nat.lt_succ_of_lt (received.below index earlier)

theorem Received.push_inner {count : Nat} (received : accumulator.Received stateId message count)
    (sentTimestamp echoedTimestamp : UInt16) (inside : count + 1 < chunkCount message)
    (few : chunkCount message ≤ 2 ^ 15) :
    ∃ after : FragmentAccumulator,
      accumulator.push (pieceAt message sentTimestamp echoedTimestamp stateId count) =
        (.ok none, after) ∧ after.Received stateId message (count + 1) := by
  obtain ⟨after, pushed, belongs, size, below, final, counted, maximum⟩ :=
    received.push_eq sentTimestamp echoedTimestamp (Nat.lt_of_succ_lt inside) few
  rw [if_neg (Nat.ne_of_lt inside)] at final
  refine ⟨after, ?_, ⟨belongs, below, size, final, counted, ?_⟩⟩
  · rw [pushed, belongs.try_complete, if_neg (by simp [final])]
  · rw [maximum]
    exact received.room

theorem Received.push_last {count : Nat} (received : accumulator.Received stateId message count)
    (sentTimestamp echoedTimestamp : UInt16) (last : count + 1 = chunkCount message)
    (few : chunkCount message ≤ 2 ^ 15) :
    ∃ after : FragmentAccumulator,
      accumulator.push (pieceAt message sentTimestamp echoedTimestamp stateId count) =
        (.ok (some message), after) := by
  obtain ⟨after, pushed, belongs, size, -, final, -, -⟩ :=
    received.push_eq sentTimestamp echoedTimestamp (by omega) few
  rw [if_pos last] at final
  refine ⟨after, ?_⟩
  rw [pushed, belongs.try_complete, if_pos (by simp [final, size, last])]

def holding (message : Bytes) (sentTimestamp echoedTimestamp : UInt16) (stateId : UInt64)
    (maximumMessageBytes index : Nat) : FragmentAccumulator :=
  ((new stateId maximumMessageBytes).marked
    (pieceAt message sentTimestamp echoedTimestamp stateId index)).withBody (UInt16.ofNat index)
      (Chunks.window MAX_FRAGMENT_BODY_BYTES message index)

theorem holding_final {sentTimestamp echoedTimestamp : UInt16} {maximumMessageBytes index : Nat} :
    (holding message sentTimestamp echoedTimestamp stateId maximumMessageBytes index).finalIndex =
      if index + 1 = chunkCount message then some (UInt16.ofNat index) else none := by
  change ((new stateId maximumMessageBytes).marked _).finalIndex = _
  rw [marked, apply_ite finalIndex]
  simp only [pieceAt, decide_eq_true_eq]
  rfl

theorem holding_fragments {sentTimestamp echoedTimestamp : UInt16} {maximumMessageBytes index : Nat} :
    (holding message sentTimestamp echoedTimestamp stateId maximumMessageBytes index).fragments =
      AList.insert (UInt16.ofNat index) (Chunks.window MAX_FRAGMENT_BODY_BYTES message index) ∅ := by
  rw [holding, withBody, marked_fragments]
  rfl

theorem push_first (sentTimestamp echoedTimestamp : UInt16) {maximumMessageBytes index : Nat}
    (inside : index < chunkCount message) (few : chunkCount message ≤ 2 ^ 15)
    (several : 1 < chunkCount message) (room : MAX_FRAGMENT_BODY_BYTES ≤ maximumMessageBytes) :
    (new stateId maximumMessageBytes).push
        (pieceAt message sentTimestamp echoedTimestamp stateId index) =
      (.ok none, holding message sentTimestamp echoedTimestamp stateId maximumMessageBytes index) := by
  have belongs := new_belongs stateId maximumMessageBytes message
  have absent : ((new stateId maximumMessageBytes).marked
      (pieceAt message sentTimestamp echoedTimestamp stateId index)).fragments.lookup
        (UInt16.ofNat index) = none := by
    rw [marked_fragments]
    rfl
  have fits : ((new stateId maximumMessageBytes).marked
      (pieceAt message sentTimestamp echoedTimestamp stateId index)).totalBytes +
        (Chunks.window MAX_FRAGMENT_BODY_BYTES message index).length ≤
      ((new stateId maximumMessageBytes).marked
        (pieceAt message sentTimestamp echoedTimestamp stateId index)).maximumMessageBytes := by
    rw [marked_total_bytes, marked_maximum_message_bytes, Chunks.window_length]
    change 0 + min MAX_FRAGMENT_BODY_BYTES (message.length - index * MAX_FRAGMENT_BODY_BYTES) ≤
      maximumMessageBytes
    omega
  have held := (belongs.marked_belongs sentTimestamp echoedTimestamp inside few).with_body inside few
  have size : (holding message sentTimestamp echoedTimestamp stateId maximumMessageBytes
      index).fragments.len = 1 := by
    rw [holding_fragments]
    exact AList.len_insert_of_not_mem (AList.notMem_empty _) _
  rw [belongs.push_eq_store sentTimestamp echoedTimestamp inside few, store_absent absent fits]
  have incomplete := held.try_complete
  rw [if_neg] at incomplete
  · exact Prod.ext incomplete rfl
  · intro complete
    have full : (holding message sentTimestamp echoedTimestamp stateId maximumMessageBytes
      index).fragments.len = chunkCount message := complete.2
    omega

theorem push_conflicting_piece {other : Bytes} {sentTimestamp echoedTimestamp : UInt16}
    (otherSent otherEchoed : UInt16) {maximumMessageBytes index : Nat}
    (apart : Chunks.window MAX_FRAGMENT_BODY_BYTES message index ≠
      Chunks.window MAX_FRAGMENT_BODY_BYTES other index) :
    ((holding message sentTimestamp echoedTimestamp stateId maximumMessageBytes index).push
      (pieceAt other otherSent otherEchoed stateId index)).1 = .error .conflictingDuplicate := by
  have onlyIndex : ∀ finalIndex, (holding message sentTimestamp echoedTimestamp stateId
      maximumMessageBytes index).finalIndex = some finalIndex → finalIndex = UInt16.ofNat index := by
    intro finalIndex known
    rw [holding_final] at known
    split_ifs at known
    exact (Option.some.inj known).symm
  have stored : (holding message sentTimestamp echoedTimestamp stateId maximumMessageBytes index).push
      (pieceAt other otherSent otherEchoed stateId index) =
      ((holding message sentTimestamp echoedTimestamp stateId maximumMessageBytes index).marked
        (pieceAt other otherSent otherEchoed stateId index)).store (UInt16.ofNat index)
          (Chunks.window MAX_FRAGMENT_BODY_BYTES other index) := by
    apply push_eq_store
    · change stateId = ((new stateId maximumMessageBytes).marked _).stateId
      rw [marked]
      split_ifs <;> rfl
    · intro finalIndex known
      rw [onlyIndex finalIndex known]
      exact UInt16.le_refl _
    · intro _ finalIndex known
      exact onlyIndex finalIndex known
    · intro _ key present
      rw [holding_fragments] at present
      rcases (AList.mem_insert _).mp present with here | absent
      · rw [here]
        exact UInt16.le_refl _
      · exact absurd absent (AList.notMem_empty key)
  rw [stored, store, marked_fragments, holding_fragments, AList.lookup_insert]
  dsimp only
  rw [if_neg apart]

theorem push_other_final {fragment : Fragment} {finalIndex : UInt16}
    (named : fragment.header.stateId = accumulator.stateId) (last : fragment.header.isFinal = true)
    (known : accumulator.finalIndex = some finalIndex) (before : fragment.header.index < finalIndex) :
    (accumulator.push fragment).1 = .error .conflictingFinalIndex := by
  have behind : ¬ accumulator.finalIndex.any
      (fun finalIndex => decide (fragment.header.index > finalIndex)) = true := by
    rw [known]
    simpa using UInt16.not_lt.mpr (UInt16.le_of_lt before)
  have other : accumulator.finalIndex.any
      (fun finalIndex => decide (finalIndex ≠ fragment.header.index)) = true := by
    rw [known]
    simpa using (UInt16.ne_of_lt before).symm
  unfold push
  dsimp only
  rw [if_neg (not_not.mpr named), if_neg behind, if_pos last, if_pos other]

theorem push_conflicting_final {other : Bytes} {sentTimestamp echoedTimestamp : UInt16}
    (otherSent otherEchoed : UInt16) {maximumMessageBytes : Nat}
    (few : chunkCount message ≤ 2 ^ 15) (shorter : chunkCount other < chunkCount message) :
    ((holding message sentTimestamp echoedTimestamp stateId maximumMessageBytes
        (chunkCount message - 1)).push
      (pieceAt other otherSent otherEchoed stateId (chunkCount other - 1))).1 =
        .error .conflictingFinalIndex := by
  have positive := chunk_count_positive other
  have last : chunkCount message - 1 + 1 = chunkCount message := by omega
  have otherLast : chunkCount other - 1 + 1 = chunkCount other := by omega
  have number : (UInt16.ofNat (chunkCount message - 1)).toNat = chunkCount message - 1 :=
    index_to_nat (by omega)
  have otherNumber : (UInt16.ofNat (chunkCount other - 1)).toNat = chunkCount other - 1 :=
    index_to_nat (by omega)
  have final : (holding message sentTimestamp echoedTimestamp stateId maximumMessageBytes
      (chunkCount message - 1)).finalIndex = some (UInt16.ofNat (chunkCount message - 1)) := by
    rw [holding_final, if_pos last]
  apply push_other_final _ (decide_eq_true otherLast) final
  · change UInt16.ofNat (chunkCount other - 1) < UInt16.ofNat (chunkCount message - 1)
    rw [UInt16.lt_iff_toNat_lt, number, otherNumber]
    omega
  · change stateId = ((new stateId maximumMessageBytes).marked _).stateId
    rw [marked]
    split_ifs <;> rfl

theorem exists_different_piece {other : Bytes} (same : chunkCount other = chunkCount message)
    (different : message ≠ other) :
    ∃ index < chunkCount message, Chunks.window MAX_FRAGMENT_BODY_BYTES message index ≠
      Chunks.window MAX_FRAGMENT_BODY_BYTES other index := by
  by_contra alike
  apply different
  have windows : (List.range (chunkCount message)).map (Chunks.window MAX_FRAGMENT_BODY_BYTES message) =
      (List.range (chunkCount other)).map (Chunks.window MAX_FRAGMENT_BODY_BYTES other) := by
    rw [same]
    apply List.map_congr_left
    intro index member
    by_contra apart
    exact alike ⟨index, List.mem_range.mp member, apart⟩
  rw [← windows_flatten message, ← windows_flatten other, windows]

end FragmentAccumulator

end FerrumTty.Wire
