import FerrumTty.Library.Runs
import FerrumTty.Wire.Reassembly

/-!
# Sound reassembly

The accumulator is fed by the peer, so nothing is assumed about the fragments. One push
keeps every stored index at or below a known final index and stores at most one body at an
index, so a count that reaches the final index means that no body is missing.
-/

namespace FerrumTty.Wire

set_option autoImplicit false

open Crypto Runs

namespace FragmentAccumulator

variable {accumulator : FragmentAccumulator} {fragment : Fragment}

/-- The fragment passes the checks that `push` makes before its first write. -/
structure Admits (accumulator : FragmentAccumulator) (fragment : Fragment) : Prop where
  named : fragment.header.stateId = accumulator.stateId
  within : ∀ finalIndex, accumulator.finalIndex = some finalIndex →
    fragment.header.index ≤ finalIndex
  agreeing : fragment.header.isFinal = true → ∀ finalIndex,
    accumulator.finalIndex = some finalIndex → finalIndex = fragment.header.index
  beyond : fragment.header.isFinal = true → ∀ stored ∈ accumulator.fragments,
    stored ≤ fragment.header.index

theorem Admits.push_eq (admits : accumulator.Admits fragment) :
    accumulator.push fragment =
      (accumulator.marked fragment).store fragment.header.index fragment.body :=
  push_eq_store admits.named admits.within admits.agreeing admits.beyond

theorem push_refused (refused : ¬ accumulator.Admits fragment) :
    ∃ error, accumulator.push fragment = (.error error, accumulator) ∧ error ≠ .missingFragment := by
  unfold push
  dsimp only
  split_ifs with other behind last conflicting greater
  · exact ⟨_, rfl, by decide⟩
  · exact ⟨_, rfl, by decide⟩
  · exact ⟨_, rfl, by decide⟩
  · exact ⟨_, rfl, by decide⟩
  all_goals
    exfalso
    apply refused
    have within : ∀ finalIndex, accumulator.finalIndex = some finalIndex →
        fragment.header.index ≤ finalIndex := by
      intro finalIndex known
      rw [known] at behind
      exact UInt16.not_lt.mp (by simpa using behind)
  · refine ⟨not_not.mp other, within, ?_, ?_⟩
    · intro _ finalIndex known
      rw [known] at conflicting
      simpa using conflicting
    · intro _ stored present
      rw [List.any_eq_true] at greater
      exact UInt16.not_lt.mp fun above =>
        greater ⟨stored, AList.mem_keys.mpr present, decide_eq_true above⟩
  · exact ⟨not_not.mp other, within, fun final => absurd final last, fun final => absurd final last⟩

/-- The accumulator with a body counted that was not stored. -/
def counted (accumulator : FragmentAccumulator) (body : Bytes) : FragmentAccumulator :=
  { accumulator with totalBytes := accumulator.totalBytes + body.length }

theorem store_present {index : UInt16} {body existing : Bytes}
    (present : accumulator.fragments.lookup index = some existing) :
    accumulator.store index body =
      (if existing = body then accumulator.tryComplete else .error .conflictingDuplicate,
        accumulator) := by
  rw [store, present]
  dsimp only
  split_ifs <;> rfl

theorem store_large {index : UInt16} {body : Bytes}
    (absent : accumulator.fragments.lookup index = none)
    (large : accumulator.maximumMessageBytes < accumulator.totalBytes + body.length) :
    accumulator.store index body = (.error .messageTooLarge, accumulator.counted body) := by
  rw [store, absent]
  dsimp only
  rw [if_pos large]
  rfl

theorem store_after (accumulator : FragmentAccumulator) (index : UInt16) (body : Bytes) :
    (accumulator.store index body).2 = accumulator ∨
      (accumulator.store index body).2 = accumulator.counted body ∨
      (accumulator.fragments.lookup index = none ∧
        accumulator.totalBytes + body.length ≤ accumulator.maximumMessageBytes ∧
        accumulator.store index body =
          ((accumulator.withBody index body).tryComplete, accumulator.withBody index body)) := by
  cases found : accumulator.fragments.lookup index with
  | some existing => exact Or.inl (by rw [store_present found])
  | none =>
      by_cases fits : accumulator.totalBytes + body.length ≤ accumulator.maximumMessageBytes
      · exact Or.inr (Or.inr ⟨rfl, fits, store_absent found fits⟩)
      · exact Or.inr (Or.inl (by rw [store_large found (Nat.lt_of_not_le fits)]))

def storedBytes (accumulator : FragmentAccumulator) : Nat :=
  (accumulator.fragments.entries.map fun entry => entry.2.length).sum

/-- The invariant of the accumulator under arbitrary fragments. -/
structure Orderly (accumulator : FragmentAccumulator) : Prop where
  within : ∀ finalIndex, accumulator.finalIndex = some finalIndex →
    ∀ stored ∈ accumulator.fragments, stored ≤ finalIndex
  accounted : accumulator.storedBytes ≤ accumulator.totalBytes
  bounded : accumulator.storedBytes ≤ accumulator.maximumMessageBytes

theorem new_orderly (stateId : UInt64) (maximumMessageBytes : Nat) :
    (new stateId maximumMessageBytes).Orderly where
  within := by
    intro finalIndex known
    cases known
  accounted := Nat.zero_le _
  bounded := Nat.zero_le _

theorem Orderly.marked_orderly (orderly : accumulator.Orderly) (admits : accumulator.Admits fragment) :
    (accumulator.marked fragment).Orderly := by
  rw [marked]
  split_ifs with last
  · refine ⟨?_, orderly.accounted, orderly.bounded⟩
    intro finalIndex known stored present
    cases known
    exact admits.beyond last stored present
  · exact orderly

/-- A known final index after the mark is no smaller than the index that was pushed. -/
theorem Admits.marked_within (admits : accumulator.Admits fragment) {finalIndex : UInt16}
    (known : (accumulator.marked fragment).finalIndex = some finalIndex) :
    fragment.header.index ≤ finalIndex := by
  rw [marked] at known
  split_ifs at known with last
  · cases known
    exact UInt16.le_refl _
  · exact admits.within finalIndex known

theorem stored_bytes_with_body {index : UInt16} {body : Bytes}
    (absent : accumulator.fragments.lookup index = none) :
    (accumulator.withBody index body).storedBytes = accumulator.storedBytes + body.length := by
  rw [storedBytes, withBody, AList.entries_insert_of_notMem (AList.lookup_eq_none.mp absent),
    List.map_cons, List.sum_cons, Nat.add_comm]
  rfl

theorem Orderly.store (orderly : accumulator.Orderly) {index : UInt16} {body : Bytes}
    (inside : ∀ finalIndex, accumulator.finalIndex = some finalIndex → index ≤ finalIndex) :
    (accumulator.store index body).2.Orderly := by
  rcases store_after accumulator index body with same | grown | ⟨absent, fits, stored⟩
  · rw [same]
    exact orderly
  · rw [grown]
    exact ⟨orderly.within, Nat.le_trans orderly.accounted (Nat.le_add_right _ _), orderly.bounded⟩
  · rw [stored]
    have accounted := orderly.accounted
    refine ⟨?_, ?_, ?_⟩
    · intro finalIndex known other present
      rcases (AList.mem_insert _).mp present with here | earlier
      · rw [here]
        exact inside finalIndex known
      · exact orderly.within finalIndex known other earlier
    · rw [stored_bytes_with_body absent]
      exact Nat.add_le_add_right accounted _
    · rw [stored_bytes_with_body absent]
      exact Nat.le_trans (Nat.add_le_add_right accounted _) fits

theorem Orderly.push (orderly : accumulator.Orderly) (fragment : Fragment) :
    (accumulator.push fragment).2.Orderly := by
  by_cases admits : accumulator.Admits fragment
  · rw [admits.push_eq]
    exact (orderly.marked_orderly admits).store fun _ known => admits.marked_within known
  · obtain ⟨error, refused, _⟩ := push_refused admits
    rw [refused]
    exact orderly

theorem orderly_of_pushes (stateId : UInt64) (maximumMessageBytes : Nat) (pushes : List Fragment) :
    (final push (new stateId maximumMessageBytes) pushes).Orderly :=
  invariant_final push Orderly (fun _ fragment orderly => orderly.push fragment)
    (new_orderly stateId maximumMessageBytes) pushes

def bodyAt (accumulator : FragmentAccumulator) (index : UInt16) : Bytes :=
  (accumulator.fragments.lookup index).getD []

def messageUpTo (finalIndex : UInt16) (body : UInt16 → Bytes) : Bytes :=
  ((List.range (finalIndex.toNat + 1)).map fun index => body (UInt16.ofNat index)).flatten

theorem body_at_entry {entry : Sigma fun _ : UInt16 => Bytes}
    (member : entry ∈ accumulator.fragments.entries) : accumulator.bodyAt entry.1 = entry.2 := by
  have found : entry.2 ∈ accumulator.fragments.lookup entry.1 := AList.mem_lookup_iff.mpr member
  rw [bodyAt, Option.mem_def.mp found]
  rfl

/-- A message that uses every stored body once is as long as the bodies together. -/
theorem message_length_of_full {finalIndex : UInt16}
    (full : accumulator.fragments.len = finalIndex.toNat + 1)
    (within : ∀ stored ∈ accumulator.fragments, stored ≤ finalIndex) :
    (messageUpTo finalIndex accumulator.bodyAt).length = accumulator.storedBytes := by
  have below : ∀ key ∈ accumulator.fragments, key.toNat < finalIndex.toNat + 1 := by
    intro key present
    exact Nat.lt_succ_of_le (UInt16.le_iff_toNat_le.mp (within key present))
  have keys : accumulator.storedBytes =
      (accumulator.fragments.keys.map fun key => (accumulator.bodyAt key).length).sum := by
    rw [storedBytes, AList.keys, List.keys, List.map_map]
    congr 1
    apply List.map_congr_left
    intro entry member
    rw [Function.comp_apply, body_at_entry member]
  have numbers : (accumulator.fragments.keys.map fun key => (accumulator.bodyAt key).length) =
      (accumulator.fragments.keys.map UInt16.toNat).map
        fun number => (accumulator.bodyAt (UInt16.ofNat number)).length := by
    rw [List.map_map]
    apply List.map_congr_left
    intro key _
    rw [Function.comp_apply, UInt16.ofNat_toNat]
  rw [keys, numbers, ((keys_perm_range full below).map _).sum_nat, messageUpTo, List.length_flatten,
    List.map_map]
  rfl

/-- An orderly accumulator completes nothing, or every body up to its final index. -/
theorem Orderly.try_complete (orderly : accumulator.Orderly) :
    accumulator.tryComplete = .ok none ∨
      ∃ finalIndex, accumulator.finalIndex = some finalIndex ∧
        (∀ index ≤ finalIndex, index ∈ accumulator.fragments) ∧
        accumulator.tryComplete = .ok (some (messageUpTo finalIndex accumulator.bodyAt)) ∧
        (messageUpTo finalIndex accumulator.bodyAt).length ≤ accumulator.maximumMessageBytes := by
  rw [tryComplete]
  cases known : accumulator.finalIndex with
  | none => exact Or.inl rfl
  | some finalIndex =>
      dsimp only
      by_cases full : accumulator.fragments.len = finalIndex.toNat + 1
      · have within := orderly.within finalIndex known
        have below : ∀ key ∈ accumulator.fragments, key.toNat < finalIndex.toNat + 1 := by
          intro key present
          exact Nat.lt_succ_of_le (UInt16.le_iff_toNat_le.mp (within key present))
        have stored (index : Nat) (inside : index < finalIndex.toNat + 1) :
            accumulator.fragments.lookup (UInt16.ofNat index) =
              some (accumulator.bodyAt (UInt16.ofNat index)) := by
          obtain ⟨body, found⟩ := AList.lookup_of_mem (stored_of_full full below inside).1
          rw [bodyAt, found]
          rfl
        refine Or.inr ⟨finalIndex, rfl, ?_, ?_, ?_⟩
        · intro index inside
          have number := (stored_of_full full below
            (Nat.lt_succ_of_le (UInt16.le_iff_toNat_le.mp inside))).1
          rwa [UInt16.ofNat_toNat] at number
        · rw [if_neg (not_not.mpr full), collect_bodies stored]
          rfl
        · rw [message_length_of_full full within]
          exact orderly.bounded
      · exact Or.inl (by rw [if_pos full])

/-- The answer of `store` is a store error or comes from the accumulator that it leaves. -/
theorem store_answer (accumulator : FragmentAccumulator) (index : UInt16) (body : Bytes) :
    (accumulator.store index body).1 = .error .conflictingDuplicate ∨
      (accumulator.store index body).1 = .error .messageTooLarge ∨
      (accumulator.store index body).1 = (accumulator.store index body).2.tryComplete := by
  cases found : accumulator.fragments.lookup index with
  | some existing =>
      rw [store_present found]
      by_cases same : existing = body
      · exact Or.inr (Or.inr (if_pos same))
      · exact Or.inl (if_neg same)
  | none =>
      by_cases fits : accumulator.totalBytes + body.length ≤ accumulator.maximumMessageBytes
      · rw [store_absent found fits]
        exact Or.inr (Or.inr rfl)
      · rw [store_large found (Nat.lt_of_not_le fits)]
        exact Or.inr (Or.inl rfl)

theorem store_maximum_message_bytes (accumulator : FragmentAccumulator) (index : UInt16)
    (body : Bytes) :
    (accumulator.store index body).2.maximumMessageBytes = accumulator.maximumMessageBytes := by
  rcases store_after accumulator index body with same | grown | ⟨_, _, stored⟩
  · rw [same]
  · rw [grown]
    rfl
  · rw [stored]
    rfl

theorem push_maximum_message_bytes (accumulator : FragmentAccumulator) (fragment : Fragment) :
    (accumulator.push fragment).2.maximumMessageBytes = accumulator.maximumMessageBytes := by
  by_cases admits : accumulator.Admits fragment
  · rw [admits.push_eq, store_maximum_message_bytes, marked_maximum_message_bytes]
  · obtain ⟨error, refused, _⟩ := push_refused admits
    rw [refused]

/-- `push` answers with an error that is not `MissingFragment`, or with what it completes. -/
theorem Orderly.push_answer (orderly : accumulator.Orderly) (fragment : Fragment) :
    (∃ error, (accumulator.push fragment).1 = .error error ∧ error ≠ .missingFragment) ∨
      (accumulator.push fragment).1 = (accumulator.push fragment).2.tryComplete ∧
        ∃ answer, (accumulator.push fragment).2.tryComplete = .ok answer := by
  by_cases admits : accumulator.Admits fragment
  · have after := orderly.push fragment
    rw [admits.push_eq] at after ⊢
    rcases store_answer (accumulator.marked fragment) fragment.header.index fragment.body with
      conflicting | large | complete
    · exact Or.inl ⟨_, conflicting, by decide⟩
    · exact Or.inl ⟨_, large, by decide⟩
    · refine Or.inr ⟨complete, ?_⟩
      rcases after.try_complete with unfinished | ⟨finalIndex, _, _, finished, _⟩
      · exact ⟨_, unfinished⟩
      · exact ⟨_, finished⟩
  · obtain ⟨error, refused, kind⟩ := push_refused admits
    exact Or.inl ⟨error, by rw [refused], kind⟩

/-- The body that one step of a run puts under an index. -/
def storedAt (index : UInt16)
    (step : Step FragmentAccumulator Fragment (Except FragmentError (Option Bytes))) : Option Bytes :=
  if step.after.fragments.lookup index = step.before.fragments.lookup index then none
  else step.after.fragments.lookup index

def storedBodies (start : FragmentAccumulator) (pushes : List Fragment) (index : UInt16) :
    List Bytes :=
  (trace push start pushes).filterMap (storedAt index)

theorem push_lookup (accumulator : FragmentAccumulator) (fragment : Fragment) (index : UInt16) :
    (accumulator.push fragment).2.fragments.lookup index = accumulator.fragments.lookup index ∨
      accumulator.fragments.lookup index = none ∧ index = fragment.header.index ∧
        (accumulator.push fragment).2.fragments.lookup index = some fragment.body := by
  by_cases admits : accumulator.Admits fragment
  · rw [admits.push_eq]
    rcases store_after (accumulator.marked fragment) fragment.header.index fragment.body with
      same | grown | ⟨absent, _, stored⟩
    · rw [same, marked_fragments]
      exact Or.inl rfl
    · rw [grown]
      exact Or.inl (by rw [counted, marked_fragments])
    · rw [stored]
      rw [marked_fragments] at absent
      by_cases here : index = fragment.header.index
      · refine Or.inr ⟨by rw [here, absent], here, ?_⟩
        rw [here]
        exact AList.lookup_insert _
      · refine Or.inl ?_
        rw [withBody, AList.lookup_insert_ne here, marked_fragments]
  · obtain ⟨error, refused, _⟩ := push_refused admits
    exact Or.inl (by rw [refused])

theorem push_final_index (accumulator : FragmentAccumulator) (fragment : Fragment) :
    (accumulator.push fragment).2.finalIndex = accumulator.finalIndex ∨
      fragment.header.isFinal = true ∧
        (accumulator.push fragment).2.finalIndex = some fragment.header.index := by
  by_cases admits : accumulator.Admits fragment
  · have stored : (accumulator.push fragment).2.finalIndex =
        (accumulator.marked fragment).finalIndex := by
      rw [admits.push_eq]
      rcases store_after (accumulator.marked fragment) fragment.header.index fragment.body with
        same | grown | ⟨_, _, stored⟩
      · rw [same]
      · rw [grown]
        rfl
      · rw [stored]
        rfl
    rw [stored, marked]
    split_ifs with last
    · exact Or.inr ⟨last, rfl⟩
    · exact Or.inl rfl
  · obtain ⟨error, refused, _⟩ := push_refused admits
    exact Or.inl (by rw [refused])

/-- Over a run from a fresh accumulator each index holds what was stored there, once. -/
theorem stored_bodies_eq (stateId : UInt64) (maximumMessageBytes : Nat) (pushes : List Fragment)
    (index : UInt16) :
    storedBodies (new stateId maximumMessageBytes) pushes index =
      ((final push (new stateId maximumMessageBytes) pushes).fragments.lookup index).toList := by
  induction pushes using List.reverseRecOn with
  | nil => rfl
  | append_singleton pushes fragment induction =>
      let before := final push (new stateId maximumMessageBytes) pushes
      have split : storedBodies (new stateId maximumMessageBytes) (pushes ++ [fragment]) index =
          (before.fragments.lookup index).toList ++
            (storedAt index (stepAt push before fragment)).toList := by
        rw [storedBodies, trace_concat, List.filterMap_append, ← induction]
        rfl
      rw [split, final_concat]
      change _ ++ (if (before.push fragment).2.fragments.lookup index =
        before.fragments.lookup index then none
        else (before.push fragment).2.fragments.lookup index).toList = _
      rcases push_lookup before fragment index with same | ⟨absent, _, stored⟩
      · rw [if_pos same, same]
        exact List.append_nil _
      · rw [stored, absent, if_neg (by simp)]
        rfl

theorem final_index_pushed (stateId : UInt64) (maximumMessageBytes : Nat) (pushes : List Fragment)
    {finalIndex : UInt16}
    (known : (final push (new stateId maximumMessageBytes) pushes).finalIndex = some finalIndex) :
    ∃ fragment ∈ pushes, fragment.header.isFinal = true ∧ fragment.header.index = finalIndex := by
  induction pushes using List.reverseRecOn with
  | nil => cases known
  | append_singleton pushes fragment induction =>
      rw [final_concat] at known
      rcases push_final_index (final push (new stateId maximumMessageBytes) pushes) fragment with
        same | ⟨last, announced⟩
      · rw [same] at known
        obtain ⟨earlier, member, rest⟩ := induction known
        exact ⟨earlier, List.mem_append_left _ member, rest⟩
      · rw [announced] at known
        exact ⟨fragment, by simp, last, Option.some.inj known⟩

theorem stored_bodies_pushed (start : FragmentAccumulator) {pushes : List Fragment} {index : UInt16}
    {body : Bytes} (stored : body ∈ storedBodies start pushes index) :
    ∃ fragment ∈ pushes, fragment.header.index = index ∧ fragment.body = body := by
  obtain ⟨step, member, put⟩ := List.mem_filterMap.mp stored
  obtain ⟨earlier, fragment, later, split, same⟩ := (mem_trace_iff push start pushes step).mp member
  have inside : fragment ∈ pushes := by
    rw [split]
    simp
  rw [same] at put
  change (if ((final push start earlier).push fragment).2.fragments.lookup index =
    (final push start earlier).fragments.lookup index then none
    else ((final push start earlier).push fragment).2.fragments.lookup index) = some body at put
  rcases push_lookup (final push start earlier) fragment index with kept | ⟨absent, here, found⟩
  · rw [if_pos kept] at put
    cases put
  · rw [found, absent, if_neg (by simp)] at put
    exact ⟨fragment, inside, here.symm, Option.some.inj put⟩

theorem final_maximum_message_bytes (start : FragmentAccumulator) (pushes : List Fragment) :
    (final push start pushes).maximumMessageBytes = start.maximumMessageBytes :=
  invariant_final push (fun held => held.maximumMessageBytes = start.maximumMessageBytes)
    (fun held fragment same => (push_maximum_message_bytes held fragment).trans same) rfl pushes

/-- Whatever is pushed, a completed message is made of one stored body for each index up to
an announced final one. -/
theorem reassembly_sound (stateId : UInt64) (maximumMessageBytes : Nat) (pushes : List Fragment)
    (fragment : Fragment) :
    (∀ message, ((final push (new stateId maximumMessageBytes) pushes).push fragment).1 =
        .ok (some message) →
      ∃ (finalIndex : UInt16) (body : UInt16 → Bytes),
        (∃ last ∈ pushes ++ [fragment],
          last.header.isFinal = true ∧ last.header.index = finalIndex) ∧
        (∀ index ≤ finalIndex,
          storedBodies (new stateId maximumMessageBytes) (pushes ++ [fragment]) index =
            [body index] ∧
          ∃ stored ∈ pushes ++ [fragment],
            stored.header.index = index ∧ stored.body = body index) ∧
        message = messageUpTo finalIndex body ∧ message.length ≤ maximumMessageBytes) ∧
    (∀ finalIndex, (final push (new stateId maximumMessageBytes) pushes).finalIndex =
        some finalIndex →
      ∀ stored ∈ (final push (new stateId maximumMessageBytes) pushes).fragments,
        stored ≤ finalIndex) ∧
    ((final push (new stateId maximumMessageBytes) pushes).push fragment).1 ≠
      .error .missingFragment := by
  have orderly := orderly_of_pushes stateId maximumMessageBytes pushes
  have answer := orderly.push_answer fragment
  refine ⟨?_, orderly.within, ?_⟩
  · intro message completed
    have after := orderly_of_pushes stateId maximumMessageBytes (pushes ++ [fragment])
    have history := stored_bodies_eq stateId maximumMessageBytes (pushes ++ [fragment])
    have maximum := final_maximum_message_bytes (new stateId maximumMessageBytes)
      (pushes ++ [fragment])
    rw [final_concat] at after maximum
    have complete : ((final push (new stateId maximumMessageBytes) pushes).push fragment).2.tryComplete =
        .ok (some message) := by
      rcases answer with ⟨error, rejected, _⟩ | ⟨same, _⟩
      · rw [rejected] at completed
        cases completed
      · rw [← same, completed]
    rcases after.try_complete with unfinished | ⟨finalIndex, known, present, finished, bound⟩
    · rw [unfinished] at complete
      cases complete
    · rw [finished] at complete
      cases complete
      refine ⟨finalIndex, _, final_index_pushed stateId maximumMessageBytes _ ?_, ?_, rfl, ?_⟩
      · rw [final_concat]
        exact known
      · intro index inside
        obtain ⟨body, found⟩ := AList.lookup_of_mem (present index inside)
        have stored : storedBodies (new stateId maximumMessageBytes) (pushes ++ [fragment]) index =
            [bodyAt ((final push (new stateId maximumMessageBytes) pushes).push fragment).2 index] := by
          rw [history index, final_concat, bodyAt, found]
          rfl
        exact ⟨stored, stored_bodies_pushed _ (by rw [stored]; exact List.mem_singleton_self _)⟩
      · rw [maximum] at bound
        exact bound
  · intro missing
    rcases answer with ⟨error, rejected, kind⟩ | ⟨same, answered, complete⟩
    · rw [rejected] at missing
      cases missing
      exact kind rfl
    · rw [same, complete] at missing
      cases missing

def tailPiece : Fragment where
  header := { sentTimestamp := 1, echoedTimestamp := 2, stateId := 7, index := 1, isFinal := true }
  body := [8]

def headPiece : Fragment where
  header := { sentTimestamp := 1, echoedTimestamp := 2, stateId := 7, index := 0, isFinal := false }
  body := [5, 6]

/-- Two pieces in the wrong order complete a message of both. -/
theorem reassembly_sound_of_two :
    ((final push (new 7 3) [tailPiece]).push headPiece).1 = .ok (some [5, 6, 8]) ∧
      ∃ (finalIndex : UInt16) (body : UInt16 → Bytes),
        (∃ last ∈ [tailPiece, headPiece],
          last.header.isFinal = true ∧ last.header.index = finalIndex) ∧
        [5, 6, 8] = messageUpTo finalIndex body := by
  have completed : ((final push (new 7 3) [tailPiece]).push headPiece).1 = .ok (some [5, 6, 8]) := rfl
  obtain ⟨finalIndex, body, announced, _, whole, _⟩ :=
    (reassembly_sound 7 3 [tailPiece] headPiece).1 [5, 6, 8] completed
  exact ⟨completed, finalIndex, body, announced, whole⟩

end FragmentAccumulator

end FerrumTty.Wire
