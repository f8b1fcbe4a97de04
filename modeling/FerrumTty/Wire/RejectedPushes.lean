import FerrumTty.Wire.Soundness

/-!
# Rejected pushes

A fragment that passes the index checks may still be rejected for its body, and by then
`push` has set the final index and grown the byte total. Later fragments of the message
are answered differently because of it, except where neither write says anything new.
-/

namespace FerrumTty.Wire

set_option autoImplicit false

open Crypto Runs

namespace FragmentAccumulator

/-- The fragment is the first one that carries the final bit. -/
def Announces (accumulator : FragmentAccumulator) (fragment : Fragment) : Prop :=
  fragment.header.isFinal = true ∧ accumulator.finalIndex = none

/-- When a rejected fragment is forgotten: the index checks refuse it, or it announces
nothing and either its index is taken or the size bound is broken already. -/
def Traceless (accumulator : FragmentAccumulator) (fragment : Fragment) : Prop :=
  accumulator.Admits fragment → ¬ accumulator.Announces fragment ∧
    (fragment.header.index ∈ accumulator.fragments ∨
      accumulator.totalBytes > accumulator.maximumMessageBytes)

/-- When a rejected fragment changes no field. A body that breaks the size bound is counted
unless it is empty. -/
def Writeless (accumulator : FragmentAccumulator) (fragment : Fragment) : Prop :=
  accumulator.Admits fragment → ¬ accumulator.Announces fragment ∧
    (fragment.header.index ∈ accumulator.fragments ∨ fragment.body = [])

variable {accumulator : FragmentAccumulator} {fragment : Fragment}

theorem Admits.marked_eq (admits : accumulator.Admits fragment)
    (quiet : ¬ accumulator.Announces fragment) : accumulator.marked fragment = accumulator := by
  rw [marked]
  split_ifs with last
  · cases known : accumulator.finalIndex with
    | none => exact absurd ⟨last, known⟩ quiet
    | some finalIndex => rw [← admits.agreeing last finalIndex known, ← known]
  · rfl

theorem Announces.marked_final (announces : accumulator.Announces fragment) :
    (accumulator.marked fragment).finalIndex = some fragment.header.index := by
  rw [marked, if_pos announces.1]

/-- A rejected push of an admitted fragment leaves the mark, and the body counted if its
index was free. -/
theorem Orderly.rejected_after (orderly : accumulator.Orderly) {error : FragmentError}
    (admits : accumulator.Admits fragment) (rejected : (accumulator.push fragment).1 = .error error) :
    (fragment.header.index ∈ accumulator.fragments ∧
        (accumulator.push fragment).2 = accumulator.marked fragment) ∨
      (accumulator.fragments.lookup fragment.header.index = none ∧
        accumulator.maximumMessageBytes < accumulator.totalBytes + fragment.body.length ∧
        (accumulator.push fragment).2 = (accumulator.marked fragment).counted fragment.body) := by
  rw [admits.push_eq] at rejected ⊢
  cases found : accumulator.fragments.lookup fragment.header.index with
  | some existing =>
      refine Or.inl ⟨AList.mem_of_lookup found, ?_⟩
      rw [store_present (by rw [marked_fragments, found])]
  | none =>
      have absent : (accumulator.marked fragment).fragments.lookup fragment.header.index = none := by
        rw [marked_fragments, found]
      refine Or.inr ⟨rfl, ?_⟩
      by_cases fits : (accumulator.marked fragment).totalBytes + fragment.body.length ≤
          (accumulator.marked fragment).maximumMessageBytes
      · -- A body that is stored is never answered with an error.
        have after := orderly.push fragment
        rw [admits.push_eq, store_absent absent fits] at after
        rw [store_absent absent fits] at rejected
        rcases after.try_complete with unfinished | ⟨_, _, _, finished, _⟩
        · rw [unfinished] at rejected
          cases rejected
        · rw [finished] at rejected
          cases rejected
      · rw [store_large absent (Nat.lt_of_not_le fits)]
        rw [marked_total_bytes, marked_maximum_message_bytes] at fits
        exact ⟨Nat.lt_of_not_le fits, rfl⟩

/-- The same accumulator but for the byte totals, which both break the size bound. -/
def AlikeFull (first second : FragmentAccumulator) : Prop :=
  ∃ total, second = { first with totalBytes := total } ∧
    first.maximumMessageBytes < first.totalBytes ∧ first.maximumMessageBytes < total

theorem AlikeFull.store {first second : FragmentAccumulator} (alike : AlikeFull first second)
    (index : UInt16) (body : Bytes) :
    (first.store index body).1 = (second.store index body).1 ∧
      AlikeFull (first.store index body).2 (second.store index body).2 := by
  obtain ⟨total, rfl, firstFull, secondFull⟩ := alike
  cases found : first.fragments.lookup index with
  | some existing =>
      rw [store_present found,
        @store_present { first with totalBytes := total } index body existing found]
      exact ⟨rfl, total, rfl, firstFull, secondFull⟩
  | none =>
      have firstLarge : first.maximumMessageBytes < first.totalBytes + body.length := by omega
      have secondLarge : first.maximumMessageBytes < total + body.length := by omega
      rw [store_large found firstLarge,
        @store_large { first with totalBytes := total } index body found secondLarge]
      exact ⟨rfl, total + body.length, rfl, firstLarge, secondLarge⟩

theorem AlikeFull.push {first second : FragmentAccumulator} (alike : AlikeFull first second)
    (fragment : Fragment) :
    (first.push fragment).1 = (second.push fragment).1 ∧
      AlikeFull (first.push fragment).2 (second.push fragment).2 := by
  obtain ⟨total, rfl, firstFull, secondFull⟩ := alike
  unfold FragmentAccumulator.push
  dsimp only
  split_ifs
  · exact ⟨rfl, total, rfl, firstFull, secondFull⟩
  · exact ⟨rfl, total, rfl, firstFull, secondFull⟩
  · exact ⟨rfl, total, rfl, firstFull, secondFull⟩
  · exact ⟨rfl, total, rfl, firstFull, secondFull⟩
  · have marked : AlikeFull { first with finalIndex := some fragment.header.index }
        { first with finalIndex := some fragment.header.index, totalBytes := total } :=
      ⟨total, rfl, firstFull, secondFull⟩
    exact marked.store fragment.header.index fragment.body
  · exact AlikeFull.store ⟨total, rfl, firstFull, secondFull⟩ _ _

theorem AlikeFull.outputs_eq {first second : FragmentAccumulator} (alike : AlikeFull first second)
    (later : List Fragment) :
    outputs FragmentAccumulator.push first later = outputs FragmentAccumulator.push second later :=
  outputs_of_simulation FragmentAccumulator.push AlikeFull (fun _ => True)
    (fun _ _ fragment _ related => related.push fragment) alike fun _ _ => trivial

theorem Orderly.traceless_outputs (orderly : accumulator.Orderly) {error : FragmentError}
    (rejected : (accumulator.push fragment).1 = .error error)
    (traceless : accumulator.Traceless fragment) (later : List Fragment) :
    outputs FragmentAccumulator.push (accumulator.push fragment).2 later =
      outputs FragmentAccumulator.push accumulator later := by
  by_cases admits : accumulator.Admits fragment
  · obtain ⟨quiet, settled⟩ := traceless admits
    rcases orderly.rejected_after admits rejected with ⟨_, after⟩ | ⟨absent, _, after⟩
    · rw [after, admits.marked_eq quiet]
    · rcases settled with present | full
      · exact absurd present (AList.lookup_eq_none.mp absent)
      · rw [after, admits.marked_eq quiet]
        apply Eq.symm
        apply AlikeFull.outputs_eq
        exact ⟨_, rfl, full, Nat.lt_of_lt_of_le full (Nat.le_add_right _ _)⟩
  · obtain ⟨_, refused, _⟩ := push_refused admits
    rw [refused]

theorem store_error {index : UInt16} {body : Bytes} {error : FragmentError}
    (orderly : (accumulator.store index body).2.Orderly)
    (rejected : (accumulator.store index body).1 = .error error) :
    error = .conflictingDuplicate ∨ error = .messageTooLarge := by
  rcases store_answer accumulator index body with conflicting | large | complete
  · rw [conflicting] at rejected
    cases rejected
    exact Or.inl rfl
  · rw [large] at rejected
    cases rejected
    exact Or.inr rfl
  · rw [complete] at rejected
    rcases orderly.try_complete with unfinished | ⟨_, _, _, finished, _⟩
    · rw [unfinished] at rejected
      cases rejected
    · rw [finished] at rejected
      cases rejected

/-- Before a final index is known only a final fragment is compared with other indices. -/
theorem Orderly.open_ended_error (orderly : accumulator.Orderly) {error : FragmentError}
    (open_ended : accumulator.finalIndex = none)
    (rejected : (accumulator.push fragment).1 = .error error) :
    error ≠ .conflictingFinalIndex ∧
      (fragment.header.isFinal = false → error ≠ .indexAfterFinal) := by
  have after := orderly.push fragment
  unfold FragmentAccumulator.push at rejected after
  dsimp only at rejected after
  rw [open_ended] at rejected after
  split_ifs at rejected after with other behind last conflicting greater
  · cases rejected
    exact ⟨by decide, fun _ => by decide⟩
  · cases behind
  · cases conflicting
  · cases rejected
    exact ⟨by decide, fun inner => absurd last (by rw [inner]; decide)⟩
  · rcases store_error after rejected with rfl | rfl
    · exact ⟨by decide, fun _ => by decide⟩
    · exact ⟨by decide, fun _ => by decide⟩
  · rcases store_error after rejected with rfl | rfl
    · exact ⟨by decide, fun _ => by decide⟩
    · exact ⟨by decide, fun _ => by decide⟩

theorem push_after_final {finalIndex : UInt16}
    (named : fragment.header.stateId = accumulator.stateId)
    (known : accumulator.finalIndex = some finalIndex) (after : finalIndex < fragment.header.index) :
    (accumulator.push fragment).1 = .error .indexAfterFinal := by
  have behind : accumulator.finalIndex.any
      (fun finalIndex => decide (fragment.header.index > finalIndex)) = true := by
    rw [known]
    exact decide_eq_true after
  unfold FragmentAccumulator.push
  dsimp only
  rw [if_neg (not_not.mpr named), if_pos behind]

/-- An empty fragment of the accumulator's state, to tell accumulators apart. -/
def probe (accumulator : FragmentAccumulator) (index : UInt16) (isFinal : Bool) : Fragment where
  header :=
    { sentTimestamp := 0, echoedTimestamp := 0, stateId := accumulator.stateId, index, isFinal }
  body := []

/-- A final index that is known shows: another final index conflicts with it, or an index
lies after it. -/
theorem Orderly.final_index_shows (orderly : accumulator.Orderly)
    (open_ended : accumulator.finalIndex = none) {marked : FragmentAccumulator} {finalIndex : UInt16}
    (named : marked.stateId = accumulator.stateId) (known : marked.finalIndex = some finalIndex) :
    ∃ probed, (marked.push probed).1 ≠ (accumulator.push probed).1 := by
  by_cases first : finalIndex = 0
  · refine ⟨accumulator.probe 1 false, ?_⟩
    have after : (marked.push (accumulator.probe 1 false)).1 = .error .indexAfterFinal :=
      push_after_final named.symm known (by rw [first]; exact (by decide : (0 : UInt16) < 1))
    rw [after]
    intro same
    exact (orderly.open_ended_error open_ended same.symm).2 rfl rfl
  · refine ⟨accumulator.probe 0 true, ?_⟩
    have positive : 0 < finalIndex := by
      rw [UInt16.lt_iff_toNat_lt]
      exact Nat.pos_of_ne_zero fun zero => first (UInt16.toNat.inj zero)
    have after : (marked.push (accumulator.probe 0 true)).1 = .error .conflictingFinalIndex :=
      push_other_final named.symm rfl known positive
    rw [after]
    intro same
    exact (orderly.open_ended_error open_ended same.symm).1 rfl

/-- A byte total that newly breaks the size bound shows: an empty body is too large. -/
theorem Orderly.full_shows (orderly : accumulator.Orderly) (admits : accumulator.Admits fragment)
    (absent : accumulator.fragments.lookup fragment.header.index = none)
    (room : accumulator.totalBytes ≤ accumulator.maximumMessageBytes)
    (large : accumulator.maximumMessageBytes < accumulator.totalBytes + fragment.body.length) :
    ∃ probed, ((accumulator.counted fragment.body).push probed).1 ≠ (accumulator.push probed).1 := by
  let probed := accumulator.probe fragment.header.index false
  have stores (held : FragmentAccumulator) (named : accumulator.stateId = held.stateId)
      (within : ∀ finalIndex, held.finalIndex = some finalIndex → fragment.header.index ≤ finalIndex) :
      held.push probed = held.store fragment.header.index [] := by
    have passes : held.Admits probed :=
      ⟨named, within, fun final => absurd final Bool.false_ne_true,
        fun final => absurd final Bool.false_ne_true⟩
    have inner : held.marked probed = held := if_neg Bool.false_ne_true
    rw [passes.push_eq, inner]
    rfl
  have rejected : ((accumulator.counted fragment.body).push probed).1 = .error .messageTooLarge := by
    rw [stores (accumulator.counted fragment.body) rfl admits.within,
      @store_large (accumulator.counted fragment.body) _ [] absent large]
  refine ⟨probed, ?_⟩
  rw [rejected]
  intro same
  have after := orderly.push probed
  rw [stores accumulator rfl admits.within, @store_absent accumulator _ [] absent room] at same after
  rcases after.try_complete with unfinished | ⟨_, _, _, finished, _⟩
  · rw [unfinished] at same
    cases same
  · rw [finished] at same
    cases same

theorem Announces.rejected_final (announces : accumulator.Announces fragment)
    (orderly : accumulator.Orderly) (admits : accumulator.Admits fragment) {error : FragmentError}
    (rejected : (accumulator.push fragment).1 = .error error) :
    (accumulator.push fragment).2.finalIndex = some fragment.header.index := by
  rcases orderly.rejected_after admits rejected with ⟨_, after⟩ | ⟨_, _, after⟩
  · rw [after, announces.marked_final]
  · rw [after]
    exact announces.marked_final

theorem push_state_id (accumulator : FragmentAccumulator) (fragment : Fragment) :
    (accumulator.push fragment).2.stateId = accumulator.stateId := by
  by_cases admits : accumulator.Admits fragment
  · have marked : (accumulator.marked fragment).stateId = accumulator.stateId := by
      rw [FragmentAccumulator.marked]
      split_ifs <;> rfl
    rw [admits.push_eq, ← marked]
    rcases store_after (accumulator.marked fragment) fragment.header.index fragment.body with
      same | grown | ⟨_, _, stored⟩
    · rw [same]
    · rw [grown]
      rfl
    · rw [stored]
      rfl
  · obtain ⟨_, refused, _⟩ := push_refused admits
    rw [refused]

theorem Orderly.outputs_eq_iff (orderly : accumulator.Orderly) {error : FragmentError}
    (rejected : (accumulator.push fragment).1 = .error error) :
    (∀ later : List Fragment,
      outputs FragmentAccumulator.push (accumulator.push fragment).2 later =
        outputs FragmentAccumulator.push accumulator later) ↔ accumulator.Traceless fragment := by
  constructor
  · intro same admits
    have alike (probed : Fragment) :
        ((accumulator.push fragment).2.push probed).1 = (accumulator.push probed).1 :=
      (List.cons.inj (same [probed])).1
    have quiet : ¬ accumulator.Announces fragment := by
      intro announces
      obtain ⟨probed, different⟩ := orderly.final_index_shows announces.2
        (push_state_id accumulator fragment) (announces.rejected_final orderly admits rejected)
      exact different (alike probed)
    refine ⟨quiet, ?_⟩
    rcases orderly.rejected_after admits rejected with ⟨present, _⟩ | ⟨absent, large, after⟩
    · exact Or.inl present
    · refine Or.inr (Nat.lt_of_not_le fun room => ?_)
      obtain ⟨probed, different⟩ := orderly.full_shows admits absent room large
      rw [after, admits.marked_eq quiet] at alike
      exact different (alike probed)
  · intro traceless later
    exact orderly.traceless_outputs rejected traceless later

theorem Orderly.push_unchanged_iff (orderly : accumulator.Orderly) {error : FragmentError}
    (rejected : (accumulator.push fragment).1 = .error error) :
    (accumulator.push fragment).2 = accumulator ↔ accumulator.Writeless fragment := by
  constructor
  · intro same admits
    have quiet : ¬ accumulator.Announces fragment := by
      intro announces
      have final := announces.rejected_final orderly admits rejected
      rw [same, announces.2] at final
      cases final
    refine ⟨quiet, ?_⟩
    rcases orderly.rejected_after admits rejected with ⟨present, _⟩ | ⟨_, _, after⟩
    · exact Or.inl present
    · rw [after, admits.marked_eq quiet] at same
      have total : accumulator.totalBytes + fragment.body.length = accumulator.totalBytes :=
        congrArg totalBytes same
      exact Or.inr (List.length_eq_zero_iff.mp (by omega))
  · intro writeless
    by_cases admits : accumulator.Admits fragment
    · obtain ⟨quiet, settled⟩ := writeless admits
      rcases orderly.rejected_after admits rejected with ⟨_, after⟩ | ⟨absent, _, after⟩
      · rw [after, admits.marked_eq quiet]
      · rcases settled with present | empty
        · exact absurd present (AList.lookup_eq_none.mp absent)
        · rw [after, admits.marked_eq quiet, empty]
          rfl
    · obtain ⟨_, refused, _⟩ := push_refused admits
      rw [refused]

/-- A rejected fragment of a reachable accumulator is forgotten exactly when it is traceless,
and it changes no field exactly when it is writeless. -/
theorem rejected_push_traceless_iff (stateId : UInt64) (maximumMessageBytes : Nat)
    (earlier : List Fragment) (fragment : Fragment) {error : FragmentError}
    (rejected : ((final FragmentAccumulator.push (new stateId maximumMessageBytes) earlier).push
      fragment).1 = .error error) :
    ((∀ later : List Fragment,
        outputs FragmentAccumulator.push
            ((final FragmentAccumulator.push (new stateId maximumMessageBytes) earlier).push
              fragment).2 later =
          outputs FragmentAccumulator.push
            (final FragmentAccumulator.push (new stateId maximumMessageBytes) earlier) later) ↔
      (final FragmentAccumulator.push (new stateId maximumMessageBytes) earlier).Traceless
        fragment) ∧
    (((final FragmentAccumulator.push (new stateId maximumMessageBytes) earlier).push fragment).2 =
        final FragmentAccumulator.push (new stateId maximumMessageBytes) earlier ↔
      (final FragmentAccumulator.push (new stateId maximumMessageBytes) earlier).Writeless
        fragment) := by
  have orderly := orderly_of_pushes stateId maximumMessageBytes earlier
  exact ⟨orderly.outputs_eq_iff rejected, orderly.push_unchanged_iff rejected⟩

/-- Another body for the first index, with the final bit. -/
def forgedPiece : Fragment where
  header := { sentTimestamp := 1, echoedTimestamp := 2, stateId := 7, index := 0, isFinal := true }
  body := [9]

/-- The rejected piece ends the message at its index, so the last piece is refused. -/
theorem rejected_piece_refuses_tail :
    ¬ ∀ (stateId : UInt64) (maximumMessageBytes : Nat) (earlier : List Fragment)
        (fragment : Fragment) (error : FragmentError),
      ((final FragmentAccumulator.push (new stateId maximumMessageBytes) earlier).push fragment).1 =
          .error error →
        ∀ later : List Fragment,
          outputs FragmentAccumulator.push
              ((final FragmentAccumulator.push (new stateId maximumMessageBytes) earlier).push
                fragment).2 later =
            outputs FragmentAccumulator.push
              (final FragmentAccumulator.push (new stateId maximumMessageBytes) earlier) later := by
  intro traceless
  have rejected : ((final FragmentAccumulator.push (new 7 10) [headPiece]).push forgedPiece).1 =
      .error .conflictingDuplicate := rfl
  have same := traceless 7 10 [headPiece] forgedPiece _ rejected [tailPiece]
  have refused : outputs FragmentAccumulator.push
      ((final FragmentAccumulator.push (new 7 10) [headPiece]).push forgedPiece).2 [tailPiece] =
      [.error .indexAfterFinal] := rfl
  have completed : outputs FragmentAccumulator.push
      (final FragmentAccumulator.push (new 7 10) [headPiece]) [tailPiece] =
      [.ok (some [5, 6, 8])] := rfl
  rw [refused, completed] at same
  cases same

/-- Without the final bit the other body is forgotten. -/
theorem conflicting_piece_forgotten :
    outputs FragmentAccumulator.push
        ((final FragmentAccumulator.push (new 7 10) [headPiece]).push
          { headPiece with body := [9] }).2 [tailPiece] =
      outputs FragmentAccumulator.push
        (final FragmentAccumulator.push (new 7 10) [headPiece]) [tailPiece] := by
  have rejected : ((final FragmentAccumulator.push (new 7 10) [headPiece]).push
      { headPiece with body := [9] }).1 = .error .conflictingDuplicate := rfl
  refine (rejected_push_traceless_iff 7 10 [headPiece] _ rejected).1.mpr ?_ [tailPiece]
  intro _
  exact ⟨fun announces => absurd announces.1 Bool.false_ne_true, Or.inl (by decide)⟩

end FragmentAccumulator

end FerrumTty.Wire
