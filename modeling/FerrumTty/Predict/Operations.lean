import FerrumTty.Predict.Offers

/-!
# Overlays in use

The public operations of a prediction overlay and what holds of an overlay after any of them.
-/

namespace FerrumTty.Predict

set_option autoImplicit false

open Crypto Runs PredictionOverlay

inductive OverlayOperation where
  | setRoundTripMilliseconds (milliseconds : Option UInt16)
  | offer (kind : InputKind) (bytes : Bytes)
  | offerForFrame (frameId : UInt64) (action : PredictionAction)
      (context : Option PredictionContext)
  | takeReconciliation
  | reconcile
  | acknowledge (acknowledgement : UInt64)
  deriving DecidableEq, Repr

inductive OverlayAnswer where
  | prediction (output : Option Bytes)
  | reconciliation (taken : PredictionReconciliation)
  | reconciled (any : Bool)
  | quiet
  deriving DecidableEq, Repr

def operate (overlay : PredictionOverlay) : OverlayOperation → OverlayAnswer × PredictionOverlay
  | .setRoundTripMilliseconds milliseconds =>
      (.quiet, overlay.setRoundTripMilliseconds milliseconds)
  | .offer kind bytes =>
      (.prediction (overlay.offer kind bytes).1, (overlay.offer kind bytes).2)
  | .offerForFrame frameId action context =>
      (.prediction (overlay.offerForFrameWithContext frameId action context).1,
        (overlay.offerForFrameWithContext frameId action context).2)
  | .takeReconciliation => (.reconciliation overlay.takeReconciliation.1, overlay.takeReconciliation.2)
  | .reconcile => (.reconciled overlay.reconcile.1, overlay.reconcile.2)
  | .acknowledge acknowledgement => (.quiet, overlay.acknowledge acknowledgement)

structure Bare (overlay : PredictionOverlay) : Prop where
  pending : overlay.pending = []
  cells : overlay.predictedAscii = []
  offset : overlay.cursorOffset = 0
  displayed : overlay.displayedCells = 0
  rollback : overlay.rollbackCells = 0
  active : overlay.overlayActive = false
  settled : overlay.reconciliationRequired = false

structure Consistent (overlay : PredictionOverlay) : Prop where
  bare : overlay.overlayActive = false → Bare overlay
  offset : overlay.cursorOffset ≤ overlay.predictedAscii.length
  counted : overlay.reconciliationRequired = false →
    overlay.displayedCells = overlay.predictedAscii.length
      ∧ overlay.rollbackCells = overlay.predictedAscii.length
  emptied : overlay.reconciliationRequired = true → overlay.predictedAscii = []

theorem new_bare (display : PredictionDisplay) (overwrite : Bool) : Bare (.new display overwrite) :=
  ⟨rfl, rfl, rfl, rfl, rfl, rfl, rfl⟩

theorem Bare.consistent {overlay : PredictionOverlay} (bare : Bare overlay) :
    Consistent overlay where
  bare _ := bare
  offset := by rw [bare.offset]; exact Nat.zero_le _
  counted _ := by simp [bare.displayed, bare.rollback, bare.cells]
  emptied _ := bare.cells

section Steps

variable {overlay : PredictionOverlay}

theorem Bare.anchored (bare : Bare overlay) (context : Option PredictionContext) :
    Bare (overlay.anchored context) := by
  cases context <;> exact ⟨bare.1, bare.2, bare.3, bare.4, bare.5, bare.6, bare.7⟩

theorem Bare.seen (bare : Bare overlay) (frameId : UInt64) : Bare (overlay.seen frameId) :=
  ⟨bare.1, bare.2, bare.3, bare.4, bare.5, bare.6, bare.7⟩

theorem Bare.counted (bare : Bare overlay) : Bare overlay.countOffer :=
  ⟨bare.1, bare.2, bare.3, bare.4, bare.5, bare.6, bare.7⟩

theorem Bare.invalidated (bare : Bare overlay) : Bare overlay.invalidateSpan where
  pending := rfl
  cells := rfl
  offset := rfl
  displayed := bare.displayed
  rollback := bare.rollback
  active := bare.active
  settled := by
    change (overlay.reconciliationRequired || overlay.overlayActive) = false
    rw [bare.settled, bare.active]
    rfl

theorem Consistent.anchored (consistent : Consistent overlay)
    (context : Option PredictionContext) : Consistent (overlay.anchored context) := by
  cases context with
  | none => exact consistent
  | some given =>
      exact ⟨fun idle => (consistent.bare idle).anchored (some given), consistent.offset,
        consistent.counted, consistent.emptied⟩

theorem Consistent.seen (consistent : Consistent overlay) (frameId : UInt64) :
    Consistent (overlay.seen frameId) :=
  ⟨fun idle => (consistent.bare idle).seen frameId, consistent.offset, consistent.counted,
    consistent.emptied⟩

theorem Consistent.invalidated (consistent : Consistent overlay) :
    Consistent overlay.invalidateSpan where
  bare idle := (consistent.bare idle).invalidated
  offset := Nat.le_refl 0
  counted settled := by
    rcases Bool.or_eq_false_iff.mp settled with ⟨_, idle⟩
    have bare := consistent.bare idle
    exact ⟨bare.displayed, bare.rollback⟩
  emptied _ := rfl

theorem Consistent.printed (consistent : Consistent overlay)
    (settled : overlay.reconciliationRequired = false)
    (atEnd : overlay.cursorOffset = overlay.predictedAscii.length) (frameId : UInt64) (bytes : Bytes)
    (context : Option PredictionContext) (action : PredictionAction) :
    Consistent ((overlay.pushPrintable frameId bytes context).2.record frameId action) := by
  rcases consistent.counted settled with ⟨displayed, rollback⟩
  apply Consistent.mk
  · intro idle
    cases idle
  · change overlay.cursorOffset + 1 ≤ (overlay.predictedAscii ++ [_]).length
    rw [List.length_append, atEnd]
    exact Nat.le_refl _
  · intro _
    change overlay.displayedCells + 1 = (overlay.predictedAscii ++ [_]).length ∧
      overlay.rollbackCells + 1 = (overlay.predictedAscii ++ [_]).length
    rw [List.length_append, displayed, rollback]
    exact ⟨rfl, rfl⟩
  · intro required
    exact absurd required (Bool.eq_false_iff.mp settled)

theorem offer_consistent (consistent : Consistent overlay) (frameId : UInt64)
    (action : PredictionAction) (context : Option PredictionContext) :
    Consistent (overlay.offerForFrameWithContext frameId action context).2 := by
  have seen := consistent.seen frameId
  have anchored := seen.anchored context
  rcases shape : overlay.offerForFrameWithContext frameId action context with ⟨answer, after⟩
  cases offer_case_of shape with
  | late =>
      exact ⟨fun idle => (consistent.bare idle).counted, consistent.offset, consistent.counted,
        consistent.emptied⟩
  | hidden => exact seen
  | skipped => exact seen
  | invalidated => exact seen.invalidated
  | refused => exact anchored.invalidated
  | printed reached bytes _ atEnd =>
      have settled : ((overlay.seen frameId).anchored context).reconciliationRequired = false := by
        cases context <;> exact reached.settled
      have behind : ((overlay.seen frameId).anchored context).cursorOffset =
          ((overlay.seen frameId).anchored context).predictedAscii.length := by
        cases context <;> exact atEnd
      exact anchored.printed settled behind frameId bytes context action
  | erased reached _ inside atEnd =>
      rcases consistent.counted reached.settled with ⟨displayed, rollback⟩
      apply Consistent.mk
      · intro idle
        cases idle
      · change overlay.cursorOffset - 1 ≤ overlay.predictedAscii.dropLast.length
        rw [List.length_dropLast, atEnd]
      · intro _
        change overlay.displayedCells - 1 = overlay.predictedAscii.dropLast.length ∧
          overlay.rollbackCells - 1 = overlay.predictedAscii.dropLast.length
        rw [List.length_dropLast, displayed, rollback]
        exact ⟨rfl, rfl⟩
      · intro required
        exact absurd required (Bool.eq_false_iff.mp reached.settled)
  | left reached _ inside =>
      apply Consistent.mk
      · intro idle
        cases idle
      · exact Nat.le_trans (Nat.sub_le _ 1) consistent.offset
      · exact consistent.counted
      · exact consistent.emptied
  | right reached _ inside =>
      apply Consistent.mk
      · intro idle
        cases idle
      · exact inside
      · exact consistent.counted
      · exact consistent.emptied

theorem taken_bare (active : overlay.overlayActive = true) :
    Bare overlay.takeReconciliation.2 ∧ overlay.takeReconciliation.2.lineContext = none := by
  rw [takeReconciliation, if_neg (by rw [active]; rintro ⟨absurd, _⟩; cases absurd)]
  exact ⟨⟨rfl, rfl, rfl, rfl, rfl, rfl, rfl⟩, rfl⟩

theorem take_idle (bare : Bare overlay) : overlay.takeReconciliation = (.none, overlay) := by
  rw [takeReconciliation, if_pos ⟨bare.active, bare.settled⟩]

theorem take_consistent (consistent : Consistent overlay) :
    Consistent overlay.takeReconciliation.2 := by
  by_cases active : overlay.overlayActive = true
  · exact (taken_bare active).1.consistent
  · rw [take_idle (consistent.bare (Bool.eq_false_iff.mpr active))]
    exact consistent

theorem acknowledge_consistent (consistent : Consistent overlay) (acknowledgement : UInt64) :
    Consistent (overlay.acknowledge acknowledgement) := by
  unfold acknowledge
  split
  · exact consistent
  · split
    · exact consistent
    · apply Consistent.mk
      · intro idle
        have bare := consistent.bare idle
        exact ⟨by simp [bare.pending], by simp [bare.cells], bare.offset, bare.displayed,
          bare.rollback, bare.active, bare.settled⟩
      · simpa using consistent.offset
      · intro settled
        simpa using consistent.counted settled
      · intro required
        simpa using consistent.emptied required

/-- `offer` is an offer for the next frame, unless there is none. -/
theorem offer_eq (overlay : PredictionOverlay) (kind : InputKind) (bytes : Bytes) :
    overlay.offer kind bytes = (none, overlay) ∨ ∃ frameId action,
      overlay.offer kind bytes = overlay.offerForFrameWithContext frameId action none := by
  unfold offer
  split
  · exact Or.inl rfl
  · exact Or.inr ⟨_, _, rfl⟩

theorem operate_consistent (consistent : Consistent overlay) (operation : OverlayOperation) :
    Consistent (operate overlay operation).2 := by
  cases operation with
  | setRoundTripMilliseconds milliseconds =>
      have still (idle : overlay.overlayActive = false) :
          Bare (overlay.setRoundTripMilliseconds milliseconds) := by
        have bare := consistent.bare idle
        exact ⟨bare.1, bare.2, bare.3, bare.4, bare.5, bare.6, bare.7⟩
      exact ⟨still, consistent.offset, consistent.counted, consistent.emptied⟩
  | offer kind bytes =>
      rcases offer_eq overlay kind bytes with nothing | ⟨frameId, action, same⟩
      · simpa [operate, nothing] using consistent
      · simpa [operate, same] using offer_consistent consistent frameId action none
  | offerForFrame frameId action context => exact offer_consistent consistent frameId action context
  | takeReconciliation => exact take_consistent consistent
  | reconcile => exact take_consistent consistent
  | acknowledge acknowledgement => exact acknowledge_consistent consistent acknowledgement

end Steps

theorem run_consistent {overlay : PredictionOverlay} (consistent : Consistent overlay)
    (operations : List OverlayOperation) : Consistent (final operate overlay operations) :=
  invariant_final operate Consistent (fun _ operation kept => operate_consistent kept operation)
    consistent operations

end FerrumTty.Predict
