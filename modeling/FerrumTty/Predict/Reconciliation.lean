import FerrumTty.Predict.Operations

/-!
# After a reconciliation

A reconciliation is meant to leave the predictor as if it were new, and does so for an overlay
with a span. An overlay without one keeps the anchor that a refused printable has set.
-/

namespace FerrumTty.Predict

set_option autoImplicit false

open Crypto Runs PredictionOverlay

/-- An overlay after a run of operations. -/
def used (display : PredictionDisplay) (overwrite : Bool) (operations : List OverlayOperation) :
    PredictionOverlay :=
  final operate (.new display overwrite) operations

theorem used_consistent (display : PredictionDisplay) (overwrite : Bool)
    (operations : List OverlayOperation) : Consistent (used display overwrite operations) :=
  run_consistent (new_bare display overwrite).consistent operations

/-- A new overlay with the settings, the round trip, the highest frame and the latest
acknowledgement of another. -/
def fresh (overlay : PredictionOverlay) : PredictionOverlay :=
  { PredictionOverlay.new overlay.display overlay.overwrite with
    roundTripMilliseconds := overlay.roundTripMilliseconds
    highestFrameId := overlay.highestFrameId
    metrics := {
      offered := 0
      displayed := 0
      latestAcknowledgement := overlay.metrics.latestAcknowledgement
      reconciled := 0 } }

theorem fresh_bare (overlay : PredictionOverlay) : Bare (fresh overlay) :=
  ⟨rfl, rfl, rfl, rfl, rfl, rfl, rfl⟩

def OverlayOperation.Asks : OverlayOperation → Prop
  | .offer _ _ | .offerForFrame _ _ _ | .takeReconciliation | .reconcile => True
  | .setRoundTripMilliseconds _ | .acknowledge _ => False

section Counters

/-- The overlay with its counters at zero. -/
def uncounted (overlay : PredictionOverlay) : PredictionOverlay :=
  { overlay with
    metrics := { overlay.metrics with offered := 0, displayed := 0, reconciled := 0 } }

/-- A result of any kind with the counters left out. -/
def forget {Answer : Type} (result : Answer × PredictionOverlay) : Answer × PredictionOverlay :=
  (result.1, uncounted result.2)

variable (overlay : PredictionOverlay) (frameId : UInt64) (context : Option PredictionContext)

theorem printable_uncounted (bytes : Bytes) :
    (uncounted overlay).predictPrintable frameId bytes context =
      forget (overlay.predictPrintable frameId bytes context) := by
  unfold predictPrintable
  rw [apply_ite forget]
  cases context with
  | none => rfl
  | some given =>
      dsimp only
      rw [apply_ite forget]
      rfl

theorem predict_uncounted (action : PredictionAction) :
    (uncounted overlay).predict frameId action context =
      forget (overlay.predict frameId action context) := by
  cases action with
  | printableAscii byte =>
      simp only [predict, apply_ite forget, printable_uncounted]
      rfl
  | printableUtf8 character =>
      simp only [predict, apply_ite forget, printable_uncounted]
      rfl
  | backspace =>
      simp only [predict, predictBackspace, apply_ite forget]
      rfl
  | left =>
      simp only [predict, predictLeft, apply_ite forget]
      rfl
  | right =>
      simp only [predict, predictRight, apply_ite forget]
      rfl
  | barrier => rfl

theorem recorded_uncounted {first second : Option Bytes × PredictionOverlay}
    (action : PredictionAction) (agree : forget first = forget second) :
    forget (recorded first frameId action) = forget (recorded second frameId action) := by
  rcases first with ⟨_ | output, after⟩ <;> rcases second with ⟨_ | other, later⟩
  · exact agree
  · cases congrArg Prod.fst agree
  · cases congrArg Prod.fst agree
  · cases congrArg Prod.fst agree
    exact congrArg (fun result : Option Bytes × PredictionOverlay =>
      forget (result.1, result.2.record frameId action)) agree

/-- The counters do not enter into what an offer answers. -/
theorem offer_uncounted (action : PredictionAction) :
    forget ((uncounted overlay).offerForFrameWithContext frameId action context) =
      forget (overlay.offerForFrameWithContext frameId action context) := by
  have agree : forget (((uncounted overlay).seen frameId).predict frameId action context) =
      forget ((overlay.seen frameId).predict frameId action context) := by
    rw [← predict_uncounted, ← predict_uncounted]
    rfl
  have tail := recorded_uncounted frameId action agree
  rw [offer_shape, offer_shape]
  simp only [apply_ite forget, tail]
  rfl

theorem keyed_offer_uncounted (kind : InputKind) (bytes : Bytes) :
    forget ((uncounted overlay).offer kind bytes) = forget (overlay.offer kind bytes) := by
  have same : (uncounted overlay).nextFrame = overlay.nextFrame := rfl
  unfold offer
  rw [same]
  cases overlay.nextFrame with
  | none => rfl
  | some frameId => exact offer_uncounted overlay frameId none _

theorem take_uncounted :
    forget (uncounted overlay).takeReconciliation = forget overlay.takeReconciliation := by
  unfold takeReconciliation
  simp only [apply_ite forget]
  rfl

theorem operate_uncounted {operation : OverlayOperation} (asks : operation.Asks) :
    forget (operate (uncounted overlay) operation) = forget (operate overlay operation) := by
  cases operation with
  | setRoundTripMilliseconds milliseconds => cases asks
  | acknowledge acknowledgement => cases asks
  | offer kind bytes =>
      exact congrArg (fun result : Option Bytes × PredictionOverlay =>
        (OverlayAnswer.prediction result.1, result.2)) (keyed_offer_uncounted overlay kind bytes)
  | offerForFrame frameId action context =>
      exact congrArg (fun result : Option Bytes × PredictionOverlay =>
        (OverlayAnswer.prediction result.1, result.2))
        (offer_uncounted overlay frameId context action)
  | takeReconciliation =>
      exact congrArg (fun result : PredictionReconciliation × PredictionOverlay =>
        (OverlayAnswer.reconciliation result.1, result.2)) (take_uncounted overlay)
  | reconcile =>
      exact congrArg (fun result : PredictionReconciliation × PredictionOverlay =>
        (OverlayAnswer.reconciled (decide (result.1 ≠ .none)), result.2)) (take_uncounted overlay)

end Counters

theorem answers_of_uncounted {first second : PredictionOverlay}
    (same : uncounted first = uncounted second) {later : List OverlayOperation}
    (asks : ∀ operation ∈ later, operation.Asks) :
    outputs operate first later = outputs operate second later := by
  apply outputs_of_simulation operate (fun left right => uncounted left = uncounted right) _ _
    same asks
  intro left right operation asks same
  have agree : forget (operate left operation) = forget (operate right operation) := by
    rw [← operate_uncounted left asks, same, operate_uncounted right asks]
  have answers := congrArg Prod.fst agree
  have states := congrArg Prod.snd agree
  exact ⟨answers, states⟩

section Hidden

/-- An overlay without a span that shows nothing. -/
structure Hidden (overlay : PredictionOverlay) : Prop where
  bare : Bare overlay
  disabled : overlay.displayEnabled = false

/-- What is answered where nothing is shown. -/
def quietAnswer : OverlayOperation → OverlayAnswer
  | .offer _ _ | .offerForFrame _ _ _ => .prediction none
  | .takeReconciliation => .reconciliation .none
  | .reconcile => .reconciled false
  | .setRoundTripMilliseconds _ | .acknowledge _ => .quiet

theorem hidden_offer {overlay : PredictionOverlay} (hidden : Hidden overlay) (frameId : UInt64)
    (action : PredictionAction) (context : Option PredictionContext) :
    (overlay.offerForFrameWithContext frameId action context).1 = none
      ∧ Hidden (overlay.offerForFrameWithContext frameId action context).2 := by
  have seen := hidden.bare.seen frameId
  have shut (reached : overlay.Open frameId) : False := by
    have enabled := reached.enabled
    rw [hidden.disabled] at enabled
    cases enabled
  rcases shape : overlay.offerForFrameWithContext frameId action context with ⟨answer, after⟩
  cases offer_case_of shape with
  | late => exact ⟨rfl, hidden.bare.counted, hidden.disabled⟩
  | hidden => exact ⟨rfl, seen, hidden.disabled⟩
  | invalidated => exact ⟨rfl, seen.invalidated, hidden.disabled⟩
  | skipped reached => exact absurd reached shut
  | refused reached => exact absurd reached shut
  | printed reached => exact absurd reached shut
  | erased reached => exact absurd reached shut
  | left reached => exact absurd reached shut
  | right reached => exact absurd reached shut

theorem hidden_answers {overlay : PredictionOverlay} (hidden : Hidden overlay)
    {operation : OverlayOperation} (asks : operation.Asks) :
    (operate overlay operation).1 = quietAnswer operation
      ∧ Hidden (operate overlay operation).2 := by
  have taken := take_idle hidden.bare
  cases operation with
  | setRoundTripMilliseconds milliseconds => cases asks
  | acknowledge acknowledgement => cases asks
  | offer kind bytes =>
      rcases offer_eq overlay kind bytes with nothing | ⟨frameId, action, same⟩
      · simpa [operate, nothing, quietAnswer] using hidden
      · simpa [operate, same, quietAnswer] using hidden_offer hidden frameId action none
  | offerForFrame frameId action context =>
      simpa [operate, quietAnswer] using hidden_offer hidden frameId action context
  | takeReconciliation => simpa [operate, taken, quietAnswer] using hidden
  | reconcile => simpa [operate, reconcile, taken, quietAnswer] using hidden

/-- Where nothing is shown, an anchor that is left over is never looked at. -/
theorem answers_of_hidden {first second : PredictionOverlay} (left : Hidden first)
    (right : Hidden second) {later : List OverlayOperation}
    (asks : ∀ operation ∈ later, operation.Asks) :
    outputs operate first later = outputs operate second later := by
  apply outputs_of_simulation operate (fun one other => Hidden one ∧ Hidden other) _ _
    ⟨left, right⟩ asks
  intro one other operation asks both
  have here := hidden_answers both.1 asks
  have there := hidden_answers both.2 asks
  exact ⟨here.1.trans there.1.symm, here.2, there.2⟩

end Hidden

/-- A reconciliation of a span leaves a fresh overlay. -/
theorem taken_is_fresh {overlay : PredictionOverlay} (active : overlay.overlayActive = true) :
    uncounted overlay.takeReconciliation.2 = uncounted (fresh overlay) := by
  rw [takeReconciliation, if_neg (by rw [active]; rintro ⟨absurd, _⟩; cases absurd)]
  rfl

theorem bare_is_fresh {overlay : PredictionOverlay} (bare : Bare overlay)
    (unanchored : overlay.lineContext = none) : uncounted overlay = uncounted (fresh overlay) := by
  rcases bare with ⟨pending, cells, offset, displayed, rollback, active, settled⟩
  cases overlay
  simp_all [uncounted, fresh, PredictionOverlay.new]

section Anchors

def elsewhere (anchor : PredictionContext) : PredictionContext where
  row := anchor.row + 1
  column := 0
  columns := 80
  attributes := []
  cursorState := []

/-- A printable for the newest frame, in a context on another row than that of the anchor. -/
def probe (overlay : PredictionOverlay) (anchor : PredictionContext) : OverlayOperation :=
  .offerForFrame (overlay.highestFrameId.getD 0) (.printableAscii 0x61) (some (elsewhere anchor))

theorem newest_in_order (overlay : PredictionOverlay) :
    ¬ overlay.Late (overlay.highestFrameId.getD 0) := by
  rintro ⟨highest, same, below⟩
  rw [same] at below
  exact absurd below (UInt64.lt_irrefl _)

theorem bare_open {overlay : PredictionOverlay} (bare : Bare overlay)
    (enabled : overlay.displayEnabled = true) :
    overlay.Open (overlay.highestFrameId.getD 0) where
  inOrder := newest_in_order overlay
  enabled := enabled
  settled := bare.settled
  room := by
    rw [Full, bare.pending, bare.cells]
    decide

theorem probe_refused {overlay : PredictionOverlay} {anchor : PredictionContext} (left : overlay.lineContext = some anchor) :
    (operate overlay (probe overlay anchor)).1 = .prediction none := by
  have away : anchor.row ≠ anchor.row + 1 := by
    intro same
    have shifted := congrArg UInt16.toNat same
    rw [UInt16.toNat_add] at shifted
    have bound := anchor.row.toNat_lt
    simp only [UInt16.reduceToNat] at shifted
    omega
  have refuses : overlay.Refuses (some (elsewhere anchor)) := by
    refine ⟨elsewhere anchor, rfl, ?_⟩
    simp [refusedAt, PredictionOverlay.anchor, left, elsewhere, away]
  simp only [operate, probe]
  rcases shape : overlay.offerForFrameWithContext (overlay.highestFrameId.getD 0)
    (.printableAscii 0x61) (some (elsewhere anchor)) with ⟨answer, after⟩
  cases offer_case_of shape with
  | late | hidden | skipped | invalidated | refused => rfl
  | printed _ _ _ _ accepts => exact absurd refuses accepts
  | erased _ wrong => cases wrong
  | left _ wrong => cases wrong
  | right _ wrong => cases wrong

theorem probe_shown {overlay : PredictionOverlay} (bare : Bare overlay)
    (enabled : overlay.displayEnabled = true) (unanchored : overlay.lineContext = none)
    (anchor : PredictionContext) :
    (operate overlay (probe overlay anchor)).1 ≠ .prediction none := by
  have shows : overlay.Shows (overlay.highestFrameId.getD 0) (.printableAscii 0x61)
      (some (elsewhere anchor)) := by
    apply Shows.mk (bare_open bare enabled) (by simp)
    · rintro ⟨_, away⟩
      apply away
      rw [bare.offset, bare.cells]
      rfl
    · nofun
    · rintro _ ⟨given, same, refused⟩
      cases same
      simp [refusedAt, PredictionOverlay.anchor, unanchored, elsewhere, bare.offset] at refused
  have answer := (offer_shown_iff overlay _ _ _).mpr shows
  intro hidden
  exact answer (OverlayAnswer.prediction.inj hidden)

end Anchors

/-- A reconciliation is a clean slate exactly for an overlay that has a span, that no refused
printable has anchored, or that shows nothing. -/
theorem reconciliation_is_clean_iff (display : PredictionDisplay) (overwrite : Bool)
    (earlier : List OverlayOperation) :
    (∀ later : List OverlayOperation, (∀ operation ∈ later, operation.Asks) →
      outputs operate (used display overwrite earlier).takeReconciliation.2 later =
        outputs operate (fresh (used display overwrite earlier)) later) ↔
      (used display overwrite earlier).overlayActive = true
        ∨ (used display overwrite earlier).lineContext = none
        ∨ (used display overwrite earlier).displayEnabled = false := by
  have consistent := used_consistent display overwrite earlier
  revert consistent
  generalize used display overwrite earlier = overlay
  intro consistent
  by_cases active : overlay.overlayActive = true
  · simp only [active, true_or, iff_true]
    intro later asks
    exact answers_of_uncounted (taken_is_fresh active) asks
  · have bare := consistent.bare (Bool.eq_false_iff.mpr active)
    rw [take_idle bare]
    constructor
    · intro clean
      apply Or.inr
      by_contra unclean
      rcases not_or.mp unclean with ⟨anchored, shows⟩
      have enabled : overlay.displayEnabled = true := by simpa using shows
      rcases Option.ne_none_iff_exists'.mp anchored with ⟨anchor, left⟩
      have same := clean [probe overlay anchor] (by simp [probe, OverlayOperation.Asks])
      have answer := (List.cons.inj same).1
      have shown := probe_shown (fresh_bare overlay) (show (fresh overlay).displayEnabled = true
        from enabled) rfl anchor
      apply shown
      exact answer.symm.trans (probe_refused left)
    · rintro (absurd | unanchored | disabled) later asks
      · exact False.elim (active absurd)
      · exact answers_of_uncounted (bare_is_fresh bare unanchored) asks
      · exact answers_of_hidden ⟨bare, disabled⟩ ⟨fresh_bare overlay, disabled⟩ asks

/-- The last column of a row, and then the first of the next one. -/
def lastColumn : PredictionContext where
  row := 0
  column := 79
  columns := 80
  attributes := [0x1b, 0x5b, 0x6d]
  cursorState := []

def nextRow : PredictionContext := { lastColumn with row := 1, column := 0 }

/-- A key that the right margin refuses, and a reconciliation that finds nothing to take, leave
an overlay that refuses on the next row what a new one shows. -/
theorem refused_key_stays :
    let overlay := used .always false [.offerForFrame 1 (.printableAscii 0x61) (some lastColumn)]
    overlay.takeReconciliation.1 = .none
      ∧ outputs operate overlay.takeReconciliation.2
          [.offerForFrame 2 (.printableAscii 0x62) (some nextRow)] = [.prediction none]
      ∧ outputs operate (fresh overlay) [.offerForFrame 2 (.printableAscii 0x62) (some nextRow)] =
          [.prediction (some (INSERT_CHARACTER ++ UNDERLINE_RENDITION ++ [0x62, 0x1b, 0x5b, 0x6d]))]
      := by
  decide

end FerrumTty.Predict
