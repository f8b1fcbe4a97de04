import FerrumTty.Predict.Reconciliation

/-!
# Refused edits

An edit that is not shown is meant to bar every later one until the span has been taken back.
The edits in `Skipped` do not: they are refused and the span goes on without them.
-/

namespace FerrumTty.Predict

set_option autoImplicit false

open Crypto Runs PredictionOverlay

/-- What a host does before it takes the span back, with frames in order and the display on. -/
def Allowed (overlay : PredictionOverlay) : OverlayOperation → Prop
  | .offerForFrame frameId _ _ => ¬ overlay.Late frameId
  | .offer _ _ | .acknowledge _ => True
  | .setRoundTripMilliseconds milliseconds =>
      (overlay.setRoundTripMilliseconds milliseconds).displayEnabled = true
  | .takeReconciliation | .reconcile => False

def Continues : PredictionOverlay → List OverlayOperation → Prop
  | _, [] => True
  | overlay, operation :: rest =>
      Allowed overlay operation ∧ Continues (operate overlay operation).2 rest

/-- The offer is one of the edits that are refused without a trace. -/
def Skips (overlay : PredictionOverlay) (action : PredictionAction) : Prop :=
  ¬ overlay.Full ∧ overlay.Skipped action

theorem required_offer {overlay : PredictionOverlay}
    (required : overlay.reconciliationRequired = true) (frameId : UInt64)
    (action : PredictionAction) (context : Option PredictionContext) :
    (overlay.offerForFrameWithContext frameId action context).1 = none
      ∧ (overlay.offerForFrameWithContext frameId action context).2.reconciliationRequired
        = true := by
  have shut (reached : overlay.Open frameId) : False := by
    have settled := reached.settled
    rw [required] at settled
    cases settled
  rcases shape : overlay.offerForFrameWithContext frameId action context with ⟨answer, after⟩
  cases offer_case_of shape with
  | late => exact ⟨rfl, required⟩
  | hidden => exact ⟨rfl, required⟩
  | invalidated => exact ⟨rfl, by simp [invalidateSpan, seen, countOffer, required]⟩
  | skipped reached => exact absurd reached shut
  | refused reached => exact absurd reached shut
  | printed reached => exact absurd reached shut
  | erased reached => exact absurd reached shut
  | left reached => exact absurd reached shut
  | right reached => exact absurd reached shut

theorem required_step {overlay : PredictionOverlay}
    (required : overlay.reconciliationRequired = true) {operation : OverlayOperation}
    (allowed : Allowed overlay operation) :
    (∀ output, (operate overlay operation).1 ≠ .prediction (some output))
      ∧ (operate overlay operation).2.reconciliationRequired = true := by
  cases operation with
  | setRoundTripMilliseconds milliseconds =>
      constructor
      · intro output wrong
        cases wrong
      · exact required
  | takeReconciliation => cases allowed
  | reconcile => cases allowed
  | offerForFrame frameId action context =>
      have refused := required_offer required frameId action context
      simp [operate, refused]
  | offer kind bytes =>
      rcases offer_eq overlay kind bytes with nothing | ⟨frameId, action, same⟩
      · simp [operate, nothing, required]
      · simp [operate, same, required_offer required frameId action none]
  | acknowledge acknowledgement =>
      constructor
      · intro output wrong
        cases wrong
      · simp only [operate, acknowledge]
        split
        · exact required
        · split <;> exact required

theorem required_run {overlay : PredictionOverlay}
    (required : overlay.reconciliationRequired = true) {later : List OverlayOperation}
    (continues : Continues overlay later) (output : Bytes) :
    OverlayAnswer.prediction (some output) ∉ outputs operate overlay later := by
  induction later generalizing overlay with
  | nil => nofun
  | cons operation rest induction =>
      have step := required_step required continues.1
      rw [outputs_cons, List.mem_cons]
      rintro (here | there)
      · exact step.1 output here.symm
      · exact induction step.2 continues.2 there

theorem next_shown {overlay : PredictionOverlay} {frameId : UInt64}
    (opened : overlay.Open frameId) :
    ∃ action, (overlay.offerForFrameWithContext frameId action none).1 ≠ none := by
  have unanchored : ¬ overlay.Refuses none := by
    rintro ⟨given, absurd, _⟩
    cases absurd
  by_cases atEnd : overlay.cursorOffset = overlay.predictedAscii.length
  · refine ⟨.printableAscii 0x61, (offer_shown_iff overlay _ _ _).mpr ?_⟩
    exact ⟨opened, by simp, fun skip => skip.2 atEnd, nofun, fun _ => unanchored⟩
  · by_cases start : overlay.cursorOffset = 0
    · refine ⟨.right, (offer_shown_iff overlay _ _ _).mpr ?_⟩
      apply Shows.mk opened (by simp) _ id fun _ => unanchored
      change ¬ overlay.predictedAscii.length ≤ overlay.cursorOffset
      omega
    · refine ⟨.left, (offer_shown_iff overlay _ _ _).mpr ?_⟩
      exact ⟨opened, by simp, start, id, fun _ => unanchored⟩

theorem refusal_requires {overlay : PredictionOverlay} {frameId : UInt64}
    {action : PredictionAction} {context : Option PredictionContext}
    (enabled : overlay.displayEnabled = true) (shown : overlay.overlayActive = true)
    (inOrder : ¬ overlay.Late frameId)
    (refused : (overlay.offerForFrameWithContext frameId action context).1 = none)
    (bars : overlay.reconciliationRequired = true ∨ ¬ Skips overlay action) :
    (overlay.offerForFrameWithContext frameId action context).2.reconciliationRequired = true := by
  rcases shape : overlay.offerForFrameWithContext frameId action context with ⟨answer, after⟩
  rw [shape] at refused
  cases offer_case_of shape with
  | late late => exact absurd late inOrder
  | hidden _ _ cause =>
      rcases cause with disabled | required
      · rw [enabled] at disabled
        cases disabled
      · exact required
  | skipped reached skip =>
      rcases bars with required | unskipped
      · rw [reached.settled] at required
        cases required
      · exact absurd ⟨reached.room, skip⟩ unskipped
  | invalidated => simp [invalidateSpan, seen, countOffer, shown]
  | refused => cases context <;> simp [invalidateSpan, anchored, seen, countOffer, shown]
  | printed => cases refused
  | erased => cases refused
  | left => cases refused
  | right => cases refused

theorem seen_open {overlay : PredictionOverlay} {frameId : UInt64}
    (reached : overlay.Open frameId) : (overlay.seen frameId).Open frameId where
  inOrder := by
    rintro ⟨highest, same, below⟩
    cases same
    exact absurd below (UInt64.lt_irrefl _)
  enabled := reached.enabled
  settled := reached.settled
  room := reached.room

theorem skipped_stays_open {overlay : PredictionOverlay} {frameId : UInt64}
    {action : PredictionAction} {context : Option PredictionContext}
    (reached : overlay.Open frameId) (skip : overlay.Skipped action) :
    (overlay.offerForFrameWithContext frameId action context).2.Open frameId := by
  have hides := mt (offer_shown_iff overlay frameId action context).mp fun shows => shows.kept skip
  rcases shape : overlay.offerForFrameWithContext frameId action context with ⟨answer, after⟩
  rw [shape] at hides
  cases offer_case_of shape with
  | late late => exact absurd late reached.inOrder
  | hidden => exact seen_open reached
  | skipped => exact seen_open reached
  | invalidated _ cause =>
      rcases cause with barrier | ⟨_, _, full | unsupported⟩
      · subst barrier
        cases skip
      · exact absurd full reached.room
      · exact absurd skip (unsupported_not_skipped unsupported)
  | refused _ printable atEnd => exact absurd atEnd ((text_usual overlay printable).2.1.mp skip)
  | printed => exact absurd nofun hides
  | erased => exact absurd nofun hides
  | left => exact absurd nofun hides
  | right => exact absurd nofun hides

/-- A refused offer bars every later one exactly if a reconciliation was already required or the
offer is not one of those that are skipped. -/
theorem refused_edit_bars_iff (display : PredictionDisplay) (overwrite : Bool)
    (earlier : List OverlayOperation) (frameId : UInt64) (action : PredictionAction)
    (context : Option PredictionContext)
    (enabled : (used display overwrite earlier).displayEnabled = true)
    (shown : (used display overwrite earlier).overlayActive = true)
    (inOrder : ¬ (used display overwrite earlier).Late frameId)
    (refused : ((used display overwrite earlier).offerForFrameWithContext frameId action
      context).1 = none) :
    (∀ later output,
      Continues ((used display overwrite earlier).offerForFrameWithContext frameId action
        context).2 later →
      .prediction (some output) ∉ outputs operate
        ((used display overwrite earlier).offerForFrameWithContext frameId action context).2
        later) ↔
      (used display overwrite earlier).reconciliationRequired = true
        ∨ ¬ Skips (used display overwrite earlier) action := by
  generalize used display overwrite earlier = overlay at enabled shown inOrder refused ⊢
  constructor
  · intro bars
    by_contra lasting
    rcases not_or.mp lasting with ⟨unsettled, skips⟩
    rcases not_not.mp skips with ⟨room, skip⟩
    have reached : overlay.Open frameId :=
      ⟨inOrder, enabled, Bool.eq_false_iff.mpr unsettled, room⟩
    have opened : (overlay.offerForFrameWithContext frameId action context).2.Open frameId :=
      skipped_stays_open reached skip
    rcases next_shown opened with ⟨next, shows⟩
    rcases Option.ne_none_iff_exists'.mp shows with ⟨output, same⟩
    apply bars [.offerForFrame frameId next none] output ⟨opened.inOrder, trivial⟩
    simp [operate, same]
  · intro bars later output continues
    exact required_run (refusal_requires enabled shown inOrder refused bars) continues output

/-- One character and a barrier: nothing is shown any more. -/
theorem refused_barrier_bars :
    (∀ later output,
      Continues ((used .always false [.offerForFrame 1 (.printableAscii 0x61) none])
        |>.offerForFrameWithContext 2 .barrier none).2 later →
      .prediction (some output) ∉ outputs operate
        ((used .always false [.offerForFrame 1 (.printableAscii 0x61) none])
          |>.offerForFrameWithContext 2 .barrier none).2 later) ↔
      (used .always false [.offerForFrame 1 (.printableAscii 0x61) none]).reconciliationRequired
          = true
        ∨ ¬ Skips (used .always false [.offerForFrame 1 (.printableAscii 0x61) none]) .barrier :=
  refused_edit_bars_iff .always false [.offerForFrame 1 (.printableAscii 0x61) none] 2 .barrier
    none (by decide) (by decide) (by rintro ⟨highest, same, below⟩; cases same; exact absurd below (by decide))
    (by decide)

/-- A character typed inside the span is not shown, and the move after it is. -/
theorem skipped_character_bars_nothing :
    outputs operate (.new .always false)
        [.offerForFrame 1 (.printableAscii 0x61) none, .offerForFrame 2 .left none,
          .offerForFrame 3 (.printableAscii 0x62) none, .offerForFrame 4 .right none] =
      [.prediction (some (INSERT_CHARACTER ++ UNDERLINE_RENDITION ++ [0x61]
          ++ NO_UNDERLINE_RENDITION)),
        .prediction (some CURSOR_LEFT), .prediction none, .prediction (some CURSOR_RIGHT)] := by
  decide

end FerrumTty.Predict
