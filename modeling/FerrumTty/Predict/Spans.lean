import FerrumTty.Predict.Operations

/-!
# Insert-mode spans

A run of offers that carry one context, from an overlay without a span. `Spans` keeps the anchor
and the longest extent of the span, whatever the offers are. An anchor left over from an earlier
context is the one that counts; at another place it refuses every character.
-/

namespace FerrumTty.Predict

set_option autoImplicit false

open Crypto Runs PredictionOverlay

abbrev Offer := UInt64 × PredictionAction

/-- An offer that carries the context. -/
def offerAt (context : PredictionContext) (overlay : PredictionOverlay) (offer : Offer) :
    Option Bytes × PredictionOverlay :=
  overlay.offerForFrameWithContext offer.1 offer.2 (some context)

def shownBytes (context : PredictionContext) (overlay : PredictionOverlay) (offers : List Offer) :
    Bytes :=
  (outputs (offerAt context) overlay offers).flatMap fun output => output.getD []

/-- The most characters that the span has at any time. -/
def longestSpan (context : PredictionContext) : PredictionOverlay → List Offer → Nat
  | overlay, [] => overlay.predictedAscii.length
  | overlay, offer :: rest =>
      max overlay.predictedAscii.length (longestSpan context (offerAt context overlay offer).2 rest)

theorem longest_first (context : PredictionContext) (overlay : PredictionOverlay)
    (offers : List Offer) :
    overlay.predictedAscii.length ≤ longestSpan context overlay offers := by
  cases offers with
  | nil => exact Nat.le_refl _
  | cons => exact Nat.le_max_left _ _

theorem shown_bytes_cons (context : PredictionContext) (overlay : PredictionOverlay)
    (offer : Offer) (rest : List Offer) :
    shownBytes context overlay (offer :: rest) =
      (offerAt context overlay offer).1.getD [] ++
        shownBytes context (offerAt context overlay offer).2 rest := by
  rw [shownBytes, outputs_cons, List.flatMap_cons]
  rfl

structure SamePlace (held context : PredictionContext) : Prop where
  row : held.row = context.row
  column : held.column = context.column
  columns : held.columns = context.columns

/-- The overlay in the course of a span anchored at `held` that had `lost` characters at its
longest. -/
structure Spans (context held : PredictionContext) (overlay : PredictionOverlay) (lost : Nat) :
    Prop where
  consistent : Consistent overlay
  inserts : overlay.overwrite = false
  place : SamePlace held context
  anchor : overlay.lineContext = some held
    ∨ overlay.lineContext = none ∧ held = context ∧ overlay.overlayActive = false
  untouched : overlay.overlayActive = false → lost = 0
  room : context.column.toNat + lost < context.columns.toNat
  enough : overlay.rollbackCells ≤ lost

section Steps

variable {context held : PredictionContext} {overlay : PredictionOverlay} {lost : Nat}

theorem spans_start (bare : Bare overlay) (inserts : overlay.overwrite = false)
    (inside : context.column.toNat < context.columns.toNat)
    (place : SamePlace (overlay.anchor context) context) :
    Spans context (overlay.anchor context) overlay 0 where
  consistent := bare.consistent
  inserts := inserts
  place := place
  anchor := by
    rcases anchor : overlay.lineContext with _ | held
    · exact Or.inr ⟨rfl, by rw [PredictionOverlay.anchor, anchor]; rfl, bare.active⟩
    · exact Or.inl (by rw [PredictionOverlay.anchor, anchor]; rfl)
  untouched _ := rfl
  room := inside
  enough := by
    rw [bare.rollback]

variable (spans : Spans context held overlay lost)

include spans

theorem Spans.fits : overlay.predictedAscii.length ≤ lost := by
  by_cases required : overlay.reconciliationRequired = true
  · rw [spans.consistent.emptied required]
    exact Nat.zero_le _
  · rw [← (spans.consistent.counted (Bool.eq_false_iff.mpr required)).2]
    exact spans.enough

theorem Spans.anchored : overlay.anchor context = held := by
  rcases spans.anchor with some_anchor | ⟨no_anchor, same, _⟩
  · rw [PredictionOverlay.anchor, some_anchor]
    rfl
  · rw [PredictionOverlay.anchor, no_anchor, same]
    rfl

theorem Spans.active_offset (inside : overlay.cursorOffset ≠ 0) : overlay.overlayActive = true := by
  by_contra idle
  exact inside (spans.consistent.bare (Bool.eq_false_iff.mpr idle)).offset

theorem Spans.active_cells (some_cells : overlay.predictedAscii ≠ []) :
    overlay.overlayActive = true := by
  by_contra idle
  exact some_cells (spans.consistent.bare (Bool.eq_false_iff.mpr idle)).cells

theorem Spans.anchor_held (active : overlay.overlayActive = true) : overlay.lineContext = some held := by
  rcases spans.anchor with same | ⟨_, _, idle⟩
  · exact same
  · rw [active] at idle
    cases idle

theorem Spans.margin (atEnd : overlay.cursorOffset = overlay.predictedAscii.length)
    (accepts : ¬ overlay.Refuses (some context)) :
    context.column.toNat + overlay.predictedAscii.length + 1 < context.columns.toNat := by
  by_contra beyond
  apply accepts
  refine ⟨context, rfl, ?_⟩
  rw [spans.anchored]
  simp only [refusedAt, spans.place.row, spans.place.column, spans.place.columns,
    bne_self_eq_false, Bool.false_or, decide_eq_true_eq, atEnd]
  omega

theorem Spans.quiet {after : PredictionOverlay} (kept : Consistent after)
    (overwrite : after.overwrite = overlay.overwrite)
    (anchor : after.lineContext = overlay.lineContext ∨ after.lineContext = some held)
    (active : after.overlayActive = overlay.overlayActive)
    (rollback : after.rollbackCells = overlay.rollbackCells)
    (cells : after.predictedAscii = overlay.predictedAscii ∨ after.predictedAscii = []) :
    Spans context held after (max lost after.predictedAscii.length) := by
  have fits : max lost after.predictedAscii.length = lost := by
    rcases cells with same | none
    · rw [same]
      exact Nat.max_eq_left spans.fits
    · rw [none]
      exact Nat.max_eq_left (Nat.zero_le _)
  rw [fits]
  exact {
    consistent := kept
    inserts := overwrite.trans spans.inserts
    place := spans.place
    anchor := by
      rw [active]
      rcases anchor with same | set
      · rw [same]
        exact spans.anchor
      · exact Or.inl set
    untouched := by
      rw [active]
      exact spans.untouched
    room := spans.room
    enough := by
      rw [rollback]
      exact spans.enough }

theorem Spans.shown {after : PredictionOverlay} (kept : Consistent after)
    (overwrite : after.overwrite = overlay.overwrite) (anchor : after.lineContext = some held)
    (active : after.overlayActive = true)
    (settled : after.reconciliationRequired = false)
    (room : context.column.toNat + after.predictedAscii.length < context.columns.toNat) :
    Spans context held after (max lost after.predictedAscii.length) where
  consistent := kept
  inserts := overwrite.trans spans.inserts
  place := spans.place
  anchor := Or.inl anchor
  untouched := by
    rw [active]
    intro idle
    cases idle
  room := by
    have before := spans.room
    omega
  enough := by
    rw [(kept.counted settled).2]
    exact Nat.le_max_right _ _

theorem spans_offer (offer : Offer) :
    Spans context held (offerAt context overlay offer).2
      (max lost (offerAt context overlay offer).2.predictedAscii.length) := by
  rcases offer with ⟨frameId, action⟩
  have kept := offer_consistent spans.consistent frameId action (some context)
  have room := spans.room
  have fits := spans.fits
  simp only [offerAt]
  rcases shape : overlay.offerForFrameWithContext frameId action (some context) with ⟨answer, after⟩
  rw [shape] at kept
  cases offer_case_of shape with
  | late => exact spans.quiet kept rfl (Or.inl rfl) rfl rfl (Or.inl rfl)
  | hidden => exact spans.quiet kept rfl (Or.inl rfl) rfl rfl (Or.inl rfl)
  | skipped => exact spans.quiet kept rfl (Or.inl rfl) rfl rfl (Or.inl rfl)
  | invalidated => exact spans.quiet kept rfl (Or.inl rfl) rfl rfl (Or.inr rfl)
  | refused =>
      exact spans.quiet kept rfl (Or.inr (congrArg some spans.anchored)) rfl rfl (Or.inr rfl)
  | printed reached bytes printable atEnd accepts =>
      have margin := spans.margin atEnd accepts
      have grown : (overlay.predictedAscii ++ [({ frameId, acknowledged := false } :
          PredictedCell)]).length = overlay.predictedAscii.length + 1 := List.length_append
      rw [Nat.add_assoc, ← grown] at margin
      exact spans.shown kept rfl (congrArg some spans.anchored) rfl reached.settled margin
  | erased reached _ inside =>
      apply spans.shown kept rfl (spans.anchor_held (spans.active_offset inside)) rfl reached.settled
      change context.column.toNat + overlay.predictedAscii.dropLast.length < _
      rw [List.length_dropLast]
      omega
  | left reached _ inside =>
      apply spans.shown kept rfl (spans.anchor_held (spans.active_offset inside)) rfl reached.settled
      exact Nat.lt_of_le_of_lt (Nat.add_le_add_left fits _) room
  | right reached _ inside =>
      have some_cells : overlay.predictedAscii ≠ [] := List.ne_nil_of_length_pos (by omega)
      apply spans.shown kept rfl (spans.anchor_held (spans.active_cells some_cells)) rfl reached.settled
      exact Nat.lt_of_le_of_lt (Nat.add_le_add_left fits _) room

end Steps

variable {context held : PredictionContext}

theorem longest_step {overlay : PredictionOverlay} {lost : Nat}
    (fits : overlay.predictedAscii.length ≤ lost) (offer : Offer) (rest : List Offer) :
    max (max lost (offerAt context overlay offer).2.predictedAscii.length)
        (longestSpan context (offerAt context overlay offer).2 rest) =
      max lost (longestSpan context overlay (offer :: rest)) := by
  have first := longest_first context (offerAt context overlay offer).2 rest
  rw [longestSpan]
  omega

/-- An anchor left over from another place. -/
structure Estranged (context : PredictionContext) (overlay : PredictionOverlay) : Prop where
  bare : Bare overlay
  elsewhere : ∃ held, overlay.lineContext = some held ∧ ¬ SamePlace held context

theorem estranged_refuses {overlay : PredictionOverlay} (estranged : Estranged context overlay) :
    overlay.Refuses (some context) := by
  rcases estranged.elsewhere with ⟨held, left, apart⟩
  refine ⟨context, rfl, ?_⟩
  rw [PredictionOverlay.anchor, left, Option.getD_some]
  by_contra close
  apply apart
  simp only [refusedAt, Bool.or_eq_true, bne_iff_ne, not_or, not_not] at close
  exact ⟨close.1.1.1, close.1.1.2, close.1.2⟩

theorem estranged_offer {overlay : PredictionOverlay} (estranged : Estranged context overlay)
    (offer : Offer) :
    (offerAt context overlay offer).1 = none
      ∧ Estranged context (offerAt context overlay offer).2 := by
  rcases offer with ⟨frameId, action⟩
  have bare := estranged.bare
  have refuses := estranged_refuses estranged
  rcases estranged.elsewhere with ⟨held, left, apart⟩
  have still : some (overlay.anchor context) = some held := by
    rw [PredictionOverlay.anchor, left, Option.getD_some]
  simp only [offerAt]
  rcases shape : overlay.offerForFrameWithContext frameId action (some context) with ⟨answer, after⟩
  cases offer_case_of shape with
  | late => exact ⟨rfl, bare.counted, held, left, apart⟩
  | hidden => exact ⟨rfl, bare.seen frameId, held, left, apart⟩
  | skipped => exact ⟨rfl, bare.seen frameId, held, left, apart⟩
  | invalidated => exact ⟨rfl, (bare.seen frameId).invalidated, held, left, apart⟩
  | refused =>
      exact ⟨rfl, ((bare.seen frameId).anchored (some context)).invalidated, held, still, apart⟩
  | printed _ _ _ _ accepts => exact absurd refuses accepts
  | erased _ _ inside => exact absurd bare.offset inside
  | left _ _ inside => exact absurd bare.offset inside
  | right _ _ inside =>
      rw [bare.cells] at inside
      exact absurd inside (Nat.not_lt_zero _)

theorem estranged_run {overlay : PredictionOverlay} (estranged : Estranged context overlay)
    (offers : List Offer) :
    shownBytes context overlay offers = [] ∧ longestSpan context overlay offers = 0
      ∧ Estranged context (final (offerAt context) overlay offers) := by
  induction offers generalizing overlay with
  | nil =>
      refine ⟨rfl, ?_, estranged⟩
      rw [longestSpan, estranged.bare.cells]
      rfl
  | cons offer rest induction =>
      rcases estranged_offer estranged offer with ⟨nothing, next⟩
      rcases induction next with ⟨bytes, longest, last⟩
      refine ⟨?_, ?_, last⟩
      · rw [shown_bytes_cons, nothing, bytes]
        rfl
      · rw [longestSpan, longest, estranged.bare.cells]
        rfl

end FerrumTty.Predict
