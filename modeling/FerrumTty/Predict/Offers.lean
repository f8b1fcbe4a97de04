import FerrumTty.Predict.PredictionOverlay
import FerrumTty.Library.Runs

/-!
# What an offer does

An offer is late, hidden, skipped, invalidating or shown. `OfferCase` lists the ways with the
overlay that each leaves, and what holds of every overlay in use is read off it.
-/

namespace FerrumTty.Predict

set_option autoImplicit false

open Crypto

namespace PredictionAction

/-- The bytes of a printable that is eligible. -/
def text : PredictionAction → Option Bytes
  | .printableAscii byte => if isAsciiGraphic byte || byte == 0x20 then some [byte] else none
  | .printableUtf8 character =>
      if isControl character then none else some (String.utf8EncodeChar character)
  | _ => none

end PredictionAction

namespace PredictionOverlay

def Late (overlay : PredictionOverlay) (frameId : UInt64) : Prop :=
  ∃ highest, overlay.highestFrameId = some highest ∧ frameId < highest

/-- The overlay that has counted an offer and taken its frame number. -/
def seen (overlay : PredictionOverlay) (frameId : UInt64) : PredictionOverlay :=
  { overlay.countOffer with highestFrameId := some frameId }

def Full (overlay : PredictionOverlay) : Prop :=
  overlay.pending.length ≥ MAXIMUM_PENDING_PREDICTIONS
    ∨ overlay.predictedAscii.length ≥ MAXIMUM_PENDING_PREDICTIONS

instance (overlay : PredictionOverlay) : Decidable overlay.Full :=
  inferInstanceAs (Decidable (_ ∨ _))

/-- The edits that are refused and leave the span as it is. -/
def Skipped (overlay : PredictionOverlay) (action : PredictionAction) : Prop :=
  match action with
  | .printableAscii _ | .printableUtf8 _ =>
      action.text ≠ none ∧ overlay.cursorOffset ≠ overlay.predictedAscii.length
  | .backspace =>
      overlay.cursorOffset = 0 ∨ overlay.cursorOffset ≠ overlay.predictedAscii.length
        ∨ overlay.lastAcknowledged = true
  | .left => overlay.cursorOffset = 0
  | .right => overlay.predictedAscii.length ≤ overlay.cursorOffset
  | .barrier => False

/-- The edits that end the span: what is no printable, and erasing what was overwritten. -/
def Unsupported (overlay : PredictionOverlay) (action : PredictionAction) : Prop :=
  match action with
  | .printableAscii _ | .printableUtf8 _ => action.text = none
  | .backspace => overlay.overwrite = true ∧ ¬ overlay.Skipped .backspace
  | .left | .right | .barrier => False

theorem unsupported_not_skipped {overlay : PredictionOverlay} {action : PredictionAction}
    (unsupported : overlay.Unsupported action) : ¬ overlay.Skipped action := by
  cases action with
  | printableAscii byte => exact fun skip => skip.1 unsupported
  | printableUtf8 character => exact fun skip => skip.1 unsupported
  | backspace => exact unsupported.2
  | left => cases unsupported
  | right => cases unsupported
  | barrier => cases unsupported

/-- A printable is skipped inside the span only. -/
theorem text_usual (overlay : PredictionOverlay) {action : PredictionAction}
    (printable : action.text ≠ none) :
    action ≠ .barrier
      ∧ (overlay.Skipped action ↔ overlay.cursorOffset ≠ overlay.predictedAscii.length)
      ∧ ¬ overlay.Unsupported action := by
  cases action with
  | printableAscii byte => exact ⟨by simp, by simp [Skipped, printable], printable⟩
  | printableUtf8 character => exact ⟨by simp, by simp [Skipped, printable], printable⟩
  | backspace | left | right | barrier => exact absurd rfl printable

/-- The anchor that a context is checked against. -/
def anchor (overlay : PredictionOverlay) (context : PredictionContext) : PredictionContext :=
  overlay.lineContext.getD context

/-- The overlay with its anchor set, where the offer brings a context. -/
def anchored (overlay : PredictionOverlay) : Option PredictionContext → PredictionOverlay
  | none => overlay
  | some context => { overlay with lineContext := some (overlay.anchor context) }

def Refuses (overlay : PredictionOverlay) (context : Option PredictionContext) : Prop :=
  ∃ given, context = some given ∧ overlay.refusedAt (overlay.anchor given) given = true

/-- The offer comes to the edit itself. -/
structure Open (overlay : PredictionOverlay) (frameId : UInt64) : Prop where
  inOrder : ¬ overlay.Late frameId
  enabled : overlay.displayEnabled = true
  settled : overlay.reconciliationRequired = false
  room : ¬ overlay.Full

inductive OfferCase (overlay : PredictionOverlay) (frameId : UInt64) (action : PredictionAction)
    (context : Option PredictionContext) : Option Bytes → PredictionOverlay → Prop
  | late (late : overlay.Late frameId) :
      OfferCase overlay frameId action context none overlay.countOffer
  | hidden (inOrder : ¬ overlay.Late frameId) (edits : action ≠ .barrier)
      (cause : overlay.displayEnabled = false ∨ overlay.reconciliationRequired = true) :
      OfferCase overlay frameId action context none (overlay.seen frameId)
  | skipped (reached : overlay.Open frameId) (skip : overlay.Skipped action) :
      OfferCase overlay frameId action context none (overlay.seen frameId)
  | invalidated (inOrder : ¬ overlay.Late frameId)
      (cause : action = .barrier ∨ overlay.displayEnabled = true
        ∧ overlay.reconciliationRequired = false ∧ (overlay.Full ∨ overlay.Unsupported action)) :
      OfferCase overlay frameId action context none (overlay.seen frameId).invalidateSpan
  | refused (reached : overlay.Open frameId) (printable : action.text ≠ none)
      (atEnd : overlay.cursorOffset = overlay.predictedAscii.length)
      (refuses : overlay.Refuses context) :
      OfferCase overlay frameId action context none
        ((overlay.seen frameId).anchored context).invalidateSpan
  | printed (reached : overlay.Open frameId) (bytes : Bytes) (printable : action.text = some bytes)
      (atEnd : overlay.cursorOffset = overlay.predictedAscii.length)
      (accepts : ¬ overlay.Refuses context) :
      OfferCase overlay frameId action context
        (((overlay.seen frameId).anchored context).pushPrintable frameId bytes context).1
        ((((overlay.seen frameId).anchored context).pushPrintable frameId bytes context).2.record
          frameId action)
  | erased (reached : overlay.Open frameId) (isBackspace : action = .backspace)
      (inside : overlay.cursorOffset ≠ 0)
      (atEnd : overlay.cursorOffset = overlay.predictedAscii.length)
      (tentative : overlay.lastAcknowledged = false) (inserts : overlay.overwrite = false) :
      OfferCase overlay frameId action context (some (CURSOR_LEFT ++ DELETE_CHARACTER))
        ({ overlay.seen frameId with
          predictedAscii := overlay.predictedAscii.dropLast
          cursorOffset := overlay.cursorOffset - 1
          displayedCells := overlay.displayedCells - 1
          rollbackCells := overlay.rollbackCells - 1
          overlayActive := true }.record frameId action)
  | left (reached : overlay.Open frameId) (isLeft : action = .left)
      (inside : overlay.cursorOffset ≠ 0) :
      OfferCase overlay frameId action context (some CURSOR_LEFT)
        ({ overlay.seen frameId with
          cursorOffset := overlay.cursorOffset - 1, overlayActive := true }.record frameId action)
  | right (reached : overlay.Open frameId) (isRight : action = .right)
      (inside : overlay.cursorOffset < overlay.predictedAscii.length) :
      OfferCase overlay frameId action context (some CURSOR_RIGHT)
        ({ overlay.seen frameId with
          cursorOffset := overlay.cursorOffset + 1, overlayActive := true }.record frameId action)

theorem late_iff (overlay : PredictionOverlay) (frameId : UInt64) :
    (overlay.highestFrameId.any fun highest => decide (frameId < highest)) = true ↔
      overlay.Late frameId := by
  simp only [Option.any_eq_true, decide_eq_true_eq, Late]

theorem refused_at_iff (overlay : PredictionOverlay) (frameId : UInt64)
    (given : PredictionContext) :
    ({ overlay.seen frameId with lineContext := some (overlay.anchor given) }).refusedAt
      (overlay.anchor given) given = true ↔ overlay.Refuses (some given) := by
  constructor
  · intro refuses
    exact ⟨given, rfl, refuses⟩
  · rintro ⟨other, same, refuses⟩
    cases same
    exact refuses

/-- The books are kept for what is shown only. -/
def recorded (result : Option Bytes × PredictionOverlay) (frameId : UInt64)
    (action : PredictionAction) : Option Bytes × PredictionOverlay :=
  match result with
  | (none, overlay) => (none, overlay)
  | (some output, overlay) => (some output, overlay.record frameId action)

section Reached

variable {overlay : PredictionOverlay} {frameId : UInt64}

abbrev Answers (overlay : PredictionOverlay) (frameId : UInt64) (action : PredictionAction)
    (context : Option PredictionContext) (result : Option Bytes × PredictionOverlay) : Prop :=
  OfferCase overlay frameId action context result.1 result.2

theorem invalidates_case {action : PredictionAction} (context : Option PredictionContext)
    (reached : overlay.Open frameId) (unsupported : overlay.Unsupported action) :
    Answers overlay frameId action context (none, (overlay.seen frameId).invalidateSpan) :=
  .invalidated reached.inOrder
    (Or.inr ⟨reached.enabled, reached.settled, Or.inr unsupported⟩)

theorem printable_case {action : PredictionAction} (context : Option PredictionContext)
    {bytes : Bytes} (reached : overlay.Open frameId) (printable : action.text = some bytes) :
    Answers overlay frameId action context
      (recorded ((overlay.seen frameId).predictPrintable frameId bytes context) frameId action) := by
  have shown : action.text ≠ none := by
    rw [printable]
    exact Option.some_ne_none bytes
  unfold predictPrintable
  split
  · next away => exact .skipped reached ((text_usual overlay shown).2.1.mpr away)
  · next close =>
      have atEnd : overlay.cursorOffset = overlay.predictedAscii.length := not_not.mp close
      cases context with
      | none => exact .printed reached bytes printable atEnd (by rintro ⟨_, absurd, _⟩; cases absurd)
      | some given =>
          dsimp only
          split
          · next refusal =>
              exact .refused reached shown atEnd ((refused_at_iff overlay frameId given).mp refusal)
          · next acceptance =>
              apply OfferCase.printed reached bytes printable atEnd
              intro refuses
              exact acceptance ((refused_at_iff overlay frameId given).mpr refuses)

theorem backspace_case (context : Option PredictionContext) (reached : overlay.Open frameId) :
    Answers overlay frameId .backspace context
      (recorded (overlay.seen frameId).predictBackspace frameId .backspace) := by
  unfold predictBackspace
  split
  · next away =>
      apply OfferCase.skipped reached
      rcases away with start | off
      · exact Or.inl start
      · exact Or.inr (Or.inl off)
  · next close =>
      rcases not_or.mp close with ⟨inside, off⟩
      have atEnd : overlay.cursorOffset = overlay.predictedAscii.length := not_not.mp off
      split
      · next echoed => exact .skipped reached (Or.inr (Or.inr echoed))
      · next tentative =>
          split
          · next overwrites =>
              have unsupported : overlay.Unsupported .backspace := by
                refine ⟨overwrites, ?_⟩
                rintro (start | away | echoed)
                · exact inside start
                · exact away atEnd
                · exact tentative echoed
              exact invalidates_case context reached unsupported
          · next inserts =>
              exact .erased reached rfl inside atEnd (Bool.eq_false_iff.mpr tentative)
                (Bool.eq_false_iff.mpr inserts)

theorem left_case (context : Option PredictionContext) (reached : overlay.Open frameId) :
    Answers overlay frameId .left context
      (recorded (overlay.seen frameId).predictLeft frameId .left) := by
  unfold predictLeft
  split
  · next start => exact .skipped reached start
  · next inside => exact .left reached rfl inside

theorem right_case (context : Option PredictionContext) (reached : overlay.Open frameId) :
    Answers overlay frameId .right context
      (recorded (overlay.seen frameId).predictRight frameId .right) := by
  unfold predictRight
  split
  · next beyond => exact .skipped reached beyond
  · next inside => exact .right reached rfl (Nat.lt_of_not_le inside)

theorem predict_case (action : PredictionAction) (context : Option PredictionContext)
    (reached : overlay.Open frameId) (edits : action ≠ .barrier) :
    Answers overlay frameId action context
      (recorded ((overlay.seen frameId).predict frameId action context) frameId action) := by
  cases action with
  | printableAscii byte =>
      rw [predict]
      split
      · next eligible =>
          apply printable_case context reached
          rw [PredictionAction.text, if_pos eligible]
      · next ineligible =>
          apply invalidates_case context reached
          rw [Unsupported, PredictionAction.text, if_neg ineligible]
  | printableUtf8 character =>
      rw [predict]
      split
      · next control =>
          apply invalidates_case context reached
          rw [Unsupported, PredictionAction.text, if_pos control]
      · next visible =>
          apply printable_case context reached
          rw [PredictionAction.text, if_neg visible]
  | backspace => exact backspace_case context reached
  | left => exact left_case context reached
  | right => exact right_case context reached
  | barrier => exact absurd rfl edits

end Reached

/-- The offer as a decision on the overlay that has seen it. -/
theorem offer_shape (overlay : PredictionOverlay) (frameId : UInt64) (action : PredictionAction)
    (context : Option PredictionContext) :
    overlay.offerForFrameWithContext frameId action context =
      if overlay.highestFrameId.any fun highest => decide (frameId < highest) then
        (none, overlay.countOffer)
      else if action = .barrier then (none, (overlay.seen frameId).invalidateSpan)
      else if overlay.displayEnabled = false then (none, overlay.seen frameId)
      else if overlay.reconciliationRequired then (none, overlay.seen frameId)
      else if overlay.Full then (none, (overlay.seen frameId).invalidateSpan)
      else recorded ((overlay.seen frameId).predict frameId action context) frameId action := rfl

theorem offer_case (overlay : PredictionOverlay) (frameId : UInt64) (action : PredictionAction)
    (context : Option PredictionContext) :
    Answers overlay frameId action context
      (overlay.offerForFrameWithContext frameId action context) := by
  rw [offer_shape]
  split
  · next above => exact .late ((late_iff overlay frameId).mp above)
  · next below =>
      have inOrder : ¬ overlay.Late frameId := fun late => below ((late_iff overlay frameId).mpr late)
      split
      · next barrier => exact .invalidated inOrder (Or.inl barrier)
      · next edits =>
          split
          · next disabled => exact .hidden inOrder edits (Or.inl disabled)
          · next shows =>
              have enabled : overlay.displayEnabled = true := by simpa using shows
              split
              · next required => exact .hidden inOrder edits (Or.inr required)
              · next unsettled =>
                  have settled : overlay.reconciliationRequired = false :=
                    Bool.eq_false_iff.mpr unsettled
                  split
                  · next full =>
                      exact .invalidated inOrder (Or.inr ⟨enabled, settled, Or.inl full⟩)
                  · next room =>
                      exact predict_case action context ⟨inOrder, enabled, settled, room⟩ edits

structure Shows (overlay : PredictionOverlay) (frameId : UInt64) (action : PredictionAction)
    (context : Option PredictionContext) : Prop where
  reached : overlay.Open frameId
  edits : action ≠ .barrier
  kept : ¬ overlay.Skipped action
  supported : ¬ overlay.Unsupported action
  accepts : action.text ≠ none → ¬ overlay.Refuses context

theorem offer_case_of {overlay after : PredictionOverlay} {frameId : UInt64}
    {action : PredictionAction} {context : Option PredictionContext} {answer : Option Bytes}
    (shape : overlay.offerForFrameWithContext frameId action context = (answer, after)) :
    OfferCase overlay frameId action context answer after := by
  have whole := offer_case overlay frameId action context
  rw [shape] at whole
  exact whole

theorem offer_shown_iff (overlay : PredictionOverlay) (frameId : UInt64)
    (action : PredictionAction) (context : Option PredictionContext) :
    (overlay.offerForFrameWithContext frameId action context).1 ≠ none ↔
      overlay.Shows frameId action context := by
  rcases shape : overlay.offerForFrameWithContext frameId action context with ⟨answer, after⟩
  have cases_of := offer_case_of shape
  clear shape
  constructor
  · intro shown
    cases cases_of with
    | late | hidden | skipped | invalidated | refused => exact absurd rfl shown
    | printed reached bytes printable atEnd accepts =>
        have some_text : action.text ≠ none := by
          rw [printable]
          exact Option.some_ne_none bytes
        rcases text_usual overlay some_text with ⟨edits, skips, supported⟩
        exact ⟨reached, edits, fun skip => skips.mp skip atEnd, supported, fun _ => accepts⟩
    | erased reached isBackspace inside atEnd tentative inserts =>
        subst isBackspace
        apply Shows.mk reached (by simp)
        · rintro (start | away | echoed)
          · exact inside start
          · exact away atEnd
          · rw [tentative] at echoed
            cases echoed
        · rintro ⟨overwrites, _⟩
          rw [inserts] at overwrites
          cases overwrites
        · exact fun printable => absurd rfl printable
    | left reached isLeft inside =>
        subst isLeft
        exact ⟨reached, by simp, inside, id, fun printable => absurd rfl printable⟩
    | right reached isRight inside =>
        subst isRight
        exact ⟨reached, by simp, Nat.not_le_of_lt inside, id,
          fun printable => absurd rfl printable⟩
  · rintro ⟨reached, edits, kept, supported, accepts⟩
    cases cases_of with
    | late late => exact absurd late reached.inOrder
    | hidden _ _ cause => simp [reached.enabled, reached.settled] at cause
    | skipped _ skip => exact absurd skip kept
    | invalidated _ cause =>
        rcases cause with barrier | ⟨_, _, full | unsupported⟩
        · exact absurd barrier edits
        · exact absurd full reached.room
        · exact absurd unsupported supported
    | refused _ printable _ refuses => exact absurd refuses (accepts printable)
    | printed => nofun
    | erased => nofun
    | left => nofun
    | right => nofun

end PredictionOverlay

end FerrumTty.Predict
