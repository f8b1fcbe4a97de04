import FerrumTty.Library.Stamped
import FerrumTty.Predict.Reconciliation

/-!
# How far a span is confirmed

Offers arrive in any order of frames and acknowledgements come as the peer likes. The overlay
keeps its books in frame order and within bounds, and calls a line acknowledged only when an
acknowledgement has covered every character left on it.
-/

namespace FerrumTty.Predict

set_option autoImplicit false

open Crypto Runs PredictionOverlay

theorem saturating_add_to_nat (value : UInt64) (amount : Nat) :
    (saturatingAdd64 value amount).toNat = min (value.toNat + amount) (2 ^ 64 - 1) := by
  rw [saturatingAdd64, UInt64.toNat_ofNat', Nat.mod_eq_of_lt]
  omega

def Reached (overlay : PredictionOverlay) (frameId : UInt64) : Prop :=
  ∃ highest, overlay.highestFrameId = some highest ∧ frameId ≤ highest

/-- The frames of what is shown, and the acknowledgements of them. -/
structure Confirmed (overlay : PredictionOverlay) : Prop where
  cells : Stamped PredictedCell.frameId overlay.highestFrameId overlay.predictedAscii
  pending : Stamped PredictionEntry.frameId overlay.highestFrameId overlay.pending
  reached : ∀ newest ∈ overlay.metrics.latestAcknowledgement, Reached overlay newest
  echoed : ∀ cell ∈ overlay.predictedAscii, cell.acknowledged = true →
    ∃ newest ∈ overlay.metrics.latestAcknowledgement, cell.frameId ≤ newest
  tentative : ∀ cell ∈ overlay.predictedAscii, cell.acknowledged = false →
    ∀ newest ∈ overlay.metrics.latestAcknowledgement, newest ≤ cell.frameId
  waiting : ∀ entry ∈ overlay.pending,
    ∀ newest ∈ overlay.metrics.latestAcknowledgement, newest ≤ entry.frameId

/-- The room that the overlay takes and the counts that it reports. -/
structure Metered (overlay : PredictionOverlay) : Prop where
  cells : overlay.predictedAscii.length ≤ MAXIMUM_PENDING_PREDICTIONS
  pending : overlay.pending.length ≤ MAXIMUM_PENDING_PREDICTIONS
  shown : overlay.metrics.displayed.toNat ≤ overlay.metrics.offered.toNat
  settled : min (overlay.metrics.reconciled.toNat + overlay.displayedCells) (2 ^ 64 - 1) ≤
    overlay.metrics.displayed.toNat

section Frames

variable {overlay : PredictionOverlay} {frameId : UInt64}

theorem new_confirmed (display : PredictionDisplay) (overwrite : Bool) :
    Confirmed (.new display overwrite) := by
  refine ⟨.empty _ _, .empty _ _, ?_, ?_, ?_, ?_⟩
  · intro newest member
    cases member
  · intro cell member
    cases member
  · intro cell member
    cases member
  · intro entry member
    cases member

theorem Confirmed.emptied (confirmed : Confirmed overlay) {after : PredictionOverlay}
    (cells : after.predictedAscii = []) (pending : after.pending = [])
    (highest : after.highestFrameId = overlay.highestFrameId)
    (newest : after.metrics.latestAcknowledgement = overlay.metrics.latestAcknowledgement) :
    Confirmed after := by
  constructor
  · rw [cells]
    exact .empty _ _
  · rw [pending]
    exact .empty _ _
  · unfold Reached
    rw [newest, highest]
    exact confirmed.reached
  · rw [cells]
    intro cell member
    cases member
  · rw [cells]
    intro cell member
    cases member
  · rw [pending]
    intro entry member
    cases member

theorem not_late (inOrder : ¬ overlay.Late frameId) :
    ∀ highest, overlay.highestFrameId = some highest → highest ≤ frameId :=
  fun highest known => UInt64.not_lt.mp fun late => inOrder ⟨highest, known, late⟩

theorem Confirmed.seen (confirmed : Confirmed overlay) (inOrder : ¬ overlay.Late frameId) :
    Confirmed (overlay.seen frameId) := by
  have raised := not_late inOrder
  refine ⟨confirmed.cells.reaches raised, confirmed.pending.reaches raised, ?_, confirmed.echoed,
    confirmed.tentative, confirmed.waiting⟩
  intro newest member
  obtain ⟨highest, known, below⟩ := confirmed.reached newest member
  exact ⟨frameId, rfl, UInt64.le_trans below (raised highest known)⟩

theorem Confirmed.counted (confirmed : Confirmed overlay) : Confirmed overlay.countOffer :=
  ⟨confirmed.cells, confirmed.pending, confirmed.reached, confirmed.echoed, confirmed.tentative,
    confirmed.waiting⟩

theorem Confirmed.invalidated (confirmed : Confirmed overlay) : Confirmed overlay.invalidateSpan :=
  confirmed.emptied rfl rfl rfl rfl

theorem Confirmed.anchored (confirmed : Confirmed overlay) (context : Option PredictionContext) :
    Confirmed (overlay.anchored context) := by
  cases context with
  | none => exact confirmed
  | some given =>
      exact ⟨confirmed.cells, confirmed.pending, confirmed.reached, confirmed.echoed,
        confirmed.tentative, confirmed.waiting⟩

theorem Confirmed.behind (confirmed : Confirmed overlay)
    (highest : overlay.highestFrameId = some frameId) :
    ∀ newest ∈ overlay.metrics.latestAcknowledgement, newest ≤ frameId := by
  intro newest member
  obtain ⟨last, known, below⟩ := confirmed.reached newest member
  rw [highest] at known
  exact Option.some.inj known ▸ below

theorem Confirmed.recorded (confirmed : Confirmed overlay)
    (highest : overlay.highestFrameId = some frameId) (action : PredictionAction) :
    Confirmed (overlay.record frameId action) := by
  have stamped : Stamped PredictionEntry.frameId (some frameId) overlay.pending :=
    highest ▸ confirmed.pending
  refine ⟨confirmed.cells, ?_, confirmed.reached, confirmed.echoed, confirmed.tentative, ?_⟩
  · change Stamped PredictionEntry.frameId overlay.highestFrameId (overlay.pending ++ [_])
    rw [highest]
    exact stamped.append rfl
  · intro entry member
    rcases List.mem_append.mp member with earlier | single
    · exact confirmed.waiting entry earlier
    · rw [List.mem_singleton.mp single]
      exact confirmed.behind highest

theorem Confirmed.printed (confirmed : Confirmed overlay)
    (highest : overlay.highestFrameId = some frameId) (bytes : Bytes)
    (context : Option PredictionContext) :
    Confirmed (overlay.pushPrintable frameId bytes context).2 := by
  have stamped : Stamped PredictedCell.frameId (some frameId) overlay.predictedAscii :=
    highest ▸ confirmed.cells
  refine ⟨?_, confirmed.pending, confirmed.reached, ?_, ?_, confirmed.waiting⟩
  · change Stamped PredictedCell.frameId overlay.highestFrameId (overlay.predictedAscii ++ [_])
    rw [highest]
    exact stamped.append rfl
  · intro cell member echoed
    rcases List.mem_append.mp member with earlier | single
    · exact confirmed.echoed cell earlier echoed
    · rw [List.mem_singleton.mp single] at echoed
      cases echoed
  · intro cell member unechoed
    rcases List.mem_append.mp member with earlier | single
    · exact confirmed.tentative cell earlier unechoed
    · rw [List.mem_singleton.mp single]
      exact confirmed.behind highest

theorem Confirmed.shortened (confirmed : Confirmed overlay) {after : PredictionOverlay}
    (cells : after.predictedAscii.Sublist overlay.predictedAscii)
    (pending : after.pending = overlay.pending)
    (highest : after.highestFrameId = overlay.highestFrameId)
    (newest : after.metrics.latestAcknowledgement = overlay.metrics.latestAcknowledgement) :
    Confirmed after := by
  constructor
  · rw [highest]
    exact confirmed.cells.sublist cells
  · rw [highest, pending]
    exact confirmed.pending
  · unfold Reached
    rw [newest, highest]
    exact confirmed.reached
  · rw [newest]
    exact fun cell member => confirmed.echoed cell (cells.subset member)
  · rw [newest]
    exact fun cell member => confirmed.tentative cell (cells.subset member)
  · rw [newest, pending]
    exact confirmed.waiting

theorem offer_confirmed (confirmed : Confirmed overlay) (frameId : UInt64)
    (action : PredictionAction) (context : Option PredictionContext) :
    Confirmed (overlay.offerForFrameWithContext frameId action context).2 := by
  rcases shape : overlay.offerForFrameWithContext frameId action context with ⟨answer, after⟩
  cases offer_case_of shape with
  | late => exact confirmed.counted
  | hidden inOrder => exact confirmed.seen inOrder
  | skipped reached => exact confirmed.seen reached.inOrder
  | invalidated inOrder => exact (confirmed.seen inOrder).invalidated
  | refused reached => exact ((confirmed.seen reached.inOrder).anchored context).invalidated
  | printed reached bytes =>
      have anchored := (confirmed.seen reached.inOrder).anchored context
      have highest : ((overlay.seen frameId).anchored context).highestFrameId = some frameId := by
        cases context <;> rfl
      exact (anchored.printed highest bytes context).recorded highest action
  | erased reached =>
      have shorter : Confirmed { overlay.seen frameId with
          predictedAscii := overlay.predictedAscii.dropLast
          cursorOffset := overlay.cursorOffset - 1
          displayedCells := overlay.displayedCells - 1
          rollbackCells := overlay.rollbackCells - 1
          overlayActive := true } :=
        (confirmed.seen reached.inOrder).shortened (List.dropLast_sublist _) rfl rfl rfl
      exact shorter.recorded rfl action
  | left reached =>
      have moved : Confirmed { overlay.seen frameId with
          cursorOffset := overlay.cursorOffset - 1, overlayActive := true } :=
        (confirmed.seen reached.inOrder).shortened (List.Sublist.refl _) rfl rfl rfl
      exact moved.recorded rfl action
  | right reached =>
      have moved : Confirmed { overlay.seen frameId with
          cursorOffset := overlay.cursorOffset + 1, overlayActive := true } :=
        (confirmed.seen reached.inOrder).shortened (List.Sublist.refl _) rfl rfl rfl
      exact moved.recorded rfl action

/-- The acknowledgements that count: new ones, of frames that were offered. -/
def Counts (overlay : PredictionOverlay) (acknowledgement : UInt64) : Prop :=
  Reached overlay acknowledgement ∧
    ∀ newest ∈ overlay.metrics.latestAcknowledgement, newest < acknowledgement

/-- What an acknowledgement that counts leaves. -/
def acknowledged (overlay : PredictionOverlay) (acknowledgement : UInt64) : PredictionOverlay :=
  { overlay with
    metrics := { overlay.metrics with latestAcknowledgement := some acknowledgement }
    pending := overlay.pending.dropWhile fun entry => decide (entry.frameId ≤ acknowledgement)
    predictedAscii := overlay.predictedAscii.map fun cell =>
      if cell.frameId ≤ acknowledgement then { cell with acknowledged := true } else cell }

theorem acknowledge_cases (overlay : PredictionOverlay) (acknowledgement : UInt64) :
    (¬ Counts overlay acknowledgement ∧ overlay.acknowledge acknowledgement = overlay) ∨
      Counts overlay acknowledgement ∧
        overlay.acknowledge acknowledgement = acknowledged overlay acknowledgement := by
  unfold acknowledge
  cases known : overlay.highestFrameId with
  | none =>
      refine Or.inl ⟨?_, rfl⟩
      rintro ⟨⟨highest, same, _⟩, _⟩
      rw [known] at same
      cases same
  | some highest =>
      dsimp only
      split_ifs with ignored
      · refine Or.inl ⟨?_, rfl⟩
        rintro ⟨⟨last, same, below⟩, newer⟩
        rw [known] at same
        cases same
        rcases ignored with beyond | older
        · exact UInt64.not_le.mpr beyond below
        · obtain ⟨newest, member, covered⟩ := (Option.any_eq_true _ _).mp older
          exact UInt64.not_le.mpr (newer newest member) (of_decide_eq_true covered)
      · rw [not_or] at ignored
        refine Or.inr ⟨⟨⟨highest, known, UInt64.not_lt.mp ignored.1⟩, ?_⟩, ?_⟩
        · intro newest member
          apply UInt64.not_le.mp
          intro covered
          exact ignored.2 ((Option.any_eq_true _ _).mpr ⟨newest, member, decide_eq_true covered⟩)
        · rw [acknowledged, known]

theorem Confirmed.acknowledged (confirmed : Confirmed overlay) {acknowledgement : UInt64}
    (counts : Counts overlay acknowledgement) : Confirmed (acknowledged overlay acknowledgement) := by
  have kept := confirmed.pending.drop_acknowledged acknowledgement
  refine ⟨confirmed.cells.map ?_, confirmed.pending.sublist (List.dropWhile_sublist _), ?_, ?_, ?_, ?_⟩
  · intro cell
    split_ifs <;> rfl
  · intro newest member
    cases member
    exact counts.1
  · intro cell member echoed
    obtain ⟨earlier, present, rfl⟩ := List.mem_map.mp member
    split_ifs at echoed ⊢ with covered
    · exact ⟨acknowledgement, rfl, covered⟩
    · obtain ⟨newest, latest, below⟩ := confirmed.echoed earlier present echoed
      exact absurd (UInt64.le_of_lt (UInt64.lt_of_le_of_lt below (counts.2 newest latest))) covered
  · intro cell member unechoed newest latest
    cases latest
    obtain ⟨earlier, present, rfl⟩ := List.mem_map.mp member
    split_ifs at unechoed ⊢ with covered
    exact UInt64.le_of_lt (UInt64.not_le.mp covered)
  · intro entry member newest latest
    cases latest
    change entry ∈ overlay.pending.dropWhile _ at member
    rw [kept] at member
    have beyond := (List.mem_filter.mp member).2
    exact UInt64.le_of_lt (UInt64.not_le.mp (by simpa using beyond))

theorem take_confirmed (confirmed : Confirmed overlay) : Confirmed overlay.takeReconciliation.2 := by
  rw [takeReconciliation]
  by_cases idle : overlay.overlayActive = false ∧ overlay.reconciliationRequired = false
  · rw [if_pos idle]
    exact confirmed
  · rw [if_neg idle]
    exact confirmed.emptied rfl rfl rfl rfl

theorem operate_confirmed (confirmed : Confirmed overlay) (operation : OverlayOperation) :
    Confirmed (operate overlay operation).2 := by
  cases operation with
  | setRoundTripMilliseconds milliseconds =>
      exact ⟨confirmed.cells, confirmed.pending, confirmed.reached, confirmed.echoed,
        confirmed.tentative, confirmed.waiting⟩
  | offer kind bytes =>
      rcases offer_eq overlay kind bytes with nothing | ⟨frameId, action, same⟩
      · rw [operate, nothing]
        exact confirmed
      · rw [operate, same]
        exact offer_confirmed confirmed frameId action none
  | offerForFrame frameId action context => exact offer_confirmed confirmed frameId action context
  | takeReconciliation => exact take_confirmed confirmed
  | reconcile => exact take_confirmed confirmed
  | acknowledge acknowledgement =>
      change Confirmed (overlay.acknowledge acknowledgement)
      rcases acknowledge_cases overlay acknowledgement with ⟨_, same⟩ | ⟨counts, same⟩
      · rw [same]
        exact confirmed
      · rw [same]
        exact confirmed.acknowledged counts

end Frames

section Meters

variable {overlay after : PredictionOverlay}

theorem new_metered (display : PredictionDisplay) (overwrite : Bool) :
    Metered (.new display overwrite) := by
  exact ⟨Nat.zero_le _, Nat.zero_le _, Nat.le_refl _, Nat.zero_le _⟩

theorem Metered.quiet (metered : Metered overlay)
    (cells : after.predictedAscii.length ≤ overlay.predictedAscii.length)
    (pending : after.pending.length ≤ overlay.pending.length)
    (offered : overlay.metrics.offered.toNat ≤ after.metrics.offered.toNat)
    (displayed : after.metrics.displayed = overlay.metrics.displayed)
    (reconciled : after.metrics.reconciled = overlay.metrics.reconciled)
    (shown : after.displayedCells = overlay.displayedCells) : Metered after where
  cells := Nat.le_trans cells metered.cells
  pending := Nat.le_trans pending metered.pending
  shown := by
    rw [displayed]
    exact Nat.le_trans metered.shown offered
  settled := by
    rw [displayed, reconciled, shown]
    exact metered.settled

theorem offered_grows (overlay : PredictionOverlay) :
    overlay.metrics.offered.toNat ≤ (saturatingAdd64 overlay.metrics.offered 1).toNat := by
  have small := overlay.metrics.offered.toNat_lt
  rw [saturating_add_to_nat]
  omega

theorem Metered.shows (metered : Metered overlay) (room : ¬ overlay.Full)
    (cells : after.predictedAscii.length ≤ overlay.predictedAscii.length + 1)
    (pending : after.pending.length = overlay.pending.length + 1)
    (offered : after.metrics.offered = saturatingAdd64 overlay.metrics.offered 1)
    (displayed : after.metrics.displayed = saturatingAdd64 overlay.metrics.displayed 1)
    (reconciled : after.metrics.reconciled = overlay.metrics.reconciled)
    (shown : after.displayedCells ≤ overlay.displayedCells + 1) : Metered after := by
  rw [Full, not_or] at room
  refine ⟨by omega, by omega, ?_, ?_⟩
  · rw [offered, displayed, saturating_add_to_nat, saturating_add_to_nat]
    have before := metered.shown
    generalize (2 ^ 64 - 1 : Nat) = most
    omega
  · rw [displayed, reconciled, saturating_add_to_nat]
    have before := metered.settled
    generalize (2 ^ 64 - 1 : Nat) = most at before ⊢
    omega

theorem offer_metered (metered : Metered overlay) (frameId : UInt64) (action : PredictionAction)
    (context : Option PredictionContext) :
    Metered (overlay.offerForFrameWithContext frameId action context).2 := by
  have grows := offered_grows overlay
  rcases shape : overlay.offerForFrameWithContext frameId action context with ⟨answer, after⟩
  cases offer_case_of shape with
  | late => exact metered.quiet (Nat.le_refl _) (Nat.le_refl _) grows rfl rfl rfl
  | hidden => exact metered.quiet (Nat.le_refl _) (Nat.le_refl _) grows rfl rfl rfl
  | skipped => exact metered.quiet (Nat.le_refl _) (Nat.le_refl _) grows rfl rfl rfl
  | invalidated => exact metered.quiet (Nat.zero_le _) (Nat.zero_le _) grows rfl rfl rfl
  | refused =>
      cases context <;> exact metered.quiet (Nat.zero_le _) (Nat.zero_le _) grows rfl rfl rfl
  | printed reached bytes =>
      have longer : (overlay.predictedAscii ++ [PredictedCell.mk frameId false]).length ≤
          overlay.predictedAscii.length + 1 := by
        rw [List.length_append]
        exact Nat.le_refl _
      cases context <;>
        exact metered.shows reached.room longer List.length_append rfl rfl rfl (Nat.le_refl _)
  | erased reached =>
      have shorter : overlay.predictedAscii.dropLast.length ≤ overlay.predictedAscii.length + 1 := by
        rw [List.length_dropLast]
        omega
      have fewer : overlay.displayedCells - 1 ≤ overlay.displayedCells + 1 := by omega
      exact metered.shows reached.room shorter List.length_append rfl rfl rfl fewer
  | left reached =>
      exact metered.shows reached.room (Nat.le_succ _) List.length_append rfl rfl rfl (Nat.le_succ _)
  | right reached =>
      exact metered.shows reached.room (Nat.le_succ _) List.length_append rfl rfl rfl (Nat.le_succ _)

theorem take_metered (metered : Metered overlay) : Metered overlay.takeReconciliation.2 := by
  rw [takeReconciliation]
  by_cases idle : overlay.overlayActive = false ∧ overlay.reconciliationRequired = false
  · rw [if_pos idle]
    exact metered
  · rw [if_neg idle]
    refine ⟨Nat.zero_le _, Nat.zero_le _, metered.shown, ?_⟩
    have settled := metered.settled
    change min ((saturatingAdd64 overlay.metrics.reconciled overlay.displayedCells).toNat + 0)
      (2 ^ 64 - 1) ≤ overlay.metrics.displayed.toNat
    rw [saturating_add_to_nat]
    omega

theorem operate_metered (metered : Metered overlay) (operation : OverlayOperation) :
    Metered (operate overlay operation).2 := by
  cases operation with
  | setRoundTripMilliseconds milliseconds =>
      exact metered.quiet (Nat.le_refl _) (Nat.le_refl _) (Nat.le_refl _) rfl rfl rfl
  | offer kind bytes =>
      rcases offer_eq overlay kind bytes with nothing | ⟨frameId, action, same⟩
      · rw [operate, nothing]
        exact metered
      · rw [operate, same]
        exact offer_metered metered frameId action none
  | offerForFrame frameId action context => exact offer_metered metered frameId action context
  | takeReconciliation => exact take_metered metered
  | reconcile => exact take_metered metered
  | acknowledge acknowledgement =>
      change Metered (overlay.acknowledge acknowledgement)
      rcases acknowledge_cases overlay acknowledgement with ⟨_, same⟩ | ⟨_, same⟩
      · rw [same]
        exact metered
      · rw [same]
        apply metered.quiet
        · rw [acknowledged, List.length_map]
        · exact (List.dropWhile_sublist _).length_le
        · exact Nat.le_refl _
        · rfl
        · rfl
        · rfl

end Meters

section Run

variable (display : PredictionDisplay) (overwrite : Bool)

theorem used_confirmed (operations : List OverlayOperation) :
    Confirmed (used display overwrite operations) :=
  invariant_final operate Confirmed (fun _ operation confirmed => operate_confirmed confirmed operation)
    (new_confirmed display overwrite) operations

theorem used_metered (operations : List OverlayOperation) :
    Metered (used display overwrite operations) :=
  invariant_final operate Metered (fun _ operation metered => operate_metered metered operation)
    (new_metered display overwrite) operations

theorem offer_latest (overlay : PredictionOverlay) (frameId : UInt64) (action : PredictionAction)
    (context : Option PredictionContext) :
    (overlay.offerForFrameWithContext frameId action context).2.metrics.latestAcknowledgement =
      overlay.metrics.latestAcknowledgement := by
  rcases shape : overlay.offerForFrameWithContext frameId action context with ⟨answer, after⟩
  cases offer_case_of shape with
  | refused => cases context <;> rfl
  | printed => cases context <;> rfl
  | _ => rfl

theorem operate_latest (overlay : PredictionOverlay) (operation : OverlayOperation) :
    (operate overlay operation).2.metrics.latestAcknowledgement =
        overlay.metrics.latestAcknowledgement ∨
      ∃ acknowledgement, operation = .acknowledge acknowledgement ∧ Counts overlay acknowledgement ∧
        (operate overlay operation).2.metrics.latestAcknowledgement = some acknowledgement := by
  have taken : overlay.takeReconciliation.2.metrics.latestAcknowledgement =
      overlay.metrics.latestAcknowledgement := by
    rw [takeReconciliation]
    split_ifs <;> rfl
  cases operation with
  | setRoundTripMilliseconds milliseconds => exact Or.inl rfl
  | offer kind bytes =>
      rcases offer_eq overlay kind bytes with nothing | ⟨frameId, action, same⟩
      · exact Or.inl (by rw [operate, nothing])
      · exact Or.inl (by rw [operate, same]; exact offer_latest overlay frameId action none)
  | offerForFrame frameId action context =>
      exact Or.inl (offer_latest overlay frameId action context)
  | takeReconciliation => exact Or.inl taken
  | reconcile => exact Or.inl taken
  | acknowledge acknowledgement =>
      rw [operate]
      rcases acknowledge_cases overlay acknowledgement with ⟨_, same⟩ | ⟨counts, same⟩
      · exact Or.inl (by rw [same])
      · exact Or.inr ⟨acknowledgement, rfl, counts, by rw [same]; rfl⟩

theorem used_concat (operations : List OverlayOperation) (operation : OverlayOperation) :
    used display overwrite (operations ++ [operation]) =
      (operate (used display overwrite operations) operation).2 := by
  rw [used, final_concat]
  rfl

theorem latest_arrived {operations : List OverlayOperation} {newest : UInt64}
    (latest : (used display overwrite operations).metrics.latestAcknowledgement = some newest) :
    .acknowledge newest ∈ operations := by
  induction operations using List.reverseRecOn with
  | nil => cases latest
  | append_singleton operations operation induction =>
      rw [used_concat] at latest
      rcases operate_latest (used display overwrite operations) operation with
        same | ⟨acknowledgement, asked, _, moved⟩
      · rw [same] at latest
        exact List.mem_append_left _ (induction latest)
      · rw [moved] at latest
        cases latest
        rw [asked]
        exact List.mem_append_right _ List.mem_cons_self

theorem acknowledgement_forward (overlay : PredictionOverlay) (operations : List OverlayOperation)
    {old : UInt64} (held : overlay.metrics.latestAcknowledgement = some old) :
    ∃ new, (final operate overlay operations).metrics.latestAcknowledgement = some new ∧ old ≤ new := by
  induction operations generalizing overlay old with
  | nil => exact ⟨old, held, UInt64.le_refl old⟩
  | cons operation rest induction =>
      rw [final_cons]
      rcases operate_latest overlay operation with same | ⟨acknowledgement, _, counts, moved⟩
      · exact induction _ (same.trans held)
      · obtain ⟨new, reached, later⟩ := induction _ moved
        exact ⟨new, reached, UInt64.le_trans (UInt64.le_of_lt (counts.2 old held)) later⟩

theorem line_acknowledged_iff {overlay : PredictionOverlay} :
    overlay.lineConfidence = some .acknowledged ↔
      overlay.predictedAscii ≠ [] ∧ ∀ cell ∈ overlay.predictedAscii, cell.acknowledged = true := by
  unfold lineConfidence
  cases overlay.predictedAscii with
  | nil => simp
  | cons cell rest =>
      rw [← List.all_eq_true]
      cases (cell :: rest).all PredictedCell.acknowledged <;> simp

theorem Confirmed.line {overlay : PredictionOverlay} (confirmed : Confirmed overlay)
    (acknowledged : overlay.lineConfidence = some .acknowledged) :
    ∃ newest, overlay.metrics.latestAcknowledgement = some newest ∧
      ∀ cell ∈ overlay.predictedAscii, cell.frameId ≤ newest := by
  obtain ⟨shown, echoed⟩ := line_acknowledged_iff.mp acknowledged
  obtain ⟨first, member⟩ := List.exists_mem_of_ne_nil _ shown
  obtain ⟨newest, latest, _⟩ := confirmed.echoed first member (echoed first member)
  refine ⟨newest, latest, ?_⟩
  intro cell present
  obtain ⟨other, same, covered⟩ := confirmed.echoed cell present (echoed cell present)
  rw [Option.mem_def.mp latest] at same
  exact Option.some.inj same ▸ covered

theorem covered_line {overlay : PredictionOverlay} {acknowledgement : UInt64}
    (counts : Counts overlay acknowledgement) (shown : overlay.predictedAscii ≠ [])
    (covers : ∀ cell ∈ overlay.predictedAscii, cell.frameId ≤ acknowledgement) :
    (overlay.acknowledge acknowledgement).lineConfidence = some .acknowledged := by
  rcases acknowledge_cases overlay acknowledgement with ⟨ignored, _⟩ | ⟨_, same⟩
  · exact absurd counts ignored
  · rw [same, line_acknowledged_iff]
    constructor
    · intro nothing
      exact shown (List.map_eq_nil_iff.mp nothing)
    · intro cell member
      obtain ⟨earlier, present, rfl⟩ := List.mem_map.mp member
      rw [if_pos (covers earlier present)]

/-- After any operations a line is acknowledged only if an acknowledgement that arrived covers all
that is left on it, and one that covers it does confirm it. Acknowledgements never go back or
beyond the frames offered, and the books stay within their bounds. -/
theorem acknowledged_line_echoed (operations : List OverlayOperation) :
    ((used display overwrite operations).lineConfidence = some .acknowledged →
      ∃ newest, .acknowledge newest ∈ operations ∧ Reached (used display overwrite operations) newest ∧
        ∀ cell ∈ (used display overwrite operations).predictedAscii, cell.frameId ≤ newest) ∧
      (∀ acknowledgement, Counts (used display overwrite operations) acknowledgement →
        (used display overwrite operations).predictedAscii ≠ [] →
        (∀ cell ∈ (used display overwrite operations).predictedAscii,
          cell.frameId ≤ acknowledgement) →
        (used display overwrite (operations ++ [.acknowledge acknowledgement])).lineConfidence =
          some .acknowledged) ∧
      (∀ earlier later, operations = earlier ++ later → ∀ old,
        (used display overwrite earlier).metrics.latestAcknowledgement = some old →
        ∃ new, (used display overwrite operations).metrics.latestAcknowledgement = some new ∧
          old ≤ new) ∧
      Confirmed (used display overwrite operations) ∧ Metered (used display overwrite operations) ∧
      (used display overwrite operations).metrics.reconciled.toNat ≤
        (used display overwrite operations).metrics.displayed.toNat := by
  have confirmed := used_confirmed display overwrite operations
  have metered := used_metered display overwrite operations
  refine ⟨?_, ?_, ?_, confirmed, metered, ?_⟩
  · intro acknowledged
    obtain ⟨newest, latest, covers⟩ := confirmed.line acknowledged
    exact ⟨newest, latest_arrived display overwrite latest, confirmed.reached newest latest, covers⟩
  · intro acknowledgement counts shown covers
    rw [used_concat]
    exact covered_line counts shown covers
  · intro earlier later split old held
    rw [used, split, final_append]
    exact acknowledgement_forward _ later held
  · have settled := metered.settled
    have small := (used display overwrite operations).metrics.reconciled.toNat_lt
    omega

end Run

end FerrumTty.Predict
