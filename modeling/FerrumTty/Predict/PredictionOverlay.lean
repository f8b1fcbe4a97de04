import FerrumTty.Crypto.SecureChannel
import FerrumTty.Library.Decimal

/-!
# Prediction overlays

`ferrumtty-predict`: the tentative edits that the client shows before the server confirms
them, and how it takes them back. The `usize` counters are natural numbers, since none of
them passes the bound on pending predictions.
-/

namespace FerrumTty.Predict

set_option autoImplicit false

open Crypto

def UNDERLINE_RENDITION : Bytes := [0x1b, 0x5b, 0x34, 0x6d]
def NO_UNDERLINE_RENDITION : Bytes := [0x1b, 0x5b, 0x32, 0x34, 0x6d]
def INSERT_CHARACTER : Bytes := [0x1b, 0x5b, 0x40]
def DELETE_CHARACTER : Bytes := [0x1b, 0x5b, 0x50]
def CURSOR_LEFT : Bytes := [0x1b, 0x5b, 0x44]
def CURSOR_RIGHT : Bytes := [0x1b, 0x5b, 0x43]
def ADAPTIVE_DISPLAY_MILLISECONDS : UInt16 := 20
def MAXIMUM_PENDING_PREDICTIONS : Nat := 1024

/-- `u16::saturating_add(1)`. -/
def saturatingSucc16 (value : UInt16) : UInt16 := if value = 0xffff then value else value + 1

/-- `u64::saturating_add`. -/
def saturatingAdd64 (value : UInt64) (amount : Nat) : UInt64 :=
  UInt64.ofNat (min (value.toNat + amount) (2 ^ 64 - 1))

/-- `u64::checked_add(1)`. -/
def checkedSucc64 (value : UInt64) : Option UInt64 :=
  if value = 0xffffffffffffffff then none else some (value + 1)

/-- `u8::is_ascii_graphic`. -/
def isAsciiGraphic (byte : UInt8) : Bool := 0x21 ≤ byte && byte ≤ 0x7e

/-- `char::is_control`: the general category Cc. -/
def isControl (character : Char) : Bool :=
  character.toNat < 0x20 || (0x7f ≤ character.toNat && character.toNat < 0xa0)

inductive PredictionDisplay where
  | adaptive
  | always
  | never
  deriving DecidableEq, Repr

inductive InputKind where
  | key
  | paste
  | mouse
  | focus
  deriving DecidableEq, Repr

inductive PredictionAction where
  | printableAscii (byte : UInt8)
  | printableUtf8 (character : Char)
  | backspace
  | left
  | right
  | barrier
  deriving DecidableEq, Repr

def singlePrintableAction (bytes : Bytes) : Option PredictionAction :=
  match String.fromUTF8? ⟨bytes.toArray⟩ with
  | none => none
  | some text =>
      match text.toList with
      | [character] =>
          if isControl character then none
          else if character.toNat < 0x80 then
            some (.printableAscii (UInt8.ofNat character.toNat))
          else some (.printableUtf8 character)
      | _ => none

structure PredictionMetrics where
  offered : UInt64
  displayed : UInt64
  latestAcknowledgement : Option UInt64
  reconciled : UInt64
  deriving DecidableEq, Repr

structure PredictionEntry where
  frameId : UInt64
  action : PredictionAction
  deriving DecidableEq, Repr

structure PredictedCell where
  frameId : UInt64
  acknowledged : Bool
  deriving DecidableEq, Repr

/-- The authoritative cursor that a span is anchored to, with zero-based coordinates. -/
structure PredictionContext where
  row : UInt16
  column : UInt16
  columns : UInt16
  attributes : Bytes
  cursorState : Bytes
  deriving DecidableEq, Repr

inductive LineConfidence where
  | tentative
  | acknowledged
  deriving DecidableEq, Repr

structure PredictionLineStatus where
  row : UInt16
  confidence : LineConfidence
  deriving DecidableEq, Repr

inductive PredictionReconciliation where
  | none
  | local (bytes : Bytes)
  | redraw
  deriving DecidableEq, Repr

structure PredictionOverlay where
  display : PredictionDisplay
  overwrite : Bool
  roundTripMilliseconds : Option UInt16
  pending : List PredictionEntry
  predictedAscii : List PredictedCell
  cursorOffset : Nat
  highestFrameId : Option UInt64
  displayedCells : Nat
  rollbackCells : Nat
  overlayActive : Bool
  reconciliationRequired : Bool
  lineContext : Option PredictionContext
  metrics : PredictionMetrics
  deriving DecidableEq, Repr

namespace PredictionOverlay

def new (display : PredictionDisplay) (overwrite : Bool) : PredictionOverlay where
  display := display
  overwrite := overwrite
  roundTripMilliseconds := none
  pending := []
  predictedAscii := []
  cursorOffset := 0
  highestFrameId := none
  displayedCells := 0
  rollbackCells := 0
  overlayActive := false
  reconciliationRequired := false
  lineContext := none
  metrics := { offered := 0, displayed := 0, latestAcknowledgement := none, reconciled := 0 }

def setRoundTripMilliseconds (overlay : PredictionOverlay) (milliseconds : Option UInt16) :
    PredictionOverlay :=
  { overlay with roundTripMilliseconds := milliseconds }

def invalidateSpan (overlay : PredictionOverlay) : PredictionOverlay :=
  { overlay with
    pending := []
    predictedAscii := []
    cursorOffset := 0
    reconciliationRequired := overlay.reconciliationRequired || overlay.overlayActive }

/-- A span anchored elsewhere, or one that has come to the right margin. -/
def refusedAt (overlay : PredictionOverlay) (anchor context : PredictionContext) : Bool :=
  anchor.row != context.row || anchor.column != context.column
    || anchor.columns != context.columns
    || decide (anchor.column.toNat + overlay.cursorOffset ≥ anchor.columns.toNat - 1)

/-- The cell and the bytes of a printable that is shown. -/
def pushPrintable (overlay : PredictionOverlay) (frameId : UInt64) (bytes : Bytes)
    (context : Option PredictionContext) : Option Bytes × PredictionOverlay :=
  let insert := if overlay.overwrite then [] else INSERT_CHARACTER
  let rendition := match context with
    | some context => context.attributes
    | none => NO_UNDERLINE_RENDITION
  (some (insert ++ UNDERLINE_RENDITION ++ bytes ++ rendition),
    { overlay with
      predictedAscii := overlay.predictedAscii ++ [{ frameId, acknowledged := false }]
      cursorOffset := overlay.cursorOffset + 1
      displayedCells := overlay.displayedCells + 1
      rollbackCells := overlay.rollbackCells + 1
      overlayActive := true })

def predictPrintable (overlay : PredictionOverlay) (frameId : UInt64) (bytes : Bytes)
    (context : Option PredictionContext) : Option Bytes × PredictionOverlay :=
  if overlay.cursorOffset ≠ overlay.predictedAscii.length then (none, overlay)
  else
    match context with
    | none => overlay.pushPrintable frameId bytes none
    | some context =>
        let anchor := overlay.lineContext.getD context
        let anchored := { overlay with lineContext := some anchor }
        if anchored.refusedAt anchor context then (none, anchored.invalidateSpan)
        else anchored.pushPrintable frameId bytes (some context)

/-- The last cell belongs to a frame that the server has already echoed. -/
def lastAcknowledged (overlay : PredictionOverlay) : Bool :=
  overlay.predictedAscii.getLast?.any fun cell =>
    overlay.metrics.latestAcknowledgement.any fun acknowledgement =>
      decide (cell.frameId ≤ acknowledgement)

def predictBackspace (overlay : PredictionOverlay) : Option Bytes × PredictionOverlay :=
  if overlay.cursorOffset = 0 ∨ overlay.cursorOffset ≠ overlay.predictedAscii.length then
    (none, overlay)
  else if overlay.lastAcknowledged then (none, overlay)
  else if overlay.overwrite then (none, overlay.invalidateSpan)
  else
    (some (CURSOR_LEFT ++ DELETE_CHARACTER),
      { overlay with
        predictedAscii := overlay.predictedAscii.dropLast
        cursorOffset := overlay.cursorOffset - 1
        displayedCells := overlay.displayedCells - 1
        rollbackCells := overlay.rollbackCells - 1
        overlayActive := true })

def predictLeft (overlay : PredictionOverlay) : Option Bytes × PredictionOverlay :=
  if overlay.cursorOffset = 0 then (none, overlay)
  else
    (some CURSOR_LEFT,
      { overlay with cursorOffset := overlay.cursorOffset - 1, overlayActive := true })

def predictRight (overlay : PredictionOverlay) : Option Bytes × PredictionOverlay :=
  if overlay.cursorOffset ≥ overlay.predictedAscii.length then (none, overlay)
  else
    (some CURSOR_RIGHT,
      { overlay with cursorOffset := overlay.cursorOffset + 1, overlayActive := true })

def displayEnabled (overlay : PredictionOverlay) : Bool :=
  match overlay.display with
  | .adaptive => overlay.roundTripMilliseconds.any fun milliseconds =>
      decide (milliseconds ≥ ADAPTIVE_DISPLAY_MILLISECONDS)
  | .always => true
  | .never => false

def predict (overlay : PredictionOverlay) (frameId : UInt64) (action : PredictionAction)
    (context : Option PredictionContext) : Option Bytes × PredictionOverlay :=
  match action with
  | .printableAscii byte =>
      if isAsciiGraphic byte || byte == 0x20 then
        overlay.predictPrintable frameId [byte] context
      else (none, overlay.invalidateSpan)
  | .printableUtf8 character =>
      if isControl character then (none, overlay.invalidateSpan)
      else overlay.predictPrintable frameId (String.utf8EncodeChar character) context
  | .backspace => overlay.predictBackspace
  | .left => overlay.predictLeft
  | .right => overlay.predictRight
  | .barrier => (none, overlay)

/-- What a shown prediction adds to the books. -/
def record (overlay : PredictionOverlay) (frameId : UInt64) (action : PredictionAction) :
    PredictionOverlay :=
  { overlay with
    pending := overlay.pending ++ [{ frameId, action }]
    metrics := { overlay.metrics with displayed := saturatingAdd64 overlay.metrics.displayed 1 } }

def countOffer (overlay : PredictionOverlay) : PredictionOverlay :=
  { overlay with
    metrics := { overlay.metrics with offered := saturatingAdd64 overlay.metrics.offered 1 } }

def offerForFrameWithContext (overlay : PredictionOverlay) (frameId : UInt64)
    (action : PredictionAction) (context : Option PredictionContext) :
    Option Bytes × PredictionOverlay :=
  let overlay := overlay.countOffer
  if overlay.highestFrameId.any fun highest => decide (frameId < highest) then (none, overlay)
  else
    let overlay := { overlay with highestFrameId := some frameId }
    if action = .barrier then (none, overlay.invalidateSpan)
    else if overlay.displayEnabled = false then (none, overlay)
    else if overlay.reconciliationRequired then (none, overlay)
    else if overlay.pending.length ≥ MAXIMUM_PENDING_PREDICTIONS
        ∨ overlay.predictedAscii.length ≥ MAXIMUM_PENDING_PREDICTIONS then
      (none, overlay.invalidateSpan)
    else
      match overlay.predict frameId action context with
      | (none, overlay) => (none, overlay)
      | (some output, overlay) => (some output, overlay.record frameId action)

def offerForFrame (overlay : PredictionOverlay) (frameId : UInt64) (action : PredictionAction) :
    Option Bytes × PredictionOverlay :=
  overlay.offerForFrameWithContext frameId action none

/-- The frame after the highest one, where there is one. -/
def nextFrame (overlay : PredictionOverlay) : Option UInt64 :=
  match overlay.highestFrameId with
  | some highest => checkedSucc64 highest
  | none => some 0

def offer (overlay : PredictionOverlay) (kind : InputKind) (bytes : Bytes) :
    Option Bytes × PredictionOverlay :=
  match overlay.nextFrame with
  | none => (none, overlay)
  | some frameId =>
      let action :=
        if kind = .key then (singlePrintableAction bytes).getD .barrier else .barrier
      overlay.offerForFrame frameId action

def localReconciliation (overlay : PredictionOverlay) : Option Bytes :=
  match overlay.lineContext with
  | none => none
  | some context =>
      let rollback :=
        if overlay.rollbackCells ≠ 0 then
          [0x1b, 0x5b] ++ Decimal.written (saturatingSucc16 context.row).toNat ++ [0x3b]
            ++ Decimal.written (saturatingSucc16 context.column).toNat ++ [0x48]
            ++ ([0x1b, 0x5b] ++ Decimal.written overlay.rollbackCells ++ [0x50])
        else []
      some (rollback ++ context.cursorState)

def takeReconciliation (overlay : PredictionOverlay) :
    PredictionReconciliation × PredictionOverlay :=
  if overlay.overlayActive = false ∧ overlay.reconciliationRequired = false then (.none, overlay)
  else
    let reconciliation :=
      match if overlay.overwrite then none else overlay.localReconciliation with
      | none => PredictionReconciliation.redraw
      | some bytes => .local bytes
    (reconciliation,
      { overlay with
        pending := []
        predictedAscii := []
        cursorOffset := 0
        displayedCells := 0
        rollbackCells := 0
        overlayActive := false
        reconciliationRequired := false
        lineContext := none
        metrics := { overlay.metrics with
          reconciled := saturatingAdd64 overlay.metrics.reconciled overlay.displayedCells } })

def reconcile (overlay : PredictionOverlay) : Bool × PredictionOverlay :=
  (decide (overlay.takeReconciliation.1 ≠ .none), overlay.takeReconciliation.2)

def acknowledge (overlay : PredictionOverlay) (acknowledgement : UInt64) : PredictionOverlay :=
  match overlay.highestFrameId with
  | none => overlay
  | some highest =>
      if acknowledgement > highest
          ∨ overlay.metrics.latestAcknowledgement.any (fun current =>
              decide (acknowledgement ≤ current)) then
        overlay
      else
        { overlay with
          metrics := { overlay.metrics with latestAcknowledgement := some acknowledgement }
          pending := overlay.pending.dropWhile fun entry => decide (entry.frameId ≤ acknowledgement)
          predictedAscii := overlay.predictedAscii.map fun cell =>
            if cell.frameId ≤ acknowledgement then { cell with acknowledged := true } else cell }

def lineConfidence (overlay : PredictionOverlay) : Option LineConfidence :=
  if overlay.predictedAscii.isEmpty then none
  else if overlay.predictedAscii.all (·.acknowledged) then some .acknowledged
  else some .tentative

def lineStatus (overlay : PredictionOverlay) : Option PredictionLineStatus :=
  match overlay.lineContext, overlay.lineConfidence with
  | some context, some confidence => some { row := context.row, confidence }
  | _, _ => none

end PredictionOverlay

end FerrumTty.Predict
