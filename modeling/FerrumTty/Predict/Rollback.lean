import FerrumTty.Predict.Spans
import FerrumTty.Library.TerminalRow

/-!
# Taking back an insert-mode span

The bytes of an overlay on the row of the local console that they are written to. The span is
taken back with one deletion that counts the characters shown, so it restores the row where the
characters and erasures keep to the columns that the insertions made, and the insertions push
nothing but blanks past the margin.
-/

namespace FerrumTty.Predict

set_option autoImplicit false

open Crypto Runs PredictionOverlay TerminalRow

variable {Cell : Type} (blank : Cell) (glyph : Char → List Cell)

structure Captured (context : PredictionContext) : Prop where
  attributes : ∀ shown : Console Cell,
    feed blank glyph (.ground, shown) context.attributes = (.ground, shown)
  cursorState : ∀ shown : Console Cell,
    feed blank glyph (.ground, shown) context.cursorState =
      (.ground, { shown with
        cursorRow := context.row.toNat, row := shown.row.moveTo context.column.toNat })

/-- The authoritative cursor of a console on its own line. -/
structure Anchors (context : PredictionContext) (console : Console Cell) : Prop
    extends Captured blank glyph context where
  line : console.line = context.row.toNat
  row : console.cursorRow = context.row.toNat
  screen : context.row.toNat < 65535
  column : console.row.cursor = context.column.toNat
  columns : console.row.cells.length = context.columns.toNat

def localBytes : PredictionReconciliation → Bytes
  | .local bytes => bytes
  | .none | .redraw => []

/-- The console after the offers and the reconciliation. -/
def rolledBack (context : PredictionContext) (overlay : PredictionOverlay) (offers : List Offer)
    (console : Console Cell) : Reader × Console Cell :=
  feed blank glyph (.ground, console) (shownBytes context overlay offers
    ++ localBytes (final (offerAt context) overlay offers).takeReconciliation.1)

namespace PredictionAction

def character : PredictionAction → Option Char
  | .printableAscii byte => some (Char.ofNat byte.toNat)
  | .printableUtf8 character => some character
  | .backspace | .left | .right | .barrier => none

/-- The column of the cursor after an edit that is shown. -/
def moves (cursor : Nat) : PredictionAction → Nat
  | .printableAscii byte => cursor + (glyph (Char.ofNat byte.toNat)).length
  | .printableUtf8 character => cursor + (glyph character).length
  | .backspace | .left => cursor - 1
  | .right => cursor + 1
  | .barrier => cursor

end PredictionAction

/-- With the cursor in this column the edit keeps to the columns that the span inserted, the one
of its own insertion included. -/
structure Keeps (context : PredictionContext) (overlay : PredictionOverlay) (cursor : Nat)
    (action : PredictionAction) : Prop where
  written : ∀ character ∈ action.character, cursor + (glyph character).length ≤
    context.column.toNat + overlay.predictedAscii.length + 1
  erased : action = .backspace → context.column.toNat ≤ cursor - 1

/-- Every offer that is shown keeps to the inserted columns. -/
def StaysInside (context : PredictionContext) : PredictionOverlay → Nat → List Offer → Prop
  | _, _, [] => True
  | overlay, cursor, offer :: rest =>
      (overlay.Shows offer.1 offer.2 (some context) →
        Keeps glyph context overlay cursor offer.2
          ∧ StaysInside context (offerAt context overlay offer).2 (offer.2.moves glyph cursor) rest)
        ∧ (¬ overlay.Shows offer.1 offer.2 (some context) →
          StaysInside context (offerAt context overlay offer).2 cursor rest)

/-- Every character that is shown stands in one column. -/
def SingleColumns (context : PredictionContext) (overlay : PredictionOverlay)
    (offers : List Offer) : Prop :=
  ∀ event ∈ trace (offerAt context) overlay offers,
    event.before.Shows event.input.1 event.input.2 (some context) →
      ∀ character ∈ event.input.2.character, (glyph character).length = 1

section Bytes

theorem eligible_bounds {byte : UInt8} (eligible : (isAsciiGraphic byte || byte == 0x20) = true) :
    0x20 ≤ byte.toNat ∧ byte.toNat < 0x7f := by
  simp only [isAsciiGraphic, Bool.or_eq_true, Bool.and_eq_true, decide_eq_true_eq, beq_iff_eq,
    UInt8.le_iff_toNat_le, UInt8.reduceToNat] at eligible
  rcases eligible with graphic | space
  · omega
  · rw [space]
    decide

theorem text_prints {action : PredictionAction} {bytes : Bytes}
    (printable : action.text = some bytes) (console : Console Cell) :
    ∃ character, action.character = some character
      ∧ feed blank glyph (.ground, console) bytes =
        (.ground, console.perform blank glyph (.print character)) := by
  cases action with
  | printableAscii byte =>
      rw [PredictionAction.text] at printable
      split at printable
      · next eligible =>
          have bounds := eligible_bounds eligible
          have ground : Reader.advance .ground byte =
              (.ground, some (.print (Char.ofNat byte.toNat))) := by
            rw [Reader.advance, Reader.advanceGround]
            split_ifs <;> first | rfl | omega
          cases printable
          refine ⟨Char.ofNat byte.toNat, rfl, ?_⟩
          rw [feed_cons, feed_nil, take, ground]
          rfl
      · cases printable
  | printableUtf8 character =>
      rw [PredictionAction.text] at printable
      split at printable
      · cases printable
      · next visible =>
          cases printable
          refine ⟨character, rfl, feed_character blank glyph console character ?_⟩
          simp only [isControl, Bool.or_eq_true, Bool.and_eq_true, decide_eq_true_eq] at visible
          omega
  | backspace | left | right | barrier => cases printable

theorem text_character {action : PredictionAction} {bytes : Bytes}
    (printable : action.text = some bytes) : ∃ character, action.character = some character := by
  cases action with
  | printableAscii byte => exact ⟨Char.ofNat byte.toNat, rfl⟩
  | printableUtf8 character => exact ⟨character, rfl⟩
  | backspace | left | right | barrier => cases printable

theorem character_not_backspace {action : PredictionAction} {character : Char}
    (isShown : action.character = some character) : action ≠ .backspace := by
  intro same
  rw [same] at isShown
  cases isShown

theorem moves_character {action : PredictionAction} {character : Char}
    (isShown : action.character = some character) (cursor : Nat) :
    action.moves glyph cursor = cursor + (glyph character).length := by
  cases action with
  | printableAscii byte => cases isShown; rfl
  | printableUtf8 other => cases isShown; rfl
  | backspace | left | right | barrier => cases isShown

variable (console : Console Cell) (here : console.cursorRow = console.line)

theorem insert_feed : feed blank glyph (.ground, console) INSERT_CHARACTER =
    (.ground, console.perform blank glyph (.insertCharacters 1)) := rfl

theorem underline_feed : feed blank glyph (.ground, console) UNDERLINE_RENDITION =
    (.ground, console) := rfl

theorem left_feed : feed blank glyph (.ground, console) CURSOR_LEFT =
    (.ground, console.perform blank glyph (.cursorLeft 1)) := rfl

theorem right_feed : feed blank glyph (.ground, console) CURSOR_RIGHT =
    (.ground, console.perform blank glyph (.cursorRight 1)) := rfl

theorem delete_feed : feed blank glyph (.ground, console) DELETE_CHARACTER =
    (.ground, console.perform blank glyph (.deleteCharacters 1)) := rfl

include here

theorem printed_feed {context : PredictionContext} (captured : Captured blank glyph context)
    {action : PredictionAction} {bytes : Bytes} (printable : action.text = some bytes) :
    ∃ character, action.character = some character
      ∧ feed blank glyph (.ground, console)
          (INSERT_CHARACTER ++ UNDERLINE_RENDITION ++ bytes ++ context.attributes) =
        (.ground, { console with
          row := (console.row.insertCharacters blank 1).print (glyph character) }) := by
  rcases text_prints blank glyph printable
    { console with row := console.row.insertCharacters blank 1 } with ⟨character, isShown, prints⟩
  refine ⟨character, isShown, ?_⟩
  have printed : ({ console with row := console.row.insertCharacters blank 1 } :
      Console Cell).perform blank glyph (.print character) =
        { console with
          row := (console.row.insertCharacters blank 1).print (glyph character) } :=
    perform_print blank glyph { console with row := console.row.insertCharacters blank 1 } here
      character
  rw [feed_append, feed_append, feed_append, insert_feed, perform_insert blank glyph console here,
    underline_feed, prints, printed, captured.attributes]

theorem erased_feed : feed blank glyph (.ground, console) (CURSOR_LEFT ++ DELETE_CHARACTER) =
    (.ground, { console with row := (console.row.left 1).deleteCharacters blank 1 }) := by
  rw [feed_append, left_feed, perform_left blank glyph console here, delete_feed]
  exact congrArg (Prod.mk Reader.ground)
    (perform_delete blank glyph { console with row := console.row.left 1 } here 1)

omit here

theorem push_output {context : PredictionContext} {overlay : PredictionOverlay}
    (inserts : overlay.overwrite = false) (frameId : UInt64) (bytes : Bytes) :
    (((overlay.seen frameId).anchored (some context)).pushPrintable frameId bytes
      (some context)).1 =
        some (INSERT_CHARACTER ++ UNDERLINE_RENDITION ++ bytes ++ context.attributes) := by
  have same : ((overlay.seen frameId).anchored (some context)).overwrite = false := inserts
  simp [pushPrintable, same]

theorem saturating_below {value : UInt16} (below : value.toNat < 65535) :
    (saturatingSucc16 value).toNat = value.toNat + 1 := by
  have short : value ≠ 0xffff := by
    intro same
    rw [same] at below
    exact absurd below (by decide)
  rw [saturatingSucc16, if_neg short, UInt16.toNat_add]
  simp only [UInt16.reduceToNat]
  omega

theorem rollback_feed {row column : UInt16} (screen : row.toNat < 65535)
    (inside : column.toNat < 65535) {count : Nat} (some_shown : count ≠ 0) :
    feed blank glyph (.ground, console)
        ([0x1b, 0x5b] ++ Decimal.written (saturatingSucc16 row).toNat ++ [0x3b]
          ++ Decimal.written (saturatingSucc16 column).toNat ++ [0x48]
          ++ ([0x1b, 0x5b] ++ Decimal.written count ++ [0x50])) =
      (.ground, (console.perform blank glyph
          (.cursorPosition (row.toNat + 1) (column.toNat + 1))).perform
        blank glyph (.deleteCharacters count)) := by
  have number (shown : Console Cell) (rest : List Nat) (value : Nat) :
      feed blank glyph (.sequence (0 :: rest), shown) (Decimal.written value) =
        (.sequence (value :: rest), shown) := feed_number blank glyph shown rest value
  have several : max 1 count = count := by omega
  rw [saturating_below screen, saturating_below inside]
  simp only [feed_append, feed_introducer, number, feed_separator,
    feed_final blank glyph _ _ (show 0x40 ≤ (0x48 : UInt8).toNat ∧ (0x48 : UInt8).toNat ≤ 0x7e
      by decide),
    feed_final blank glyph _ _ (show 0x40 ≤ (0x50 : UInt8).toNat ∧ (0x50 : UInt8).toNat ≤ 0x7e
      by decide)]
  simp [Console.finish, dispatch, parameter, several]

end Bytes

section Standing

/-- The overlay in the course of a span whose inserted columns are `shown`, with the cursor of
the console in the column `cursor`. -/
structure Standing (context held : PredictionContext) (overlay : PredictionOverlay) (lost : Nat)
    (shown : List Cell) (cursor : Nat) : Prop extends Spans context held overlay lost where
  count : shown.length = overlay.rollbackCells
  behind : overlay.reconciliationRequired = false →
    context.column.toNat ≤ cursor + (overlay.predictedAscii.length - overlay.cursorOffset)
  before : overlay.reconciliationRequired = false →
    cursor + (overlay.predictedAscii.length - overlay.cursorOffset) ≤
      context.column.toNat + overlay.predictedAscii.length

/-- The console while these columns stand in the row `base`. -/
structure Placed (context : PredictionContext) (base shown : List Cell) (cursor lost : Nat)
    (console : Console Cell) : Prop where
  columns : base.length = context.columns.toNat
  line : console.line = context.row.toNat
  row : console.cursorRow = context.row.toNat
  cells : console.row.cells = spliced blank base context.column.toNat shown lost
  cursor : console.row.cursor = cursor

/-- What one offer does to the span, and to the console on whatever row it stands. -/
def Stands (context held : PredictionContext) (shown : List Cell) (cursor lost : Nat)
    (output : Option Bytes) (after : PredictionOverlay) (moved : Nat) : Prop :=
  ∃ later, Standing context held after (max lost after.predictedAscii.length) later moved
    ∧ ∀ base console, Placed blank context base shown cursor lost console →
      ∃ next, feed blank glyph (.ground, console) (output.getD []) = (.ground, next)
        ∧ Placed blank context base later moved (max lost after.predictedAscii.length) next

/-- The bytes leave the same of two rows that differ in this cell. -/
def Confuses (context : PredictionContext) (shown : List Cell) (cursor lost place : Nat)
    (bytes : Bytes) : Prop :=
  ∀ base cell console twin, Placed blank context base shown cursor lost console →
    Placed blank context (base.set place cell) shown cursor lost twin →
      feed blank glyph (.ground, console) bytes = feed blank glyph (.ground, twin) bytes

variable {blank glyph} {context held : PredictionContext} {overlay : PredictionOverlay}
  {lost cursor : Nat} {shown : List Cell}

theorem standing_start (bare : Bare overlay) (spans : Spans context held overlay 0) :
    Standing context held overlay 0 ([] : List Cell) context.column.toNat where
  toSpans := spans
  count := bare.rollback.symm
  behind _ := Nat.le_add_right _ _
  before _ := by
    rw [bare.cells, bare.offset]
    exact Nat.le_refl _

theorem placed_start {console : Console Cell} (anchors : Anchors blank glyph context console) :
    Placed blank context console.row.cells [] context.column.toNat 0 console where
  columns := anchors.columns
  line := anchors.line
  row := anchors.row
  cells := spliced_start.symm
  cursor := anchors.column

section Here

variable {base : List Cell} {console : Console Cell}
  (placed : Placed blank context base shown cursor lost console)

include placed

theorem Placed.here : console.cursorRow = console.line := placed.row.trans placed.line.symm

theorem Placed.width (fits : shown.length ≤ lost)
    (room : context.column.toNat + lost < context.columns.toNat) :
    console.row.cells.length = base.length := by
  rw [placed.cells]
  apply spliced_length fits
  rw [placed.columns]
  exact Nat.le_of_lt room

end Here

variable (standing : Standing context held overlay lost shown cursor)

include standing

theorem Standing.short : shown.length ≤ lost := by
  rw [standing.count]
  exact standing.enough

theorem Standing.longer (settled : overlay.reconciliationRequired = false) :
    overlay.predictedAscii.length = shown.length := by
  rw [standing.count, (standing.consistent.counted settled).2]

theorem stands_printed {frameId : UInt64} {action : PredictionAction} {bytes : Bytes}
    (captured : Captured blank glyph context)
    (spans : Spans context held ((((overlay.seen frameId).anchored (some context)).pushPrintable
      frameId bytes (some context)).2.record frameId action)
        (max lost (overlay.predictedAscii.length + 1)))
    (settled : overlay.reconciliationRequired = false) (printable : action.text = some bytes)
    (keeps : Keeps glyph context overlay cursor action)
    (atEnd : overlay.cursorOffset = overlay.predictedAscii.length)
    (accepts : ¬ overlay.Refuses (some context)) :
    Stands blank glyph context held shown cursor lost
      (((overlay.seen frameId).anchored (some context)).pushPrintable frameId bytes
        (some context)).1
      ((((overlay.seen frameId).anchored (some context)).pushPrintable frameId bytes
        (some context)).2.record frameId action) (action.moves glyph cursor) := by
  have longer := standing.longer settled
  have margin := standing.margin atEnd accepts
  have behind := standing.behind settled
  have before := standing.before settled
  have room := standing.room
  have short := standing.short
  rw [atEnd, Nat.sub_self, Nat.add_zero] at behind before
  have grown : ((((overlay.seen frameId).anchored (some context)).pushPrintable frameId bytes
      (some context)).2.record frameId action).predictedAscii.length =
        overlay.predictedAscii.length + 1 := by
    change (overlay.predictedAscii ++ [_]).length = _
    rw [List.length_append, List.length_singleton]
  rcases text_character printable with ⟨character, isShown⟩
  have within := keeps.written character isShown
  have inside : cursor - context.column.toNat ≤ shown.length := by omega
  have fits : cursor - context.column.toNat + (glyph character).length ≤ shown.length + 1 := by
    omega
  rw [Stands, grown, moves_character glyph isShown,
    push_output standing.inserts frameId bytes]
  refine ⟨typed blank shown (cursor - context.column.toNat) (glyph character), ?_, ?_⟩
  · exact {
      toSpans := spans
      count := by
        rw [typed_length inside fits, standing.count]
        rfl
      behind := by
        intro _
        exact Nat.le_trans behind (Nat.le_trans (Nat.le_add_right _ _) (Nat.le_add_right _ _))
      before := by
        intro _
        rw [grown]
        change cursor + _ + (overlay.predictedAscii.length + 1 - (overlay.cursorOffset + 1)) ≤ _
        omega }
  · intro base console placed
    have width := placed.width short room
    have columns := placed.columns
    rcases printed_feed blank glyph console placed.here captured printable with
      ⟨other, same, prints⟩
    rw [isShown, Option.some.injEq] at same
    subst same
    refine ⟨_, prints, columns, placed.line, placed.row, ?_, ?_⟩
    · change written (inserted blank console.row.cells console.row.cursor 1) console.row.cursor
        (glyph character) = _
      have spot : cursor = context.column.toNat + (cursor - context.column.toNat) := by omega
      rw [placed.cells, placed.cursor, spot, longer, Nat.add_sub_cancel_left]
      exact spliced_typed inside fits short (by omega) (by omega)
    · change min (console.row.cursor + (glyph character).length)
        ((inserted blank console.row.cells console.row.cursor 1).length - 1) = _
      rw [inserted_length, width, placed.cursor]
      omega

theorem stands_erased {frameId : UInt64} {action : PredictionAction}
    (spans : Spans context held ({ overlay.seen frameId with
      predictedAscii := overlay.predictedAscii.dropLast
      cursorOffset := overlay.cursorOffset - 1
      displayedCells := overlay.displayedCells - 1
      rollbackCells := overlay.rollbackCells - 1
      overlayActive := true }.record frameId action)
        (max lost overlay.predictedAscii.dropLast.length))
    (settled : overlay.reconciliationRequired = false)
    (keeps : context.column.toNat ≤ cursor - 1)
    (inside : overlay.cursorOffset ≠ 0)
    (atEnd : overlay.cursorOffset = overlay.predictedAscii.length) :
    Stands blank glyph context held shown cursor lost
      (some (CURSOR_LEFT ++ DELETE_CHARACTER))
      ({ overlay.seen frameId with
        predictedAscii := overlay.predictedAscii.dropLast
        cursorOffset := overlay.cursorOffset - 1
        displayedCells := overlay.displayedCells - 1
        rollbackCells := overlay.rollbackCells - 1
        overlayActive := true }.record frameId action) (cursor - 1) := by
  have longer := standing.longer settled
  have behind := standing.behind settled
  have before := standing.before settled
  have room := standing.room
  have short := standing.short
  have shrunk : overlay.predictedAscii.dropLast.length = overlay.predictedAscii.length - 1 :=
    List.length_dropLast
  have fits : max lost overlay.predictedAscii.dropLast.length = lost := by omega
  rw [atEnd, Nat.sub_self, Nat.add_zero] at behind before
  have among : cursor - 1 - context.column.toNat < shown.length := by omega
  refine ⟨shown.eraseIdx (cursor - 1 - context.column.toNat), ?_, ?_⟩
  · exact {
      toSpans := spans
      count := by
        change _ = overlay.rollbackCells - 1
        rw [List.length_eraseIdx_of_lt among, standing.count]
      behind := by
        intro _
        exact Nat.le_trans keeps (Nat.le_add_right _ _)
      before := by
        intro _
        change cursor - 1 + (overlay.predictedAscii.dropLast.length - (overlay.cursorOffset - 1)) ≤
          context.column.toNat + overlay.predictedAscii.dropLast.length
        omega }
  · intro base console placed
    have width := placed.width short room
    have columns := placed.columns
    have column : (console.row.left 1).cursor = cursor - 1 := by
      change min (console.row.cursor - 1) (console.row.cells.length - 1) = _
      rw [width, placed.cursor]
      omega
    refine ⟨_, erased_feed blank glyph console placed.here, columns, placed.line, placed.row, ?_,
      column⟩
    change deleted blank console.row.cells (console.row.left 1).cursor 1 =
      spliced blank base _ _ (max lost overlay.predictedAscii.dropLast.length)
    have spot : cursor - 1 = context.column.toNat + (cursor - 1 - context.column.toNat) := by omega
    rw [fits, column, placed.cells, spot, Nat.add_sub_cancel_left]
    exact spliced_erased among short (by omega)

/-- A cursor move inside the span. At the first column of the row the cursor stays. -/
theorem stands_moved {frameId : UInt64} {action : PredictionAction} {output : Bytes}
    {offset moved : Nat}
    (spans : Spans context held ({ overlay.seen frameId with
      cursorOffset := offset, overlayActive := true }.record frameId action)
        (max lost overlay.predictedAscii.length))
    (behind : context.column.toNat ≤ moved + (overlay.predictedAscii.length - offset))
    (before : moved + (overlay.predictedAscii.length - offset) ≤
      context.column.toNat + overlay.predictedAscii.length)
    (moves : ∀ console : Console Cell, console.cursorRow = console.line →
      console.row.cursor = cursor →
        feed blank glyph (.ground, console) output =
          (.ground, { console with row := console.row.moveTo moved })) :
    Stands blank glyph context held shown cursor lost (some output)
      ({ overlay.seen frameId with
        cursorOffset := offset, overlayActive := true }.record frameId action) moved := by
  have fits := standing.fits
  have room := standing.room
  have same : max lost overlay.predictedAscii.length = lost := Nat.max_eq_left fits
  refine ⟨shown, ?_, ?_⟩
  · exact ⟨spans, standing.count, fun _ => behind, fun _ => before⟩
  · intro base console placed
    have width := placed.width standing.short room
    have columns := placed.columns
    refine ⟨_, moves console placed.here placed.cursor, columns, placed.line, placed.row, ?_, ?_⟩
    · change console.row.cells = spliced blank base _ _ (max lost overlay.predictedAscii.length)
      rw [same]
      exact placed.cells
    · change min moved (console.row.cells.length - 1) = moved
      rw [width]
      omega

theorem stands_unwritten {after : PredictionOverlay}
    (spans : Spans context held after (max lost after.predictedAscii.length))
    (rollback : after.rollbackCells = overlay.rollbackCells)
    (same : max lost after.predictedAscii.length = lost)
    (reach : after.reconciliationRequired = false →
      after.predictedAscii = overlay.predictedAscii ∧ after.cursorOffset = overlay.cursorOffset
        ∧ overlay.reconciliationRequired = false) :
    Stands blank glyph context held shown cursor lost none after cursor := by
  refine ⟨shown, ?_, ?_⟩
  · exact {
      toSpans := spans
      count := standing.count.trans rollback.symm
      behind := by
        intro settled
        rcases reach settled with ⟨cells, offset, was⟩
        rw [cells, offset]
        exact standing.behind was
      before := by
        intro settled
        rcases reach settled with ⟨cells, offset, was⟩
        rw [cells, offset]
        exact standing.before was }
  · intro base console placed
    refine ⟨console, rfl, ?_⟩
    rw [same]
    exact placed

/-- A span that is dropped requires a reconciliation, unless there was none. -/
theorem dropped_reach
    (settled : (overlay.reconciliationRequired || overlay.overlayActive) = false) :
    [] = overlay.predictedAscii ∧ 0 = overlay.cursorOffset
      ∧ overlay.reconciliationRequired = false := by
  rcases Bool.or_eq_false_iff.mp settled with ⟨unrequired, idle⟩
  have bare := standing.consistent.bare idle
  exact ⟨bare.cells.symm, bare.offset.symm, unrequired⟩

theorem stands_offer (captured : Captured blank glyph context) (offer : Offer) :
    (overlay.Shows offer.1 offer.2 (some context) →
      Keeps glyph context overlay cursor offer.2 →
        Stands blank glyph context held shown cursor lost (offerAt context overlay offer).1
          (offerAt context overlay offer).2 (offer.2.moves glyph cursor))
      ∧ (¬ overlay.Shows offer.1 offer.2 (some context) →
        Stands blank glyph context held shown cursor lost (offerAt context overlay offer).1
          (offerAt context overlay offer).2 cursor) := by
  have spans := spans_offer standing.toSpans offer
  have same : max lost overlay.predictedAscii.length = lost := Nat.max_eq_left standing.fits
  have none : max lost 0 = lost := Nat.max_eq_left (Nat.zero_le lost)
  rcases offer with ⟨frameId, action⟩
  have isShown := offer_shown_iff overlay frameId action (some context)
  simp only [offerAt] at spans ⊢
  rw [← isShown]
  rcases shape : overlay.offerForFrameWithContext frameId action (some context) with ⟨answer, after⟩
  rw [shape] at spans
  cases offer_case_of shape with
  | late =>
      refine ⟨fun wrong => absurd rfl wrong, fun _ => ?_⟩
      exact stands_unwritten standing spans rfl same (fun settled => ⟨rfl, rfl, settled⟩)
  | hidden =>
      refine ⟨fun wrong => absurd rfl wrong, fun _ => ?_⟩
      exact stands_unwritten standing spans rfl same (fun settled => ⟨rfl, rfl, settled⟩)
  | skipped =>
      refine ⟨fun wrong => absurd rfl wrong, fun _ => ?_⟩
      exact stands_unwritten standing spans rfl same (fun settled => ⟨rfl, rfl, settled⟩)
  | invalidated =>
      refine ⟨fun wrong => absurd rfl wrong, fun _ => ?_⟩
      exact stands_unwritten standing spans rfl none (fun settled => dropped_reach standing settled)
  | refused =>
      refine ⟨fun wrong => absurd rfl wrong, fun _ => ?_⟩
      exact stands_unwritten standing spans rfl none (fun settled => dropped_reach standing settled)
  | printed reached bytes printable atEnd accepts =>
      refine ⟨fun _ keeps => ?_, fun wrong => absurd (Option.some_ne_none _) wrong⟩
      have grown : (overlay.predictedAscii ++ [({ frameId, acknowledged := false } :
          PredictedCell)]).length = overlay.predictedAscii.length + 1 := List.length_append
      apply stands_printed standing captured _ reached.settled printable keeps atEnd accepts
      rw [← grown]
      exact spans
  | erased reached isBackspace inside atEnd =>
      refine ⟨fun _ keeps => ?_, fun wrong => absurd (Option.some_ne_none _) wrong⟩
      subst isBackspace
      exact stands_erased standing spans reached.settled (keeps.erased rfl) inside atEnd
  | left reached isLeft inside =>
      refine ⟨fun _ _ => ?_, fun wrong => absurd (Option.some_ne_none _) wrong⟩
      subst isLeft
      have offset := standing.consistent.offset
      have behind := standing.behind reached.settled
      have before := standing.before reached.settled
      apply stands_moved standing spans
      · change _ ≤ cursor - 1 + _
        omega
      · change cursor - 1 + _ ≤ _
        omega
      · intro console here place
        rw [left_feed, perform_left blank glyph console here, Row.left, place]
        rfl
  | right reached isRight inside =>
      refine ⟨fun _ _ => ?_, fun wrong => absurd (Option.some_ne_none _) wrong⟩
      subst isRight
      have behind := standing.behind reached.settled
      have before := standing.before reached.settled
      apply stands_moved standing spans
      · change _ ≤ cursor + 1 + _
        omega
      · change cursor + 1 + _ ≤ _
        omega
      · intro console here place
        rw [right_feed, perform_right blank glyph console here, Row.right, place]
        rfl

theorem placed_rollback (screen : context.row.toNat < 65535) {base : List Cell}
    {console : Console Cell} (placed : Placed blank context base shown cursor lost console) :
    ∃ middle : Console Cell,
      feed blank glyph (.ground, console)
          (if overlay.rollbackCells ≠ 0 then
            [0x1b, 0x5b] ++ Decimal.written (saturatingSucc16 held.row).toNat ++ [0x3b]
              ++ Decimal.written (saturatingSucc16 held.column).toNat ++ [0x48]
              ++ ([0x1b, 0x5b] ++ Decimal.written overlay.rollbackCells ++ [0x50])
          else []) = (.ground, middle)
        ∧ middle.line = console.line
        ∧ middle.row.cells = spliced blank base context.column.toNat [] lost := by
  have short := standing.short
  have room := standing.room
  have width := placed.width short room
  have columns := placed.columns
  by_cases nothing : overlay.rollbackCells = 0
  · have same := placed.cells
    have none := standing.count
    rw [nothing, List.length_eq_zero_iff] at none
    rw [none] at same
    rw [if_neg (not_not.mpr nothing)]
    exact ⟨console, rfl, rfl, same⟩
  · have inside : context.column.toNat < 65535 := by
      have bound := context.columns.toNat_lt
      omega
    have here : context.row.toNat + 1 - 1 = console.line := by
      rw [placed.line]
      rfl
    have column : min (context.column.toNat + 1 - 1) (console.row.cells.length - 1) =
        context.column.toNat := by
      rw [width]
      omega
    have deletes := perform_delete blank glyph (console.perform blank glyph
      (.cursorPosition (context.row.toNat + 1) (context.column.toNat + 1))) here
      overlay.rollbackCells
    rw [if_pos nothing, standing.place.row, standing.place.column,
      rollback_feed blank glyph console screen inside nothing, deletes]
    refine ⟨_, rfl, rfl, ?_⟩
    change deleted blank console.row.cells (min (context.column.toNat + 1 - 1)
      (console.row.cells.length - 1)) overlay.rollbackCells = _
    rw [column, placed.cells, ← standing.count]
    have erased := @spliced_delete _ blank base context.column.toNat lost [] shown []
      (by rw [List.nil_append, List.append_nil]; exact short) (by omega)
    rw [List.nil_append, List.append_nil] at erased
    exact erased

theorem taken_bytes (active : overlay.overlayActive = true) :
    localBytes overlay.takeReconciliation.1 =
      (if overlay.rollbackCells ≠ 0 then
        [0x1b, 0x5b] ++ Decimal.written (saturatingSucc16 held.row).toNat ++ [0x3b]
          ++ Decimal.written (saturatingSucc16 held.column).toNat ++ [0x48]
          ++ ([0x1b, 0x5b] ++ Decimal.written overlay.rollbackCells ++ [0x50])
      else []) ++ held.cursorState := by
  simp [takeReconciliation, active, standing.inserts, localReconciliation,
    standing.anchor_held active, localBytes]

theorem standing_local : overlay.takeReconciliation.1 ≠ .redraw := by
  by_cases active : overlay.overlayActive = true
  · simp [takeReconciliation, active, standing.inserts, localReconciliation,
      standing.anchor_held active]
  · rw [take_idle (standing.consistent.bare (Bool.eq_false_iff.mpr active))]
    intro wrong
    cases wrong

theorem standing_taken (captured : Captured blank glyph held) {start console : Console Cell}
    (anchors : Anchors blank glyph context start)
    (placed : Placed blank context start.row.cells shown cursor lost console) :
    feed blank glyph (.ground, console) (localBytes overlay.takeReconciliation.1) =
        (.ground, start) ↔
      start.row.cells.drop (start.row.cells.length - lost) = List.replicate lost blank := by
  have columns := placed.columns
  have room : context.column.toNat + lost ≤ start.row.cells.length := by
    rw [columns]
    exact Nat.le_of_lt standing.room
  have restored := @spliced_nothing_iff _ blank _ _ _ room
  have samePlace : start.row.moveTo context.column.toNat = start.row := by
    rw [← anchors.column, Row.moveTo_cursor]
  have sameLine : console.line = start.line := placed.line.trans anchors.line.symm
  by_cases active : overlay.overlayActive = true
  · rcases @placed_rollback _ blank glyph _ _ _ _ _ _ standing anchors.screen _ _ placed with
      ⟨middle, feeds, line, cells⟩
    rw [taken_bytes standing active, feed_append, feeds, captured.cursorState,
      standing.place.row, standing.place.column, ← restored, ← cells]
    constructor
    · intro same
      exact congrArg (fun state : Reader × Console Cell => state.2.row.cells) same
    · intro same
      have sameRow : middle.row.moveTo context.column.toNat = start.row := by
        rw [← samePlace]
        exact Row.ext same (by simp only [Row.moveTo, same])
      rw [sameRow, line, sameLine, ← anchors.row]
  · have bare := standing.consistent.bare (Bool.eq_false_iff.mpr active)
    have nothing := standing.untouched bare.active
    subst nothing
    have none := standing.count
    have behind := standing.behind bare.settled
    have before := standing.before bare.settled
    have same := placed.cells
    rw [bare.cells, bare.offset] at behind before
    rw [bare.rollback, List.length_eq_zero_iff] at none
    rw [none, spliced_start] at same
    have sameRow : console.row = start.row := by
      apply Row.ext same
      rw [placed.cursor, anchors.column]
      exact Nat.le_antisymm before behind
    have sameConsole : console = start :=
      Console.ext sameLine (placed.row.trans anchors.row.symm) sameRow
    rw [take_idle bare, sameConsole]
    simp [localBytes]

end Standing

section Runs

variable {blank glyph} {context held : PredictionContext} {overlay : PredictionOverlay}
  {lost cursor : Nat} {shown : List Cell} (captured : Captured blank glyph context)
  (standing : Standing context held overlay lost shown cursor)

include captured standing

theorem stands_run (offers : List Offer) (stays : StaysInside glyph context overlay cursor offers) :
    ∃ later moved, Standing context held (final (offerAt context) overlay offers)
        (max lost (longestSpan context overlay offers)) later moved
      ∧ ∀ base console, Placed blank context base shown cursor lost console →
        ∃ next, feed blank glyph (.ground, console) (shownBytes context overlay offers) =
            (.ground, next)
          ∧ Placed blank context base later moved
            (max lost (longestSpan context overlay offers)) next := by
  induction offers generalizing overlay lost cursor shown with
  | nil =>
      refine ⟨shown, cursor, ?_⟩
      rw [longestSpan, Nat.max_eq_left standing.fits]
      exact ⟨standing, fun base console placed => ⟨console, rfl, placed⟩⟩
  | cons offer rest induction =>
      have step := stands_offer standing captured offer
      have first : ∃ moved, Stands blank glyph context held shown cursor lost
            (offerAt context overlay offer).1 (offerAt context overlay offer).2 moved
          ∧ StaysInside glyph context (offerAt context overlay offer).2 moved rest := by
        by_cases shows : overlay.Shows offer.1 offer.2 (some context)
        · rcases stays.1 shows with ⟨keeps, onward⟩
          exact ⟨_, step.1 shows keeps, onward⟩
        · exact ⟨cursor, step.2 shows, stays.2 shows⟩
      rcases first with ⟨middle, ⟨cells, stands, feeds⟩, onward⟩
      rcases induction stands onward with ⟨later, moved, last, follows⟩
      rw [longest_step standing.fits] at last follows
      refine ⟨later, moved, last, ?_⟩
      intro base console placed
      rcases feeds base console placed with ⟨between, here, placed⟩
      rcases follows base between placed with ⟨next, there, placed⟩
      refine ⟨next, ?_, placed⟩
      rw [shown_bytes_cons, feed_append, here, there]

end Runs

end FerrumTty.Predict
