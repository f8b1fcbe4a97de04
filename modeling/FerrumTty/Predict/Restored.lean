import FerrumTty.Predict.Rollback

/-!
# The rows that are restored

Of the runs whose edits keep to the inserted columns, the ones that come back to the row and
cursor that they started from; characters of one column always keep to them. An edit beyond
loses a cell: two rows that differ in it look the same from then on.
-/

namespace FerrumTty.Predict

set_option autoImplicit false

open Crypto Runs PredictionOverlay TerminalRow

variable {Cell : Type} (blank : Cell) (glyph : Char → List Cell)

section Breaches

variable {blank glyph} {context held : PredictionContext} {overlay : PredictionOverlay}
  {lost cursor : Nat} {shown : List Cell}

/-- Where the rows come out the same, so do the consoles. -/
theorem twin_consoles {base : List Cell} {cell : Cell} {place : Nat} {console twin : Console Cell}
    (placed : Placed blank context base shown cursor lost console)
    (twinned : Placed blank context (base.set place cell) shown cursor lost twin)
    {first second : Row Cell} (cells : first.cells = second.cells)
    (cursors : first.cursor = second.cursor) :
    ((.ground, { console with row := first }) : Reader × Console Cell) =
      (.ground, { twin with row := second }) :=
  congrArg (Prod.mk Reader.ground) (Console.ext (placed.line.trans twinned.line.symm)
    (placed.row.trans twinned.row.symm) (Row.ext cells cursors))

variable (standing : Standing context held overlay lost shown cursor)

include standing

/-- A character that goes beyond the inserted columns hides the cell at the anchor. -/
theorem printed_confuses (captured : Captured blank glyph context) {action : PredictionAction}
    {bytes : Bytes} (printable : action.text = some bytes)
    (settled : overlay.reconciliationRequired = false)
    (atEnd : overlay.cursorOffset = overlay.predictedAscii.length) {character : Char}
    (isShown : action.character = some character)
    (beyond : context.column.toNat + overlay.predictedAscii.length + 1 <
      cursor + (glyph character).length) :
    Confuses blank glyph context shown cursor lost context.column.toNat
      (INSERT_CHARACTER ++ UNDERLINE_RENDITION ++ bytes ++ context.attributes) := by
  intro base cell console twin placed twinned
  have short := standing.short
  have room := standing.room
  have longer := standing.longer settled
  have before := standing.before settled
  have columns := placed.columns
  have width := placed.width short room
  have twin_width := twinned.width short room
  rw [List.length_set] at twin_width
  rw [atEnd, Nat.sub_self, Nat.add_zero] at before
  have changed : twin.row.cells =
      console.row.cells.set (context.column.toNat + shown.length) cell := by
    rw [twinned.cells, placed.cells]
    exact spliced_set_anchor (by omega) cell
  rcases printed_feed blank glyph console placed.here captured printable with
    ⟨first, same, prints⟩
  rw [isShown, Option.some.injEq] at same
  subst same
  rcases printed_feed blank glyph twin twinned.here captured printable with
    ⟨second, same, reprints⟩
  rw [isShown, Option.some.injEq] at same
  subst same
  rw [prints, reprints]
  apply twin_consoles placed twinned
  · change written (inserted blank console.row.cells console.row.cursor 1) console.row.cursor _ =
      written (inserted blank twin.row.cells twin.row.cursor 1) twin.row.cursor _
    rw [changed, placed.cursor, twinned.cursor, inserted_set blank cell (by omega) (by omega),
      written_set cell (by omega) (by omega)]
  · change min (console.row.cursor + _) ((inserted blank console.row.cells _ 1).length - 1) =
      min (twin.row.cursor + _) ((inserted blank twin.row.cells _ 1).length - 1)
    rw [inserted_length, inserted_length, width, twin_width, placed.cursor, twinned.cursor]

theorem erased_confuses (beyond : cursor - 1 < context.column.toNat) :
    Confuses blank glyph context shown cursor lost (cursor - 1)
      (CURSOR_LEFT ++ DELETE_CHARACTER) := by
  intro base cell console twin placed twinned
  have short := standing.short
  have room := standing.room
  have columns := placed.columns
  have width := placed.width short room
  have twin_width := twinned.width short room
  rw [List.length_set] at twin_width
  have changed : twin.row.cells = console.row.cells.set (cursor - 1) cell := by
    rw [twinned.cells, placed.cells]
    exact spliced_set_front beyond (by omega) cell
  have column : (console.row.left 1).cursor = cursor - 1 := by
    change min (console.row.cursor - 1) (console.row.cells.length - 1) = _
    rw [width, placed.cursor]
    omega
  have twin_column : (twin.row.left 1).cursor = cursor - 1 := by
    change min (twin.row.cursor - 1) (twin.row.cells.length - 1) = _
    rw [twin_width, twinned.cursor]
    omega
  rw [erased_feed blank glyph console placed.here, erased_feed blank glyph twin twinned.here]
  apply twin_consoles placed twinned
  · change deleted blank console.row.cells (console.row.left 1).cursor 1 =
      deleted blank twin.row.cells (twin.row.left 1).cursor 1
    rw [column, twin_column, changed, deleted_set blank cell (Nat.le_refl _) (Nat.lt_succ_self _)]
  · exact column.trans twin_column.symm

omit standing in
theorem keeps_still {action : PredictionAction} (silent : action.character = none)
    (edits : action ≠ .backspace) : Keeps glyph context overlay cursor action where
  written := by
    intro character same
    rw [silent] at same
    cases same
  erased wrong := absurd wrong edits

/-- An offer that goes beyond the inserted columns loses a cell of the row. -/
theorem breach_offer (captured : Captured blank glyph context) (offer : Offer)
    (shows : overlay.Shows offer.1 offer.2 (some context))
    (breaks : ¬ Keeps glyph context overlay cursor offer.2) :
    ∃ place, place ≤ context.column.toNat
      ∧ Confuses blank glyph context shown cursor lost place
        ((offerAt context overlay offer).1.getD []) := by
  rcases offer with ⟨frameId, action⟩
  have isShown := (offer_shown_iff overlay frameId action (some context)).mpr shows
  simp only [offerAt]
  rcases shape : overlay.offerForFrameWithContext frameId action (some context) with ⟨answer, after⟩
  rw [shape] at isShown
  cases offer_case_of shape with
  | late | hidden | skipped | invalidated | refused => exact absurd rfl isShown
  | printed reached bytes printable atEnd accepts =>
      rcases text_character printable with ⟨character, isPrinted⟩
      have beyond : context.column.toNat + overlay.predictedAscii.length + 1 <
          cursor + (glyph character).length := by
        by_contra within
        apply breaks
        apply Keeps.mk
        · intro other same
          rw [isPrinted, Option.mem_some_iff] at same
          subst same
          exact Nat.le_of_not_lt within
        · intro isBackspace
          exact absurd isBackspace (character_not_backspace isPrinted)
      rw [push_output standing.inserts frameId bytes]
      exact ⟨_, Nat.le_refl _, printed_confuses standing captured printable reached.settled atEnd
        isPrinted beyond⟩
  | erased _ isBackspace =>
      subst isBackspace
      have beyond : cursor - 1 < context.column.toNat := by
        by_contra within
        apply breaks
        apply Keeps.mk
        · intro other same
          cases same
        · intro _
          exact Nat.le_of_not_lt within
      exact ⟨_, Nat.le_of_lt beyond, erased_confuses standing beyond⟩
  | left _ isLeft =>
      subst isLeft
      exact absurd (keeps_still rfl (by simp)) breaks
  | right _ isRight =>
      subst isRight
      exact absurd (keeps_still rfl (by simp)) breaks

theorem breach_run (captured : Captured blank glyph context) (offers : List Offer)
    (strays : ¬ StaysInside glyph context overlay cursor offers) :
    ∃ place, place ≤ context.column.toNat
      ∧ Confuses blank glyph context shown cursor lost place
        (shownBytes context overlay offers) := by
  induction offers generalizing overlay lost cursor shown with
  | nil => exact absurd trivial strays
  | cons offer rest induction =>
      have step := stands_offer standing captured offer
      have onward {moved : Nat} (stands : Stands blank glyph context held shown cursor lost
            (offerAt context overlay offer).1 (offerAt context overlay offer).2 moved)
          (beyond : ¬ StaysInside glyph context (offerAt context overlay offer).2 moved rest) :
          ∃ place, place ≤ context.column.toNat
            ∧ Confuses blank glyph context shown cursor lost place
              (shownBytes context overlay (offer :: rest)) := by
        rcases stands with ⟨cells, stands, feeds⟩
        rcases induction stands beyond with ⟨place, low, confuses⟩
        refine ⟨place, low, ?_⟩
        intro base cell console twin placed twinned
        rcases feeds base console placed with ⟨first, here, placed⟩
        rcases feeds (base.set place cell) twin twinned with ⟨second, there, twinned⟩
        rw [shown_bytes_cons, feed_append, feed_append, here, there]
        exact confuses base cell first second placed twinned
      by_cases shows : overlay.Shows offer.1 offer.2 (some context)
      · by_cases keeps : Keeps glyph context overlay cursor offer.2
        · apply onward (step.1 shows keeps)
          intro stays
          exact strays ⟨fun _ => ⟨keeps, stays⟩, fun hidden => absurd shows hidden⟩
        · rcases breach_offer standing captured offer shows keeps with ⟨place, low, confuses⟩
          refine ⟨place, low, ?_⟩
          intro base cell console twin placed twinned
          rw [shown_bytes_cons, feed_append, feed_append,
            confuses base cell console twin placed twinned]
      · apply onward (step.2 shows)
        intro stays
        exact strays ⟨fun wrong => absurd wrong shows, fun _ => stays⟩

end Breaches

section SingleColumns

variable {glyph} {context : PredictionContext} {overlay : PredictionOverlay} {cursor : Nat}

/-- The cursor stands as many columns behind the anchor as characters are in front of it. -/
def Level (context : PredictionContext) (overlay : PredictionOverlay) (cursor : Nat) : Prop :=
  overlay.reconciliationRequired = false →
    cursor = context.column.toNat + overlay.cursorOffset

theorem level_offer (consistent : Consistent overlay) (level : Level context overlay cursor)
    (offer : Offer) :
    (overlay.Shows offer.1 offer.2 (some context) →
      (∀ character ∈ offer.2.character, (glyph character).length = 1) →
        Keeps glyph context overlay cursor offer.2
          ∧ Level context (offerAt context overlay offer).2 (offer.2.moves glyph cursor))
      ∧ (¬ overlay.Shows offer.1 offer.2 (some context) →
        Level context (offerAt context overlay offer).2 cursor) := by
  rcases offer with ⟨frameId, action⟩
  have offset := consistent.offset
  have isShown := offer_shown_iff overlay frameId action (some context)
  have dropped (settled : (overlay.reconciliationRequired || overlay.overlayActive) = false) :
      cursor = context.column.toNat + 0 := by
    rcases Bool.or_eq_false_iff.mp settled with ⟨unrequired, idle⟩
    rw [level unrequired, (consistent.bare idle).offset]
  simp only [offerAt]
  rw [← isShown]
  rcases shape : overlay.offerForFrameWithContext frameId action (some context) with ⟨answer, after⟩
  cases offer_case_of shape with
  | late | hidden | skipped => exact ⟨fun wrong => absurd rfl wrong, fun _ => level⟩
  | invalidated | refused => exact ⟨fun wrong => absurd rfl wrong, fun _ => dropped⟩
  | printed reached bytes printable atEnd =>
      refine ⟨fun _ single => ?_, fun wrong => absurd (Option.some_ne_none _) wrong⟩
      rcases text_character printable with ⟨character, isPrinted⟩
      have here := level reached.settled
      have width := single character isPrinted
      rw [moves_character glyph isPrinted]
      refine ⟨⟨?_, ?_⟩, ?_⟩
      · intro other same
        rw [single other same]
        omega
      · intro isBackspace
        exact absurd isBackspace (character_not_backspace isPrinted)
      · intro _
        change cursor + _ = context.column.toNat + (overlay.cursorOffset + 1)
        omega
  | erased reached isBackspace inside =>
      refine ⟨fun _ _ => ?_, fun wrong => absurd (Option.some_ne_none _) wrong⟩
      subst isBackspace
      have here := level reached.settled
      refine ⟨⟨?_, ?_⟩, ?_⟩
      · intro other same
        cases same
      · intro _
        omega
      · intro _
        change cursor - 1 = context.column.toNat + (overlay.cursorOffset - 1)
        omega
  | left reached isLeft inside =>
      refine ⟨fun _ _ => ?_, fun wrong => absurd (Option.some_ne_none _) wrong⟩
      subst isLeft
      have here := level reached.settled
      refine ⟨keeps_still rfl (by simp), ?_⟩
      intro _
      change cursor - 1 = context.column.toNat + (overlay.cursorOffset - 1)
      omega
  | right reached isRight inside =>
      refine ⟨fun _ _ => ?_, fun wrong => absurd (Option.some_ne_none _) wrong⟩
      subst isRight
      have here := level reached.settled
      refine ⟨keeps_still rfl (by simp), ?_⟩
      intro _
      change cursor + 1 = context.column.toNat + (overlay.cursorOffset + 1)
      omega

/-- Characters of one column keep to the inserted columns, whatever the edits are. -/
theorem single_columns_stay (consistent : Consistent overlay) (level : Level context overlay cursor)
    (offers : List Offer) (single : SingleColumns glyph context overlay offers) :
    StaysInside glyph context overlay cursor offers := by
  induction offers generalizing overlay cursor with
  | nil => exact trivial
  | cons offer rest induction =>
      have step := @level_offer _ glyph _ _ _ consistent level offer
      have kept := offer_consistent consistent offer.1 offer.2 (some context)
      have later : SingleColumns glyph context (offerAt context overlay offer).2 rest :=
        fun event member => single event (List.mem_cons_of_mem _ member)
      constructor
      · intro shows
        have here := single _ List.mem_cons_self shows
        rcases step.1 shows here with ⟨keeps, onward⟩
        exact ⟨keeps, induction kept onward later⟩
      · intro hidden
        exact induction kept (step.2 hidden) later

end SingleColumns

section Restored

variable (context : PredictionContext) (console : Console Cell) (overlay : PredictionOverlay)
  (offers : List Offer)

/-- The reconciliation is local and the row and the cursor are as before the first offer. -/
def Restored : Prop :=
  (final (offerAt context) overlay offers).takeReconciliation.1 ≠ .redraw
    ∧ rolledBack blank glyph context overlay offers console = (.ground, console)

/-- The row ends in as many blanks as the span has characters at its longest. -/
def Fits (row : Row Cell) : Prop :=
  row.cells.drop (row.cells.length - longestSpan context overlay offers) =
    List.replicate (longestSpan context overlay offers) blank

/-- While the edits keep to the inserted columns, the rows that have room for the span are the
ones that are restored. Edits that do not keep to them lose a cell: whatever the rest of a row
is, at most one value of that cell comes back. -/
structure RollsBack : Prop where
  restores : StaysInside glyph context overlay context.column.toNat offers →
    (Restored blank glyph context console overlay offers ↔
      Fits blank context overlay offers console.row)
  loses : ¬ StaysInside glyph context overlay context.column.toNat offers →
    ∃ place, place ≤ context.column.toNat
      ∧ ∀ (row : Row Cell) (cell : Cell), row.cells.length = console.row.cells.length →
        row.cursor = console.row.cursor → row.cells[place]? ≠ some cell →
          ¬ (Restored blank glyph context { console with row } overlay offers
            ∧ Restored blank glyph context { console with row := row.put place cell } overlay
              offers)

variable {blank glyph context console overlay}

theorem spans_restored (anchors : Anchors blank glyph context console)
    (captured : Captured blank glyph (overlay.anchor context)) (bare : Bare overlay)
    (spans : Spans context (overlay.anchor context) overlay 0)
    (stays : StaysInside glyph context overlay context.column.toNat offers) :
    Restored blank glyph context console overlay offers ↔
      Fits blank context overlay offers console.row := by
  rcases stands_run anchors.toCaptured (standing_start bare spans) offers stays with
    ⟨later, moved, standing, feeds⟩
  rcases feeds console.row.cells console (placed_start anchors) with ⟨next, shows, placed⟩
  rw [Nat.zero_max] at standing placed
  rw [Restored, rolledBack, feed_append, shows, standing_taken standing captured anchors placed]
  exact and_iff_right (standing_local standing)

theorem Anchors.other (anchors : Anchors blank glyph context console) {row : Row Cell}
    (width : row.cells.length = console.row.cells.length)
    (cursor : row.cursor = console.row.cursor) :
    Anchors blank glyph context { console with row } where
  toCaptured := anchors.toCaptured
  line := anchors.line
  row := anchors.row
  screen := anchors.screen
  column := cursor.trans anchors.column
  columns := width.trans anchors.columns

theorem breach_lost (anchors : Anchors blank glyph context console) (bare : Bare overlay)
    (spans : Spans context (overlay.anchor context) overlay 0)
    (strays : ¬ StaysInside glyph context overlay context.column.toNat offers) :
    ∃ place, place ≤ context.column.toNat
      ∧ ∀ (row : Row Cell) (cell : Cell), row.cells.length = console.row.cells.length →
        row.cursor = console.row.cursor → row.cells[place]? ≠ some cell →
          ¬ (Restored blank glyph context { console with row } overlay offers
            ∧ Restored blank glyph context { console with row := row.put place cell } overlay
              offers) := by
  have standing : Standing context (overlay.anchor context) overlay 0 ([] : List Cell)
      context.column.toNat := standing_start bare spans
  rcases breach_run standing anchors.toCaptured offers strays with ⟨place, low, confuses⟩
  refine ⟨place, low, ?_⟩
  rintro row cell width cursor differs ⟨⟨_, restored⟩, _, also⟩
  have inside : place < row.cells.length := by
    have here := anchors.column
    have behind := row.inside
    omega
  have plain : Anchors blank glyph context { console with row } := anchors.other width cursor
  have changed : Anchors blank glyph context { console with row := row.put place cell } :=
    anchors.other (List.length_set.trans width) cursor
  have same := confuses row.cells cell { console with row }
    { console with row := row.put place cell } (placed_start plain) (placed_start changed)
  rw [rolledBack, feed_append, same, ← feed_append] at restored
  have consoles := restored.symm.trans also
  have cells : row.cells = row.cells.set place cell :=
    congrArg (fun state : Reader × Console Cell => state.2.row.cells) consoles
  apply differs
  rw [cells, List.getElem?_set_self inside]

theorem estranged_stays (estranged : Estranged context overlay) (cursor : Nat) :
    StaysInside glyph context overlay cursor offers := by
  induction offers generalizing overlay with
  | nil => exact trivial
  | cons offer rest induction =>
      rcases estranged_offer estranged offer with ⟨nothing, next⟩
      constructor
      · intro shows
        exact absurd nothing ((offer_shown_iff overlay offer.1 offer.2 (some context)).mpr shows)
      · intro _
        exact induction next

/-- Behind an anchor that was left over elsewhere nothing is written. -/
theorem estranged_restored (estranged : Estranged context overlay) :
    Restored blank glyph context console overlay offers
      ∧ Fits blank context overlay offers console.row := by
  rcases estranged_run estranged offers with ⟨bytes, longest, last⟩
  have idle := take_idle last.bare
  refine ⟨⟨?_, ?_⟩, ?_⟩
  · rw [idle]
    intro wrong
    cases wrong
  · rw [rolledBack, bytes, idle]
    rfl
  · rw [Fits, longest, Nat.sub_zero, List.drop_length]
    rfl

/-- For every overlay without a span, every row and every sequence of offers with one context. -/
theorem insert_mode_rolls_back_iff (anchors : Anchors blank glyph context console)
    (bare : Bare overlay) (inserts : overlay.overwrite = false)
    (left : ∀ held ∈ overlay.lineContext, Captured blank glyph held) :
    RollsBack blank glyph context console overlay offers := by
  have inside : context.column.toNat < context.columns.toNat := by
    rw [← anchors.column, ← anchors.columns]
    exact console.row.inside
  by_cases place : SamePlace (overlay.anchor context) context
  · have spans := spans_start bare inserts inside place
    have captured : Captured blank glyph (overlay.anchor context) := by
      rcases anchor : overlay.lineContext with _ | held
      · rw [PredictionOverlay.anchor, anchor]
        exact anchors.toCaptured
      · rw [PredictionOverlay.anchor, anchor]
        exact left held anchor
    exact ⟨spans_restored offers anchors captured bare spans, breach_lost offers anchors bare spans⟩
  · have estranged : Estranged context overlay := by
      refine ⟨bare, ?_⟩
      rcases anchor : overlay.lineContext with _ | held
      · rw [PredictionOverlay.anchor, anchor] at place
        exact absurd ⟨rfl, rfl, rfl⟩ place
      · rw [PredictionOverlay.anchor, anchor] at place
        exact ⟨held, rfl, place⟩
    rcases estranged_restored offers estranged with ⟨restored, fits⟩
    constructor
    · intro _
      exact iff_of_true restored fits
    · intro strays
      exact absurd (estranged_stays offers estranged _) strays

end Restored

section Letters

/-- A row of letters, blank at the margin where there is no letter. -/
def lettered (letters : List (Option Char)) (some_letters : 0 < letters.length) :
    Console (Option Char) where
  line := 2
  cursorRow := 2
  row := { cells := letters, cursor := 0, inside := some_letters }

/-- Renditions `ESC[0;1m`, and `ESC[3;1H` with them. -/
def thirdRow (columns : UInt16) : PredictionContext where
  row := 2
  column := 0
  columns := columns
  attributes := [0x1b, 0x5b, 0x30, 0x3b, 0x31, 0x6d]
  cursorState := [0x1b, 0x5b, 0x33, 0x3b, 0x31, 0x48, 0x1b, 0x5b, 0x30, 0x3b, 0x31, 0x6d]

theorem third_row_anchors (glyph : Char → List (Option Char)) (letters : List (Option Char))
    (some_letters : 0 < letters.length) {columns : UInt16} (width : letters.length = columns.toNat) :
    Anchors none glyph (thirdRow columns) (lettered letters some_letters) where
  line := rfl
  row := rfl
  screen := show 2 < 65535 by decide
  column := rfl
  columns := width
  attributes _ := rfl
  cursorState _ := rfl

/-- On a full row the last cell does not come back. -/
theorem full_row_not_restored :
    ¬ Restored none (fun character => [some character]) (thirdRow 3)
      (lettered [some 'x', some 'y', some 'z'] (by decide)) (.new .always false)
      [(1, .printableAscii 0x61)] := by
  rintro ⟨_, same⟩
  have cells := congrArg (fun state => state.2.row.cells) same
  revert cells
  decide

/-- Nor does an empty row, where a character of two columns is shown. -/
example : ¬ Restored none (fun character => [some character, some character]) (thirdRow 6)
    (lettered [none, none, none, none, none, none] (by decide)) (.new .always false)
    [(1, .printableUtf8 '界')] := by
  rintro ⟨_, same⟩
  have cells := congrArg (fun state => state.2.row.cells) same
  revert cells
  decide

/-- A character without a column leaves room for one of two. -/
example : Restored none
    (fun character => if character = '\u0301' then [] else [some character, some character])
    (thirdRow 6) (lettered [some 'x', none, none, none, none, none] (by decide))
    (.new .always false) [(1, .printableUtf8 '\u0301'), (2, .printableUtf8 '界')] :=
  ⟨by decide, rfl⟩

/-- One letter on a row that is blank at the margin, and then a move and an erasure. -/
theorem letter_rolls_back :
    Restored none (fun character => [some character]) (thirdRow 3)
      (lettered [some 'x', some 'y', none] (by decide)) (.new .always false)
      [(1, .printableAscii 0x61), (2, .left), (3, .right), (4, .backspace)] :=
  ((insert_mode_rolls_back_iff [(1, .printableAscii 0x61), (2, .left), (3, .right), (4, .backspace)]
    (third_row_anchors (fun character => [some character]) [some 'x', some 'y', none] (by decide)
      rfl) (new_bare .always false) rfl (fun _ absent => absurd absent (by simp [new]))).restores
    (single_columns_stay (new_bare .always false).consistent (fun _ => rfl) _
      (fun _ _ _ _ _ => rfl))).mpr rfl

end Letters

end FerrumTty.Predict
