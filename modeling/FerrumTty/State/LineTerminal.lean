import FerrumTty.State.Reconstruction

/-!
# A one-line terminal

A lawful `Terminal` that can be run: one row of printable cells, a cursor that a
carriage return takes back to the margin, and a saved cursor behind `ESC 7` and `ESC 8`.
-/

namespace FerrumTty.State

set_option autoImplicit false

open Crypto Wire

abbrev Cell := Fin 95

def Cell.byte (cell : Cell) : UInt8 := UInt8.ofNat (cell.val + 32)

def Cell.character (cell : Cell) : Char := Char.ofNat (cell.val + 32)

def cellOf (character : Char) : Option Cell :=
  if printable : 32 ≤ character.toNat ∧ character.toNat < 127 then
    some ⟨character.toNat - 32, by omega⟩
  else none

inductive LineParser where
  | ground
  | escape
  deriving DecidableEq

def LineParser.advance : LineParser → UInt8 → LineParser × List Callback
  | .ground, byte =>
      if byte = 0x1b then (.escape, [])
      else if 0x20 ≤ byte ∧ byte < 0x7f then (.ground, [.print (Char.ofNat byte.toNat)])
      else (.ground, [.execute byte])
  | .escape, byte => (.ground, [.escDispatch [] false byte])

structure LineView where
  rows : UInt16
  columns : UInt16
  cells : List Cell
  cursor : Nat
  width : cells.length = columns.toNat
  inside : cursor ≤ columns.toNat
  deriving DecidableEq

namespace LineView

def blank (rows columns : UInt16) : LineView where
  rows := rows
  columns := columns
  cells := List.replicate columns.toNat 0
  cursor := 0
  width := List.length_replicate
  inside := Nat.zero_le _

def put (view : LineView) (cell : Cell) : LineView where
  rows := view.rows
  columns := view.columns
  cells := view.cells.set view.cursor cell
  cursor := min (view.cursor + 1) view.columns.toNat
  width := by rw [List.length_set, view.width]
  inside := Nat.min_le_right _ _

def moveTo (view : LineView) (cursor : Nat) : LineView where
  rows := view.rows
  columns := view.columns
  cells := view.cells
  cursor := min cursor view.columns.toNat
  width := view.width
  inside := Nat.min_le_right _ _

def resize (view : LineView) (rows columns : UInt16) : LineView where
  rows := rows
  columns := columns
  cells := (view.cells ++ List.replicate columns.toNat 0).take columns.toNat
  cursor := min view.cursor columns.toNat
  width := by simp
  inside := Nat.min_le_right _ _

def perform (screen : LineView × Nat) : Callback → LineView × Nat
  | .print character =>
      match cellOf character with
      | some cell => (screen.1.put cell, screen.2)
      | none => screen
  | .execute byte => if byte = 0x0d then (screen.1.moveTo 0, screen.2) else screen
  | .escDispatch [] false byte =>
      if byte = 0x37 then (screen.1, screen.1.cursor)
      else if byte = 0x38 then (screen.1.moveTo screen.2, screen.2)
      else screen
  | _ => screen

/-- The whole line, and then again as far as the cursor. -/
def formatted (view : LineView) : Bytes :=
  0x0d :: view.cells.map Cell.byte ++ 0x0d :: (view.cells.take view.cursor).map Cell.byte

end LineView

def lineTerminal : Terminal where
  ParserState := LineParser
  parserStart := .ground
  advance := LineParser.advance
  Visible := LineView
  Hidden := Nat
  size view := (view.rows, view.columns)
  blank rows columns := (.blank rows columns, 0)
  perform := LineView.perform
  setSize screen rows columns := (screen.1.resize rows columns, screen.2)
  stateFormatted screen := screen.1.formatted
  stateDiff target _ := target.1.formatted

theorem LineParser.probe_iff (state : LineParser) :
    (state.advance 0x7e).2 = [.print '~'] ↔ state = .ground := by
  cases state <;> decide

theorem cell_of_character (cell : Cell) : cellOf cell.character = some cell := by
  revert cell
  decide

theorem advance_cell (cell : Cell) :
    LineParser.ground.advance cell.byte = (.ground, [.print cell.character]) := by
  revert cell
  decide

theorem advance_cells (cells : List Cell) (rest : Bytes) :
    lineTerminal.advanceAll lineTerminal.parserStart (cells.map Cell.byte ++ rest) =
      ((lineTerminal.advanceAll lineTerminal.parserStart rest).1,
        (cells.map fun cell => .print cell.character) ++
          (lineTerminal.advanceAll lineTerminal.parserStart rest).2) := by
  induction cells with
  | nil => rfl
  | cons cell cells induction =>
      have step : lineTerminal.advance lineTerminal.parserStart cell.byte =
          (lineTerminal.parserStart, [.print cell.character]) := advance_cell cell
      simp only [List.map_cons, List.cons_append, Terminal.advanceAll, step, induction]
      rfl

theorem advance_return (rest : Bytes) :
    lineTerminal.advanceAll lineTerminal.parserStart (0x0d :: rest) =
      ((lineTerminal.advanceAll lineTerminal.parserStart rest).1,
        .execute 0x0d :: (lineTerminal.advanceAll lineTerminal.parserStart rest).2) := rfl

theorem advance_formatted (view : LineView) :
    lineTerminal.advanceAll lineTerminal.parserStart view.formatted =
      (lineTerminal.parserStart,
        .execute 0x0d :: (view.cells.map fun cell => .print cell.character) ++
          .execute 0x0d :: (view.cells.take view.cursor).map fun cell => .print cell.character) := by
  have last := advance_cells (view.cells.take view.cursor) []
  rw [List.append_nil] at last
  rw [LineView.formatted, List.cons_append, advance_return, advance_cells, advance_return, last]
  simp [Terminal.advanceAll]

theorem set_split (cells : List Cell) (cursor : Nat) (cell : Cell) (inside : cursor < cells.length) :
    cells.set cursor cell = cells.take cursor ++ cell :: cells.drop (cursor + 1) :=
  List.set_eq_take_append_cons_drop.trans (if_pos inside)

theorem perform_prints (cells : List Cell) (screen : LineView × Nat)
    (fits : screen.1.cursor + cells.length ≤ screen.1.columns.toNat) :
    ((cells.map fun cell => Callback.print cell.character).foldl LineView.perform screen).2 = screen.2 ∧
      (let view := ((cells.map fun cell => Callback.print cell.character).foldl LineView.perform screen).1
       view.rows = screen.1.rows ∧ view.columns = screen.1.columns ∧
        view.cursor = screen.1.cursor + cells.length ∧
        view.cells = screen.1.cells.take screen.1.cursor ++ cells ++
          screen.1.cells.drop (screen.1.cursor + cells.length)) := by
  induction cells generalizing screen with
  | nil => simp
  | cons cell cells induction =>
      have step : LineView.perform screen (.print cell.character) = (screen.1.put cell, screen.2) := by
        simp [LineView.perform, cell_of_character]
      rw [List.length_cons] at fits
      have cursor : (screen.1.put cell).cursor = screen.1.cursor + 1 := Nat.min_eq_left (by omega)
      have inside : screen.1.cursor < screen.1.cells.length := by
        rw [screen.1.width]
        omega
      have shape := set_split screen.1.cells screen.1.cursor cell inside
      have cellsAfter : (screen.1.put cell).cells =
          (screen.1.cells.take screen.1.cursor ++ [cell]) ++ screen.1.cells.drop (screen.1.cursor + 1) := by
        rw [List.append_assoc]
        exact shape
      have width : (screen.1.cells.take screen.1.cursor ++ [cell]).length = screen.1.cursor + 1 := by
        rw [List.length_append, List.length_take, List.length_singleton]
        omega
      obtain ⟨saved, rows, columns, moved, written⟩ := induction (screen.1.put cell, screen.2)
        (by rw [cursor]; exact (by omega : screen.1.cursor + 1 + cells.length ≤ screen.1.columns.toNat))
      dsimp only at moved written
      rw [List.map_cons, List.foldl_cons, step]
      refine ⟨saved, rows, columns, ?_, ?_⟩
      · rw [moved, cursor, List.length_cons]
        omega
      · rw [written, cursor, cellsAfter, List.take_left' width, List.drop_append, width]
        have gone : (screen.1.cells.take screen.1.cursor ++ [cell]).drop
            (screen.1.cursor + 1 + cells.length) = [] :=
          List.drop_eq_nil_of_le (by rw [width]; omega)
        have start : screen.1.cursor + 1 + (screen.1.cursor + 1 + cells.length - (screen.1.cursor + 1)) =
            screen.1.cursor + (cells.length + 1) := by omega
        rw [gone, List.nil_append, List.drop_drop, start, List.length_cons, List.append_assoc,
          List.append_assoc, List.append_assoc]
        rfl

theorem perform_return (screen : LineView × Nat) :
    LineView.perform screen (.execute 0x0d) = (screen.1.moveTo 0, screen.2) := rfl

theorem formatted_restores (view : LineView) (host : LineView × Nat)
    (sameRows : host.1.rows = view.rows) (sameColumns : host.1.columns = view.columns) :
    (lineTerminal.advanceAll lineTerminal.parserStart view.formatted).2.foldl LineView.perform host =
      (view, host.2) := by
  rw [advance_formatted, List.foldl_append, List.foldl_cons, perform_return, List.foldl_cons,
    perform_return]
  have home : ((host.1.moveTo 0).cursor) = 0 := Nat.zero_min _
  obtain ⟨saved, rows, columns, moved, written⟩ := perform_prints view.cells
    (host.1.moveTo 0, host.2) (by
      rw [home, Nat.zero_add, view.width]
      exact Nat.le_of_eq (congrArg UInt16.toNat sameColumns.symm))
  dsimp only at saved rows columns moved written
  generalize (view.cells.map fun cell => Callback.print cell.character).foldl LineView.perform
    (host.1.moveTo 0, host.2) = middle at *
  have full : middle.1.cells = view.cells := by
    rw [written, home]
    have none_left : (host.1.moveTo 0).cells.drop (0 + view.cells.length) = [] := by
      apply List.drop_eq_nil_of_le
      rw [(host.1.moveTo 0).width, view.width, Nat.zero_add]
      exact Nat.le_of_eq (congrArg UInt16.toNat sameColumns)
    rw [none_left, List.take_zero, List.nil_append, List.append_nil]
  have homeAgain : ((middle.1.moveTo 0).cursor) = 0 := Nat.zero_min _
  obtain ⟨savedLast, rowsLast, columnsLast, movedLast, writtenLast⟩ :=
    perform_prints (view.cells.take view.cursor) (middle.1.moveTo 0, middle.2) (by
      rw [homeAgain, Nat.zero_add]
      refine Nat.le_trans (List.length_take_le _ _) (Nat.le_trans view.inside ?_)
      exact Nat.le_of_eq (congrArg UInt16.toNat (columns.trans sameColumns).symm))
  dsimp only at savedLast rowsLast columnsLast movedLast writtenLast
  generalize ((view.cells.take view.cursor).map fun cell => Callback.print cell.character).foldl
    LineView.perform (middle.1.moveTo 0, middle.2) = last at *
  have length : (view.cells.take view.cursor).length = view.cursor := by
    rw [List.length_take, view.width]
    exact Nat.min_eq_left view.inside
  apply Prod.ext
  · have sameCells : last.1.cells = view.cells := by
      have kept : (middle.1.moveTo 0).cells = view.cells := full
      rw [writtenLast, homeAgain, length, kept, List.take_zero, List.nil_append, Nat.zero_add,
        List.take_append_drop]
    have sameCursor : last.1.cursor = view.cursor := by
      rw [movedLast, homeAgain, length, Nat.zero_add]
    have sameRows : last.1.rows = view.rows := rowsLast.trans (rows.trans sameRows)
    have sameColumns : last.1.columns = view.columns := columnsLast.trans (columns.trans sameColumns)
    cases lastView : last.1
    cases view
    simp_all
  · exact savedLast.trans saved

theorem perform_keeps_size (screen : LineView × Nat) (callback : Callback) :
    (LineView.perform screen callback).1.rows = screen.1.rows ∧
      (LineView.perform screen callback).1.columns = screen.1.columns := by
  unfold LineView.perform
  split
  · split <;> exact ⟨rfl, rfl⟩
  · split_ifs <;> exact ⟨rfl, rfl⟩
  · split_ifs <;> exact ⟨rfl, rfl⟩
  · exact ⟨rfl, rfl⟩

theorem lawful_line_terminal : LawfulTerminal lineTerminal where
  probe_ground := LineParser.probe_iff
  formatted_ground screen := by
    exact congrArg Prod.fst (advance_formatted screen.1)
  blank_size rows columns := rfl
  perform_size screen callback :=
    Prod.ext (perform_keeps_size screen callback).1 (perform_keeps_size screen callback).2
  resized screen rows columns := rfl
  state_diff target previous host sameSize sameVisible := by
    obtain ⟨sameRows, sameColumns⟩ := Prod.mk.inj sameSize
    have restored := formatted_restores target.1 host
      (by rw [sameVisible]; exact sameRows.symm) (by rw [sameVisible]; exact sameColumns.symm)
    have state := congrArg Prod.fst (advance_formatted target.1)
    change Parser.mk _ _ = _
    rw [Parser.mk.injEq]
    exact ⟨state, restored⟩

end FerrumTty.State
