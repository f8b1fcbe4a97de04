import FerrumTty.Library.Decimal
import Mathlib.Data.List.Basic

/-!
# A row of a terminal

Cells and a cursor, the control functions that edit them, and the reader that finds these
functions in a byte stream. What a character is written as, one cell a column, and what a
blank cell is are left open. `spliced` is the row as it stands while characters are typed into
it: what the insertions push past the margin is gone.
-/

namespace FerrumTty.TerminalRow

set_option autoImplicit false

@[ext] structure Row (Cell : Type*) where
  cells : List Cell
  cursor : Nat
  inside : cursor < cells.length

variable {Cell : Type*}

section Edits

variable (blank : Cell)

/-- `ICH`. -/
def inserted (cells : List Cell) (cursor count : Nat) : List Cell :=
  (cells.take cursor ++ List.replicate count blank ++ cells.drop cursor).take cells.length

/-- `DCH`. -/
def deleted (cells : List Cell) (cursor count : Nat) : List Cell :=
  cells.take cursor ++ cells.drop (cursor + count)
    ++ List.replicate (min count (cells.length - cursor)) blank

def written (cells : List Cell) (cursor : Nat) (glyph : List Cell) : List Cell :=
  (cells.take cursor ++ glyph ++ cells.drop (cursor + glyph.length)).take cells.length

@[simp] theorem inserted_length (cells : List Cell) (cursor count : Nat) :
    (inserted blank cells cursor count).length = cells.length := by
  simp [inserted]
  omega

@[simp] theorem deleted_length {cells : List Cell} {cursor : Nat} (count : Nat)
    (inside : cursor < cells.length) :
    (deleted blank cells cursor count).length = cells.length := by
  simp [deleted]
  omega

@[simp] theorem written_length (cells : List Cell) (cursor : Nat) (glyph : List Cell) :
    (written cells cursor glyph).length = cells.length := by
  simp [written]
  omega

theorem inserted_append (front back : List Cell) (count : Nat) :
    inserted blank (front ++ back) front.length count =
      front ++ (List.replicate count blank ++ back).take back.length := by
  rw [inserted, List.take_left, List.drop_left, List.length_append, List.append_assoc,
    List.take_length_add_append]

theorem deleted_append (front gone back : List Cell) :
    deleted blank (front ++ (gone ++ back)) front.length gone.length =
      front ++ back ++ List.replicate gone.length blank := by
  have behind : (front ++ (gone ++ back)).drop (front.length + gone.length) = back := by
    rw [← List.append_assoc, ← List.length_append, List.drop_left]
  have enough : min gone.length ((front ++ (gone ++ back)).length - front.length) =
      gone.length := by
    simp only [List.length_append]
    omega
  rw [deleted, behind, enough, List.take_left]

theorem written_append (front old back glyph : List Cell) (same : old.length = glyph.length) :
    written (front ++ (old ++ back)) front.length glyph = front ++ (glyph ++ back) := by
  have behind : (front ++ (old ++ back)).drop (front.length + glyph.length) = back := by
    rw [← same, ← List.append_assoc, ← List.length_append, List.drop_left]
  have whole : (front ++ (old ++ back)).length = (front ++ (glyph ++ back)).length := by
    simp only [List.length_append, same]
  rw [written, behind, List.take_left, List.append_assoc, whole, List.take_length]

section Changed

variable {cells : List Cell} {cursor count place : Nat} {glyph : List Cell} (cell : Cell)

theorem inserted_set (within : cursor ≤ cells.length) (behind : cursor ≤ place) :
    inserted blank (cells.set place cell) cursor count =
      (inserted blank cells cursor count).set (place + count) cell := by
  have spot : (cells.take cursor ++ List.replicate count blank).length = cursor + count := by
    rw [List.length_append, List.length_take_of_le within, List.length_replicate]
  have offset : place + count - (cursor + count) = place - cursor := by omega
  rw [inserted, inserted, List.length_set, List.take_set_of_le behind, List.drop_set,
    if_neg (Nat.not_lt.mpr behind), ← List.take_set,
    List.set_append_right _ _ (by omega), spot, offset]

theorem written_set (before : cursor ≤ place) (covered : place < cursor + glyph.length) :
    written (cells.set place cell) cursor glyph = written cells cursor glyph := by
  rw [written, written, List.length_set, List.take_set_of_le before, List.drop_set_of_lt covered]

theorem deleted_set (before : cursor ≤ place) (covered : place < cursor + count) :
    deleted blank (cells.set place cell) cursor count = deleted blank cells cursor count := by
  rw [deleted, deleted, List.length_set, List.take_set_of_le before, List.drop_set_of_lt covered]

end Changed

namespace Row

def moveTo (row : Row Cell) (column : Nat) : Row Cell where
  cells := row.cells
  cursor := min column (row.cells.length - 1)
  inside := by
    have := row.inside
    omega

def insertCharacters (row : Row Cell) (count : Nat) : Row Cell where
  cells := inserted blank row.cells row.cursor count
  cursor := row.cursor
  inside := by
    rw [inserted_length]
    exact row.inside

def deleteCharacters (row : Row Cell) (count : Nat) : Row Cell where
  cells := deleted blank row.cells row.cursor count
  cursor := row.cursor
  inside := by
    rw [deleted_length blank count row.inside]
    exact row.inside

def print (row : Row Cell) (glyph : List Cell) : Row Cell where
  cells := written row.cells row.cursor glyph
  cursor := min (row.cursor + glyph.length) (row.cells.length - 1)
  inside := by
    have := row.inside
    simp
    omega

def left (row : Row Cell) (count : Nat) : Row Cell := row.moveTo (row.cursor - count)

def right (row : Row Cell) (count : Nat) : Row Cell := row.moveTo (row.cursor + count)

/-- The row with another cell in one column. -/
def put (row : Row Cell) (place : Nat) (cell : Cell) : Row Cell where
  cells := row.cells.set place cell
  cursor := row.cursor
  inside := by
    rw [List.length_set]
    exact row.inside

theorem moveTo_cursor (row : Row Cell) : row.moveTo row.cursor = row := by
  have inside := row.inside
  apply Row.ext
  · rfl
  · simp only [moveTo]
    omega

end Row

end Edits

section Splices

/-- The row while `shown` stands at `column` and `lost` cells have gone past the margin. -/
def spliced (blank : Cell) (base : List Cell) (column : Nat) (shown : List Cell) (lost : Nat) :
    List Cell :=
  base.take column ++ shown ++ (base.drop column).take (base.length - column - lost)
    ++ List.replicate (lost - shown.length) blank

variable {blank : Cell} {base shown : List Cell} {column lost : Nat}

theorem spliced_length (fits : shown.length ≤ lost) (room : column + lost ≤ base.length) :
    (spliced blank base column shown lost).length = base.length := by
  simp [spliced]
  omega

theorem spliced_start : spliced blank base column [] 0 = base := by
  have whole : (base.drop column).take (base.length - column) = base.drop column := by
    rw [← List.length_drop, List.take_length]
  simp [spliced, whole]

theorem spliced_parts {first second : List Cell} (parts : first ++ second = shown) :
    spliced blank base column shown lost = base.take column ++ first ++ (second ++
      ((base.drop column).take (base.length - column - lost) ++
        List.replicate (lost - shown.length) blank)) := by
  rw [spliced, ← parts]
  simp only [List.append_assoc]

theorem spliced_rest (fits : shown.length ≤ lost) (before : column + shown.length < base.length) :
    ((base.drop column).take (base.length - column - lost) ++
        List.replicate (lost - shown.length) blank).dropLast =
      (base.drop column).take (base.length - column - max lost (shown.length + 1)) ++
        List.replicate (max lost (shown.length + 1) - (shown.length + 1)) blank := by
  rcases Nat.lt_or_eq_of_le fits with more | full
  · have blanks : lost - shown.length = lost - (shown.length + 1) + 1 := by omega
    rw [Nat.max_eq_left more, blanks, List.replicate_succ', ← List.append_assoc,
      List.dropLast_concat]
  · rw [← full, Nat.sub_self, Nat.max_eq_right (Nat.le_succ _), Nat.sub_self, List.replicate_zero,
      List.append_nil, List.append_nil, List.dropLast_eq_take, List.length_take, List.length_drop,
      List.take_take]
    congr 1
    omega

theorem spliced_insert {place : Nat} (inside : place ≤ shown.length) (fits : shown.length ≤ lost)
    (room : column + lost ≤ base.length) (before : column + shown.length < base.length) :
    inserted blank (spliced blank base column shown lost) (column + place) 1 =
      spliced blank base column (shown.take place ++ blank :: shown.drop place)
        (max lost (shown.length + 1)) := by
  have spot : (base.take column ++ shown.take place).length = column + place := by
    rw [List.length_append, List.length_take_of_le (by omega), List.length_take_of_le inside]
  have count : (shown.take place ++ blank :: shown.drop place).length = shown.length + 1 := by
    simp only [List.length_append, List.length_cons, List.length_take, List.length_drop]
    omega
  have rest := @spliced_rest _ blank base shown column lost fits before
  have behind : 0 < ((base.drop column).take (base.length - column - lost) ++
      List.replicate (lost - shown.length) blank).length := by
    simp only [List.length_append, List.length_take, List.length_drop, List.length_replicate]
    omega
  rw [spliced_parts (List.take_append_drop place shown), spliced, count]
  generalize (base.drop column).take (base.length - column - lost) ++
    List.replicate (lost - shown.length) blank = back at rest behind
  have some_back : back ≠ [] := List.ne_nil_of_length_pos behind
  have moved : (List.replicate 1 blank ++ (shown.drop place ++ back)).take
      (shown.drop place ++ back).length = blank :: (shown.drop place ++ back.dropLast) := by
    rw [← List.dropLast_append_of_ne_nil some_back, List.dropLast_eq_take, List.length_append]
    have positive : (shown.drop place).length + back.length =
        (shown.drop place).length + back.length - 1 + 1 := by omega
    rw [positive]
    rfl
  rw [← spot, inserted_append, moved, rest]
  simp only [List.append_assoc, List.cons_append]

theorem spliced_write {place : Nat} {glyph : List Cell}
    (inside : place + glyph.length ≤ shown.length) (room : column ≤ base.length) :
    written (spliced blank base column shown lost) (column + place) glyph =
      spliced blank base column (shown.take place ++ glyph ++ shown.drop (place + glyph.length))
        lost := by
  have spot : (base.take column ++ shown.take place).length = column + place := by
    rw [List.length_append, List.length_take_of_le room, List.length_take_of_le (by omega)]
  have same : ((shown.drop place).take glyph.length).length = glyph.length := by
    rw [List.length_take_of_le]
    rw [List.length_drop]
    omega
  have count : (shown.take place ++ glyph ++ shown.drop (place + glyph.length)).length =
      shown.length := by
    simp only [List.length_append, List.length_take, List.length_drop]
    omega
  have whole : shown.take place ++ ((shown.drop place).take glyph.length ++
      shown.drop (place + glyph.length)) = shown := by
    rw [← List.drop_drop, List.take_append_drop, List.take_append_drop]
  rw [spliced_parts whole, ← spot, List.append_assoc (List.take _ (List.drop place shown)),
    written_append _ _ _ _ same, spliced, count]
  simp only [List.append_assoc]

theorem spliced_delete {kept gone rest : List Cell} (fits : (kept ++ gone ++ rest).length ≤ lost)
    (room : column + lost ≤ base.length) :
    deleted blank (spliced blank base column (kept ++ gone ++ rest) lost) (column + kept.length)
        gone.length = spliced blank base column (kept ++ rest) lost := by
  simp only [List.length_append] at fits
  have spot : (base.take column ++ kept).length = column + kept.length := by
    rw [List.length_append, List.length_take_of_le (by omega)]
  have blanks : List.replicate (lost - (kept.length + gone.length + rest.length)) blank ++
      List.replicate gone.length blank =
        List.replicate (lost - (kept.length + rest.length)) blank := by
    rw [← List.replicate_add]
    congr 1
    omega
  rw [spliced_parts (List.append_assoc kept gone rest).symm, List.append_assoc gone, ← spot,
    deleted_append, spliced, List.length_append,
    List.length_append, List.length_append, ← blanks]
  simp only [List.append_assoc]

/-- Shown cells after a glyph is typed among them, with room made for one cell. -/
def typed (blank : Cell) (shown : List Cell) (place : Nat) (glyph : List Cell) : List Cell :=
  (shown.take place ++ blank :: shown.drop place).take place ++ glyph ++
    (shown.take place ++ blank :: shown.drop place).drop (place + glyph.length)

theorem typed_length {place : Nat} {glyph : List Cell} (inside : place ≤ shown.length)
    (fits : place + glyph.length ≤ shown.length + 1) :
    (typed blank shown place glyph).length = shown.length + 1 := by
  simp only [typed, List.length_append, List.length_cons, List.length_take, List.length_drop]
  omega

theorem spliced_typed {place : Nat} {glyph : List Cell} (inside : place ≤ shown.length)
    (within : place + glyph.length ≤ shown.length + 1) (fits : shown.length ≤ lost)
    (room : column + lost ≤ base.length) (before : column + shown.length < base.length) :
    written (inserted blank (spliced blank base column shown lost) (column + place) 1)
        (column + place) glyph =
      spliced blank base column (typed blank shown place glyph) (max lost (shown.length + 1)) := by
  have opened : place + glyph.length ≤ (shown.take place ++ blank :: shown.drop place).length := by
    simp only [List.length_append, List.length_cons, List.length_take, List.length_drop]
    omega
  rw [spliced_insert inside fits room before, spliced_write opened (by omega), typed]

theorem spliced_erased {place : Nat} (inside : place < shown.length) (fits : shown.length ≤ lost)
    (room : column + lost ≤ base.length) :
    deleted blank (spliced blank base column shown lost) (column + place) 1 =
      spliced blank base column (shown.eraseIdx place) lost := by
  have front : (shown.take place).length = place := List.length_take_of_le (Nat.le_of_lt inside)
  have whole : shown.take place ++ [shown[place]] ++ shown.drop (place + 1) = shown := by
    rw [List.append_assoc, List.singleton_append, List.getElem_cons_drop, List.take_append_drop]
  have erased := @spliced_delete _ blank base column lost (shown.take place) [shown[place]]
    (shown.drop (place + 1)) (by rw [whole]; exact fits) room
  rw [whole, front, List.length_singleton] at erased
  rw [erased, List.eraseIdx_eq_take_drop_succ]

theorem spliced_set_front {place : Nat} (front : place < column) (room : column ≤ base.length)
    (cell : Cell) :
    spliced blank (base.set place cell) column shown lost =
      (spliced blank base column shown lost).set place cell := by
  have inside : place < (base.take column).length := by
    rw [List.length_take_of_le room]
    exact front
  rw [spliced, spliced, List.length_set, List.take_set, List.drop_set_of_lt front,
    List.append_assoc, List.append_assoc, List.append_assoc, List.append_assoc,
    List.set_append_left _ _ inside]

theorem spliced_set_anchor (room : column + lost < base.length) (cell : Cell) :
    spliced blank (base.set column cell) column shown lost =
      (spliced blank base column shown lost).set (column + shown.length) cell := by
  have spot : (base.take column ++ shown).length = column + shown.length := by
    rw [List.length_append, List.length_take_of_le (by omega)]
  have some_left : 0 < ((base.drop column).take (base.length - column - lost)).length := by
    simp only [List.length_take, List.length_drop]
    omega
  rw [spliced, spliced, List.length_set, List.take_set_of_le (Nat.le_refl column), List.drop_set,
    if_neg (Nat.lt_irrefl column), Nat.sub_self, List.take_set, List.append_assoc,
    List.append_assoc _ _ (List.replicate _ blank), ← spot,
    List.set_append_right _ _ (Nat.le_refl _), Nat.sub_self, List.set_append_left _ _ some_left]

theorem spliced_nothing (room : column + lost ≤ base.length) :
    spliced blank base column [] lost =
      base.take (base.length - lost) ++ List.replicate lost blank := by
  have widths : base.length - lost = column + (base.length - column - lost) := by omega
  rw [widths, List.take_add]
  simp [spliced]

/-- With nothing shown any more, the row is whole exactly if what went past the margin was
blank. -/
theorem spliced_nothing_iff (room : column + lost ≤ base.length) :
    spliced blank base column [] lost = base ↔
      base.drop (base.length - lost) = List.replicate lost blank := by
  rw [spliced_nothing room]
  constructor
  · intro same
    calc base.drop (base.length - lost)
        = (base.take (base.length - lost) ++ List.replicate lost blank).drop
            (base.length - lost) := by rw [same]
      _ = List.replicate lost blank :=
          List.drop_left' (List.length_take_of_le (Nat.sub_le _ _))
  · intro tail
    rw [← tail, List.take_append_drop]

end Splices

inductive Control where
  | print (character : Char)
  | insertCharacters (count : Nat)
  | deleteCharacters (count : Nat)
  | cursorLeft (count : Nat)
  | cursorRight (count : Nat)
  | cursorPosition (row column : Nat)
  deriving DecidableEq, Repr

/-- One line of a screen, with the cursor of the screen. -/
@[ext] structure Console (Cell : Type*) where
  line : Nat
  cursorRow : Nat
  row : Row Cell

section Consoles

variable (blank : Cell) (glyph : Char → List Cell)

/-- On another line the cursor moves and the cells of this one stay. -/
def Console.edit (console : Console Cell) (change : Row Cell → Row Cell) : Console Cell :=
  if console.cursorRow = console.line then { console with row := change console.row }
  else { console with row := console.row.moveTo (change console.row).cursor }

def Console.perform (console : Console Cell) : Control → Console Cell
  | .print character => console.edit fun row => row.print (glyph character)
  | .insertCharacters count => console.edit fun row => row.insertCharacters blank count
  | .deleteCharacters count => console.edit fun row => row.deleteCharacters blank count
  | .cursorLeft count => console.edit fun row => row.left count
  | .cursorRight count => console.edit fun row => row.right count
  | .cursorPosition row column =>
      { console with cursorRow := row - 1, row := console.row.moveTo (column - 1) }

section Here

variable (console : Console Cell) (here : console.cursorRow = console.line)

include here

theorem perform_print (character : Char) : console.perform blank glyph (.print character) =
    { console with row := console.row.print (glyph character) } := by
  simp [Console.perform, Console.edit, here]

theorem perform_insert (count : Nat) : console.perform blank glyph (.insertCharacters count) =
    { console with row := console.row.insertCharacters blank count } := by
  simp [Console.perform, Console.edit, here]

theorem perform_delete (count : Nat) : console.perform blank glyph (.deleteCharacters count) =
    { console with row := console.row.deleteCharacters blank count } := by
  simp [Console.perform, Console.edit, here]

theorem perform_left (count : Nat) : console.perform blank glyph (.cursorLeft count) =
    { console with row := console.row.left count } := by
  simp [Console.perform, Console.edit, here]

theorem perform_right (count : Nat) : console.perform blank glyph (.cursorRight count) =
    { console with row := console.row.right count } := by
  simp [Console.perform, Console.edit, here]

end Here

/-- The reader keeps the parameters of a control sequence with the newest first. -/
inductive Reader where
  | ground
  | escape
  | sequence (parameters : List Nat)
  | skipped
  | character (missing : Nat) (value : Nat)
  deriving DecidableEq, Repr

/-- A parameter that is absent or zero stands for one. -/
def parameter (parameters : List Nat) (place : Nat) : Nat :=
  max 1 (parameters.reverse.getD place 0)

/-- Renditions and the other functions of a terminal leave the cells and the cursor alone. -/
def dispatch (parameters : List Nat) (code : Nat) : Option Control :=
  if code = 0x40 then some (.insertCharacters (parameter parameters 0))
  else if code = 0x50 then some (.deleteCharacters (parameter parameters 0))
  else if code = 0x44 then some (.cursorLeft (parameter parameters 0))
  else if code = 0x43 then some (.cursorRight (parameter parameters 0))
  else if code = 0x48 then
    some (.cursorPosition (parameter parameters 0) (parameter parameters 1))
  else none

def Reader.advanceGround (code : Nat) : Reader × Option Control :=
  if code = 0x1b then (.escape, none)
  else if code < 0x20 ∨ code = 0x7f then (.ground, none)
  else if code < 0x80 then (.ground, some (.print (Char.ofNat code)))
  else if code < 0xc0 then (.ground, none)
  else if code < 0xe0 then (.character 1 (code - 0xc0), none)
  else if code < 0xf0 then (.character 2 (code - 0xe0), none)
  else if code < 0xf8 then (.character 3 (code - 0xf0), none)
  else (.ground, none)

def Reader.advanceSequence (parameters : List Nat) (code : Nat) : Reader × Option Control :=
  if 0x30 ≤ code ∧ code ≤ 0x39 then
    match parameters with
    | [] => (.sequence [code - 0x30], none)
    | value :: rest => (.sequence ((10 * value + (code - 0x30)) :: rest), none)
  else if code = 0x3b then (.sequence (0 :: parameters), none)
  else if 0x40 ≤ code ∧ code ≤ 0x7e then (.ground, dispatch parameters code)
  else (.skipped, none)

def Reader.advanceCharacter (missing value code : Nat) : Reader × Option Control :=
  if 0x80 ≤ code ∧ code < 0xc0 then
    if missing = 1 then (.ground, some (.print (Char.ofNat (64 * value + (code - 0x80)))))
    else (.character (missing - 1) (64 * value + (code - 0x80)), none)
  else (.ground, none)

def Reader.advance (reader : Reader) (byte : UInt8) : Reader × Option Control :=
  match reader with
  | .ground => advanceGround byte.toNat
  | .escape => if byte.toNat = 0x5b then (.sequence [0], none) else (.ground, none)
  | .sequence parameters => advanceSequence parameters byte.toNat
  | .skipped =>
      if 0x40 ≤ byte.toNat ∧ byte.toNat ≤ 0x7e then (.ground, none) else (.skipped, none)
  | .character missing value => advanceCharacter missing value byte.toNat

def take (state : Reader × Console Cell) (byte : UInt8) : Reader × Console Cell :=
  ((state.1.advance byte).1,
    (state.1.advance byte).2.elim state.2 (state.2.perform blank glyph))

def feed (state : Reader × Console Cell) (bytes : List UInt8) : Reader × Console Cell :=
  bytes.foldl (take blank glyph) state

@[simp] theorem feed_nil (state : Reader × Console Cell) : feed blank glyph state [] = state := rfl

@[simp] theorem feed_cons (state : Reader × Console Cell) (byte : UInt8) (rest : List UInt8) :
    feed blank glyph state (byte :: rest) =
      feed blank glyph (take blank glyph state byte) rest := rfl

@[simp] theorem feed_append (state : Reader × Console Cell) (first second : List UInt8) :
    feed blank glyph state (first ++ second) =
      feed blank glyph (feed blank glyph state first) second :=
  List.foldl_append

theorem feed_digits (console : Console Cell) (value : Nat) (rest : List Nat)
    (digits : List Char) (all : ∀ digit ∈ digits, digit.isDigit) :
    feed blank glyph (.sequence (value :: rest), console)
        (digits.map fun digit => UInt8.ofNat digit.toNat) =
      (.sequence (Nat.ofDigitChars 10 digits value :: rest), console) := by
  induction digits generalizing value with
  | nil => simp
  | cons digit others induction =>
      have numeral : digit.isDigit := all digit (List.mem_cons_self ..)
      have bounds : 0x30 ≤ digit.toNat ∧ digit.toNat ≤ 0x39 := by
        simpa [Char.isDigit, UInt32.le_iff_toNat_le] using numeral
      have code : (UInt8.ofNat digit.toNat).toNat = digit.toNat := by
        rw [UInt8.toNat_ofNat']
        omega
      have step : take blank glyph (.sequence (value :: rest), console)
          (UInt8.ofNat digit.toNat) =
            (.sequence ((10 * value + (digit.toNat - 0x30)) :: rest), console) := by
        simp only [take, Reader.advance, Reader.advanceSequence, code, bounds, and_self, if_true,
          Option.elim_none]
      rw [List.map_cons, feed_cons, step, Nat.ofDigitChars_cons]
      exact induction _ fun other member => all other (List.mem_cons_of_mem _ member)

theorem feed_number (console : Console Cell) (rest : List Nat) (number : Nat) :
    feed blank glyph (.sequence (0 :: rest), console)
        (Decimal.written number) =
      (.sequence (number :: rest), console) := by
  rw [Decimal.written, feed_digits]
  · rw [Nat.ofDigitChars_ten_toDigits]
  · intro digit member
    exact Nat.isDigit_of_mem_toDigits (by decide) (by decide) member

def Console.finish (console : Console Cell) (parameters : List Nat) (code : UInt8) :
    Console Cell :=
  (dispatch parameters code.toNat).elim console (console.perform blank glyph)

theorem feed_final (console : Console Cell) (parameters : List Nat) {code : UInt8}
    (final : 0x40 ≤ code.toNat ∧ code.toNat ≤ 0x7e) :
    feed blank glyph (.sequence parameters, console) [code] =
      (.ground, console.finish blank glyph parameters code) := by
  have digitless : ¬ (0x30 ≤ code.toNat ∧ code.toNat ≤ 0x39) := by omega
  have together : code.toNat ≠ 0x3b := by omega
  simp [take, Reader.advance, Reader.advanceSequence, digitless, together, final,
    Console.finish]

theorem feed_introducer (console : Console Cell) :
    feed blank glyph (.ground, console) [0x1b, 0x5b] = (.sequence [0], console) := rfl

theorem feed_separator (console : Console Cell) (parameters : List Nat) :
    feed blank glyph (.sequence parameters, console) [0x3b] =
      (.sequence (0 :: parameters), console) := rfl

theorem advance_continuation (missing value low : Nat) :
    Reader.advance (.character missing value) (UInt8.ofNat (low % 0x40 + 0x80)) =
      if missing = 1 then (.ground, some (.print (Char.ofNat (64 * value + low % 0x40))))
      else (.character (missing - 1) (64 * value + low % 0x40), none) := by
  have code : (UInt8.ofNat (low % 0x40 + 0x80)).toNat = low % 0x40 + 0x80 := by
    rw [UInt8.toNat_ofNat']
    omega
  have inside : 0x80 ≤ low % 0x40 + 0x80 ∧ low % 0x40 + 0x80 < 0xc0 := by omega
  rw [Reader.advance, Reader.advanceCharacter, code, if_pos inside, Nat.add_sub_cancel]

theorem advance_lead (value : Nat) (small : value < 0x100) :
    Reader.advance .ground (UInt8.ofNat value) = Reader.advanceGround value := by
  have code : (UInt8.ofNat value).toNat = value := by
    rw [UInt8.toNat_ofNat']
    omega
  rw [Reader.advance, code]

section Leads

variable {value : Nat}

theorem ground_ascii (visible : 0x20 ≤ value ∧ value ≠ 0x7f) (low : value < 0x80) :
    Reader.advanceGround value = (.ground, some (.print (Char.ofNat value))) := by
  rw [Reader.advanceGround, if_neg (by omega), if_neg (by omega), if_pos low]

theorem ground_two (short : value < 0x20) :
    Reader.advanceGround (value + 0xc0) = (.character 1 value, none) := by
  rw [Reader.advanceGround, if_neg (by omega), if_neg (by omega), if_neg (by omega),
    if_neg (by omega), if_pos (by omega), Nat.add_sub_cancel]

theorem ground_three (short : value < 0x10) :
    Reader.advanceGround (value + 0xe0) = (.character 2 value, none) := by
  rw [Reader.advanceGround, if_neg (by omega), if_neg (by omega), if_neg (by omega),
    if_neg (by omega), if_neg (by omega), if_pos (by omega), Nat.add_sub_cancel]

theorem ground_four (short : value < 0x08) :
    Reader.advanceGround (value + 0xf0) = (.character 3 value, none) := by
  rw [Reader.advanceGround, if_neg (by omega), if_neg (by omega), if_neg (by omega),
    if_neg (by omega), if_neg (by omega), if_neg (by omega), if_pos (by omega), Nat.add_sub_cancel]

end Leads

theorem feed_character (console : Console Cell) (character : Char)
    (visible : 0x20 ≤ character.toNat ∧ character.toNat ≠ 0x7f) :
    feed blank glyph (.ground, console) (String.utf8EncodeChar character) =
      (.ground, console.perform blank glyph (.print character)) := by
  have bound : character.val.toNat < 0x110000 := by
    rcases character.valid with low | high
    · exact Nat.lt_trans low (by decide)
    · exact high.2
  have back : Char.ofNat character.val.toNat = character := Char.ofNat_toNat character
  change 0x20 ≤ character.val.toNat ∧ character.val.toNat ≠ 0x7f at visible
  simp only [String.utf8EncodeChar]
  generalize character.val.toNat = value at visible bound back
  split_ifs with one two three
  · have lead := ground_ascii visible (by omega)
    simp only [feed_cons, feed_nil, take]
    rw [advance_lead _ (by omega), lead, back]
    rfl
  · have short : value / 64 < 0x20 := by omega
    have whole : 64 * (value / 64) + value % 0x40 = value := by omega
    simp only [feed_cons, feed_nil, take]
    rw [Nat.mod_eq_of_lt short, advance_lead _ (by omega), ground_two short,
      advance_continuation, if_pos rfl, whole, back]
    rfl
  · have short : value / 4096 < 0x10 := by omega
    have whole : 64 * (64 * (value / 4096) + value / 64 % 0x40) + value % 0x40 = value := by omega
    simp only [feed_cons, feed_nil, take]
    rw [Nat.mod_eq_of_lt short, advance_lead _ (by omega), ground_three short,
      advance_continuation, if_neg (by decide), advance_continuation, if_pos rfl, whole, back]
    rfl
  · have short : value / 262144 < 0x08 := by omega
    have whole : 64 * (64 * (64 * (value / 262144) + value / 4096 % 0x40) + value / 64 % 0x40)
        + value % 0x40 = value := by omega
    simp only [feed_cons, feed_nil, take]
    rw [Nat.mod_eq_of_lt short, advance_lead _ (by omega), ground_four short,
      advance_continuation, if_neg (by decide), advance_continuation, if_neg (by decide),
      advance_continuation, if_pos rfl, whole, back]
    rfl

end Consoles

end FerrumTty.TerminalRow
