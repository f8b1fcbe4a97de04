import FerrumTty.Library.Decimal
import FerrumTty.Terminal.Keys

/-!
# Mouse reports

`encode_mouse_with_mode` of `ferrumtty-terminal` in its three encodings, and the reading of a
stream of reports that the remote application does.
-/

namespace FerrumTty.Terminal

set_option autoImplicit false

open Crypto Predict

inductive MouseButton where
  | left
  | middle
  | right
  deriving DecidableEq, Repr

inductive MouseEventKind where
  | down (button : MouseButton)
  | up (button : MouseButton)
  | drag (button : MouseButton)
  | moved
  | scrollDown
  | scrollUp
  | scrollLeft
  | scrollRight
  deriving DecidableEq, Repr

structure MouseEvent where
  kind : MouseEventKind
  column : UInt16
  row : UInt16
  modifiers : KeyModifiers
  deriving DecidableEq, Repr

inductive MouseTrackingMode where
  | disabled
  | press
  | pressRelease
  | buttonMotion
  | anyMotion
  deriving DecidableEq, Repr

inductive MouseEncoding where
  | default
  | utf8
  | sgr
  deriving DecidableEq, Repr

def mouseButtonCode : MouseButton → Nat
  | .left => 0
  | .middle => 1
  | .right => 2

def mouseEventIsReportable (kind : MouseEventKind) : MouseTrackingMode → Bool
  | .disabled => false
  | .press =>
      match kind with
      | .down _ | .scrollUp | .scrollDown | .scrollLeft | .scrollRight => true
      | _ => false
  | .pressRelease =>
      match kind with
      | .drag _ | .moved => false
      | _ => true
  | .buttonMotion =>
      match kind with
      | .moved => false
      | _ => true
  | .anyMotion => true

/-- `char::from_u32`. -/
def charFromU32 (value : Nat) : Option Char :=
  if value.isValidChar then some (Char.ofNat value) else none

/-- `u8::try_from`. -/
def narrowByte (value : Nat) : Option UInt8 :=
  if value < 2 ^ 8 then some (UInt8.ofNat value) else none

def MOUSE_INTRODUCER : Bytes := [0x1b, 0x5b, 0x4d]
def SGR_INTRODUCER : Bytes := [0x1b, 0x5b, 0x3c]

def encodeUtf8Value (value : Nat) : Option Bytes :=
  (charFromU32 value).map String.utf8EncodeChar

def encodeLegacyMouse (event : MouseEvent) (code : Nat) (released utf8 : Bool) : Option Bytes := do
  let legacyCode := (if released then 3 else code) + 32
  let column := event.column.toNat + 33
  let row := event.row.toNat + 33
  if utf8 then
    let codeBytes ← encodeUtf8Value legacyCode
    let columnBytes ← encodeUtf8Value column
    let rowBytes ← encodeUtf8Value row
    some (MOUSE_INTRODUCER ++ (codeBytes ++ (columnBytes ++ rowBytes)))
  else
    let codeByte ← narrowByte legacyCode
    let columnByte ← narrowByte column
    let rowByte ← narrowByte row
    some (MOUSE_INTRODUCER ++ [codeByte, columnByte, rowByte])

/-- The code of the event without its modifiers, and whether it is a release. -/
def baseCode : MouseEventKind → Nat × Bool
  | .down button => (mouseButtonCode button, false)
  | .up button => (mouseButtonCode button, true)
  | .drag button => (mouseButtonCode button + 32, false)
  | .moved => (35, false)
  | .scrollUp => (64, false)
  | .scrollDown => (65, false)
  | .scrollLeft => (66, false)
  | .scrollRight => (67, false)

def modifierCode (modifiers : KeyModifiers) : Nat :=
  modifiers.shift.toNat * 4 + modifiers.alt.toNat * 8 + modifiers.control.toNat * 16

def encodeSgrMouse (event : MouseEvent) (code : Nat) (released : Bool) : Bytes :=
  SGR_INTRODUCER ++ (Decimal.written code ++ 0x3b :: (Decimal.written (event.column.toNat + 1) ++
    0x3b :: (Decimal.written (event.row.toNat + 1) ++ [if released then 0x6d else 0x4d])))

def encodeMouseWithMode (event : MouseEvent) (tracking : MouseTrackingMode)
    (encoding : MouseEncoding) : Option Bytes :=
  if mouseEventIsReportable event.kind tracking = false then none
  else
    let (base, released) := baseCode event.kind
    let code := base + modifierCode event.modifiers
    match encoding with
    | .sgr => some (encodeSgrMouse event code released)
    | .default => encodeLegacyMouse event code released false
    | .utf8 => encodeLegacyMouse event code released true

/-- What a report says about the mouse. The legacy encodings do not name the released button. -/
inductive ReportedKind where
  | pressed (button : Nat)
  | released (button : Option Nat)
  | moved (button : Option Nat)
  | scrolled (direction : Nat)
  deriving DecidableEq, Repr

structure MouseReport where
  kind : ReportedKind
  modifiers : KeyModifiers
  column : Nat
  row : Nat
  deriving DecidableEq, Repr

section Application

/-- The bits of a code: a button or a direction, the modifiers, motion and the wheel. -/
def kindOf (code : Nat) (released : Bool) : ReportedKind :=
  if code / 64 % 2 = 1 then .scrolled (code % 4)
  else if code / 32 % 2 = 1 then .moved (if code % 4 = 3 then none else some (code % 4))
  else if code % 4 = 3 then .released none
  else if released then .released (some (code % 4))
  else .pressed (code % 4)

def modifiersOf (code : Nat) : KeyModifiers where
  shift := code / 4 % 2 = 1
  control := code / 16 % 2 = 1
  alt := code / 8 % 2 = 1

/-- Reads one coordinate or code of a legacy report. -/
def readValue (utf8 : Bool) (bytes : Bytes) : Option (Nat × Bytes) :=
  if utf8 then
    (ByteArray.utf8DecodeChar? bytes.toByteArray 0).map fun character =>
      (character.toNat, bytes.drop (String.utf8EncodeChar character).length)
  else bytes.head?.map fun byte => (byte.toNat, bytes.tail)

def readLegacyReport (utf8 : Bool) (bytes : Bytes) : Option (MouseReport × Bytes) := do
  let (code, bytes) ← readValue utf8 bytes
  let (column, bytes) ← readValue utf8 bytes
  let (row, bytes) ← readValue utf8 bytes
  some ({ kind := kindOf (code - 32) false, modifiers := modifiersOf (code - 32),
          column := column - 33, row := row - 33 }, bytes)

/-- Skips one expected byte. -/
def expect (expected : UInt8) : Bytes → Option Bytes
  | byte :: rest => if byte = expected then some rest else none
  | [] => none

def readSgrReport (bytes : Bytes) : Option (MouseReport × Bytes) := do
  let (code, bytes) ← Decimal.readNumber bytes
  let bytes ← expect 0x3b bytes
  let (column, bytes) ← Decimal.readNumber bytes
  let bytes ← expect 0x3b bytes
  let (row, bytes) ← Decimal.readNumber bytes
  let terminator ← bytes.head?
  if terminator = 0x4d ∨ terminator = 0x6d then
    some ({ kind := kindOf code (terminator == 0x6d), modifiers := modifiersOf code,
            column := column - 1, row := row - 1 }, bytes.tail)
  else none

/-- Reads the report at the front of the bytes. -/
def readReport (encoding : MouseEncoding) (bytes : Bytes) : Option (MouseReport × Bytes) :=
  let body := bytes.drop 3
  match encoding with
  | .sgr => if bytes.take 3 = SGR_INTRODUCER then readSgrReport body else none
  | .default => if bytes.take 3 = MOUSE_INTRODUCER then readLegacyReport false body else none
  | .utf8 => if bytes.take 3 = MOUSE_INTRODUCER then readLegacyReport true body else none

/-- Reads as many reports as asked for. -/
def readReports (encoding : MouseEncoding) : Nat → Bytes → Option (List MouseReport × Bytes)
  | 0, bytes => some ([], bytes)
  | count + 1, bytes => do
      let (report, bytes) ← readReport encoding bytes
      let (reports, bytes) ← readReports encoding count bytes
      some (report :: reports, bytes)

end Application

def reportedKind (encoding : MouseEncoding) : MouseEventKind → ReportedKind
  | .down button => .pressed (mouseButtonCode button)
  | .up button => .released (if encoding = .sgr then some (mouseButtonCode button) else none)
  | .drag button => .moved (some (mouseButtonCode button))
  | .moved => .moved none
  | .scrollUp => .scrolled 0
  | .scrollDown => .scrolled 1
  | .scrollLeft => .scrolled 2
  | .scrollRight => .scrolled 3

/-- What the application learns about an event. A legacy release has neither the button nor the
modifiers. -/
def reported (encoding : MouseEncoding) (event : MouseEvent) : MouseReport where
  kind := reportedKind encoding event.kind
  modifiers := if encoding ≠ .sgr ∧ (baseCode event.kind).2 then .NONE else event.modifiers
  column := event.column.toNat
  row := event.row.toNat

/-- The coordinates that an encoding can write: a byte holds them up to 222, and a character all
but those that fall on surrogates. -/
def Writes (encoding : MouseEncoding) (coordinate : UInt16) : Prop :=
  match encoding with
  | .sgr => True
  | .default => coordinate.toNat ≤ 222
  | .utf8 => ¬ (0xd800 ≤ coordinate.toNat + 33 ∧ coordinate.toNat + 33 ≤ 0xdfff)

section Codes

theorem code_bound (kind : MouseEventKind) (modifiers : KeyModifiers) :
    (baseCode kind).1 + modifierCode modifiers ≤ 95 := by
  have base : (baseCode kind).1 ≤ 67 := by
    cases kind with
    | down button => cases button <;> decide
    | up button => cases button <;> decide
    | drag button => cases button <;> decide
    | _ => decide
  have flags : modifierCode modifiers ≤ 28 := by
    have shift := Bool.toNat_le modifiers.shift
    have alt := Bool.toNat_le modifiers.alt
    have control := Bool.toNat_le modifiers.control
    unfold modifierCode
    omega
  omega

theorem modifiers_of_code (kind : MouseEventKind) (modifiers : KeyModifiers) :
    modifiersOf ((baseCode kind).1 + modifierCode modifiers) = modifiers := by
  rcases modifiers with ⟨shift, control, alt⟩
  cases kind with
  | down button => cases button <;> cases shift <;> cases control <;> cases alt <;> rfl
  | up button => cases button <;> cases shift <;> cases control <;> cases alt <;> rfl
  | drag button => cases button <;> cases shift <;> cases control <;> cases alt <;> rfl
  | _ => cases shift <;> cases control <;> cases alt <;> rfl

theorem kind_of_code (kind : MouseEventKind) (modifiers : KeyModifiers) :
    kindOf ((baseCode kind).1 + modifierCode modifiers) (baseCode kind).2 =
      reportedKind .sgr kind := by
  rcases modifiers with ⟨shift, control, alt⟩
  cases kind with
  | down button => cases button <;> cases shift <;> cases control <;> cases alt <;> decide
  | up button => cases button <;> cases shift <;> cases control <;> cases alt <;> decide
  | drag button => cases button <;> cases shift <;> cases control <;> cases alt <;> decide
  | _ => cases shift <;> cases control <;> cases alt <;> decide

/-- The code of a legacy report says no more than that a button was released. -/
theorem legacy_code {encoding : MouseEncoding} (legacy : encoding ≠ .sgr) (event : MouseEvent)
    (code : Nat) (coded : code = if (baseCode event.kind).2 then 3
      else (baseCode event.kind).1 + modifierCode event.modifiers) :
    kindOf code false = (reported encoding event).kind ∧
      modifiersOf code = (reported encoding event).modifiers := by
  rcases event with ⟨kind, column, row, modifiers⟩
  have exact_kind := kind_of_code kind modifiers
  have exact_modifiers := modifiers_of_code kind modifiers
  cases kind with
  | up button =>
      have released : code = 3 := coded
      subst released
      simp only [reported, reportedKind, baseCode, if_neg legacy, if_pos (And.intro legacy trivial)]
      decide
  | _ =>
      simp only [baseCode, Bool.false_eq_true, if_false] at coded
      subst coded
      refine ⟨exact_kind, ?_⟩
      simp only [reported, baseCode, Bool.false_eq_true, and_false, if_false]
      exact exact_modifiers

end Codes

section Values

theorem char_of_valid {value : Nat} (valid : value.isValidChar) :
    charFromU32 value = some (Char.ofNat value) ∧ (Char.ofNat value).toNat = value := by
  refine ⟨if_pos valid, ?_⟩
  rw [Char.ofNat, dif_pos valid]
  rfl

/-- The bytes of one value of a legacy report. -/
def encodeValue (utf8 : Bool) (value : Nat) : Option Bytes :=
  if utf8 then encodeUtf8Value value else (narrowByte value).map fun byte => [byte]

theorem encode_legacy_mouse (event : MouseEvent) (code : Nat) (released utf8 : Bool) :
    encodeLegacyMouse event code released utf8 =
      (encodeValue utf8 ((if released then 3 else code) + 32)).bind fun codeBytes =>
        (encodeValue utf8 (event.column.toNat + 33)).bind fun columnBytes =>
          (encodeValue utf8 (event.row.toNat + 33)).map fun rowBytes =>
            MOUSE_INTRODUCER ++ (codeBytes ++ (columnBytes ++ rowBytes)) := by
  unfold encodeLegacyMouse encodeValue
  cases utf8 with
  | true =>
      simp only [if_true]
      cases encodeUtf8Value ((if released then 3 else code) + 32) <;>
        cases encodeUtf8Value (event.column.toNat + 33) <;>
        cases encodeUtf8Value (event.row.toNat + 33) <;> rfl
  | false =>
      simp only [Bool.false_eq_true, if_false]
      cases narrowByte ((if released then 3 else code) + 32) <;>
        cases narrowByte (event.column.toNat + 33) <;>
        cases narrowByte (event.row.toNat + 33) <;> rfl

theorem read_value {utf8 : Bool} {value : Nat} {bytes : Bytes}
    (encoded : encodeValue utf8 value = some bytes) (rest : Bytes) :
    readValue utf8 (bytes ++ rest) = some (value, rest) := by
  unfold encodeValue at encoded
  cases utf8 with
  | true =>
      simp only [if_true, encodeUtf8Value, charFromU32] at encoded
      split_ifs at encoded with valid
      · simp only [Option.map_some, Option.some.injEq] at encoded
        have number := (char_of_valid valid).2
        rw [readValue, if_pos rfl, ← encoded, List.toByteArray_append,
          ByteArray.utf8DecodeChar?_utf8EncodeChar_append, Option.map_some, List.drop_left, number]
      · cases encoded
  | false =>
      simp only [Bool.false_eq_true, if_false, narrowByte] at encoded
      split_ifs at encoded with small
      · simp only [Option.map_some, Option.some.injEq] at encoded
        have number : (UInt8.ofNat value).toNat = value := UInt8.toNat_ofNat_of_lt' small
        rw [readValue, if_neg Bool.false_ne_true, ← encoded, List.cons_append, List.head?_cons,
          Option.map_some, number]
        rfl
      · cases encoded

theorem value_written_iff (utf8 : Bool) (value : Nat) (bound : value < 0x110000) :
    (encodeValue utf8 value).isSome ↔
      if utf8 then ¬ (0xd800 ≤ value ∧ value ≤ 0xdfff) else value ≤ 255 := by
  cases utf8 with
  | true =>
      simp only [encodeValue, if_true, encodeUtf8Value, charFromU32, Option.isSome_map]
      split_ifs with valid
      · refine iff_of_true rfl ?_
        rcases valid with low | high
        · omega
        · omega
      · refine iff_of_false (by simp) ?_
        intro outside
        refine valid ?_
        by_cases low : value < 0xd800
        · exact Or.inl low
        · exact Or.inr ⟨by omega, bound⟩
  | false =>
      simp only [encodeValue, Bool.false_eq_true, if_false, narrowByte, Option.isSome_map]
      split_ifs with small
      · exact iff_of_true rfl (by omega)
      · exact iff_of_false (by simp) (by omega)

end Values

section Reports

variable {event : MouseEvent} {tracking : MouseTrackingMode} {encoding : MouseEncoding}

theorem expect_self (byte : UInt8) (rest : Bytes) : expect byte (byte :: rest) = some rest :=
  if_pos rfl

theorem read_sgr_report (event : MouseEvent) (rest : Bytes) :
    readReport .sgr (encodeSgrMouse event ((baseCode event.kind).1 + modifierCode event.modifiers)
        (baseCode event.kind).2 ++ rest) = some (reported .sgr event, rest) := by
  have kind := kind_of_code event.kind event.modifiers
  have modifiers := modifiers_of_code event.kind event.modifiers
  have unchanged : (reported .sgr event).modifiers = event.modifiers := by simp [reported]
  have stop (terminator : UInt8) (ends : terminator = 0x4d ∨ terminator = 0x6d) :
      Decimal.isDigit terminator = false := by
    rcases ends with press | release
    · rw [press]
      rfl
    · rw [release]
      rfl
  generalize (baseCode event.kind).1 + modifierCode event.modifiers = code at kind modifiers
  have terminated : (if (baseCode event.kind).2 then (0x6d : UInt8) else 0x4d) = 0x4d ∨
      (if (baseCode event.kind).2 then (0x6d : UInt8) else 0x4d) = 0x6d := by
    cases (baseCode event.kind).2
    · exact Or.inl rfl
    · exact Or.inr rfl
  have released : ((if (baseCode event.kind).2 then (0x6d : UInt8) else 0x4d) == 0x6d) =
      (baseCode event.kind).2 := by
    cases (baseCode event.kind).2 <;> rfl
  have body : readSgrReport (Decimal.written code ++ 0x3b :: (Decimal.written (event.column.toNat + 1) ++
      0x3b :: (Decimal.written (event.row.toNat + 1) ++
        (if (baseCode event.kind).2 then 0x6d else 0x4d) :: rest))) =
      some (reported .sgr event, rest) := by
    have first := @Decimal.read_written code 0x3b rfl
      (Decimal.written (event.column.toNat + 1) ++ 0x3b :: (Decimal.written (event.row.toNat + 1) ++
        (if (baseCode event.kind).2 then 0x6d else 0x4d) :: rest))
    have second := @Decimal.read_written (event.column.toNat + 1) 0x3b rfl
      (Decimal.written (event.row.toNat + 1) ++ (if (baseCode event.kind).2 then 0x6d else 0x4d) :: rest)
    have third := Decimal.read_written (event.row.toNat + 1) (stop _ terminated) rest
    simp only [readSgrReport, first, expect_self, second, third, Option.bind_eq_bind,
      Option.bind_some, List.head?_cons, if_pos terminated, released, List.tail_cons, kind,
      modifiers, Nat.add_sub_cancel]
    rw [← unchanged]
    rfl
  have split : encodeSgrMouse event code (baseCode event.kind).2 ++ rest = SGR_INTRODUCER ++
      (Decimal.written code ++ 0x3b :: (Decimal.written (event.column.toNat + 1) ++ 0x3b ::
        (Decimal.written (event.row.toNat + 1) ++
          (if (baseCode event.kind).2 then 0x6d else 0x4d) :: rest))) := by
    simp only [encodeSgrMouse, List.append_assoc, List.cons_append, List.nil_append]
  have introduced : (SGR_INTRODUCER ++
      (Decimal.written code ++ 0x3b :: (Decimal.written (event.column.toNat + 1) ++ 0x3b ::
        (Decimal.written (event.row.toNat + 1) ++
          (if (baseCode event.kind).2 then 0x6d else 0x4d) :: rest)))).take 3 = SGR_INTRODUCER := rfl
  rw [split, readReport, if_pos introduced]
  exact body

theorem read_legacy_report (legacy : encoding ≠ .sgr) (utf8 : Bool)
    {code : Nat} (coded : code = (baseCode event.kind).1 + modifierCode event.modifiers)
    {bytes : Bytes}
    (encoded : encodeLegacyMouse event code (baseCode event.kind).2 utf8 = some bytes)
    (rest : Bytes) :
    bytes.take 3 = MOUSE_INTRODUCER ∧
      readLegacyReport utf8 (bytes.drop 3 ++ rest) = some (reported encoding event, rest) ∧
      3 ≤ bytes.length := by
  rw [encode_legacy_mouse] at encoded
  obtain ⟨codeBytes, codeEncoded, encoded⟩ := Option.bind_eq_some_iff.mp encoded
  obtain ⟨columnBytes, columnEncoded, encoded⟩ := Option.bind_eq_some_iff.mp encoded
  obtain ⟨rowBytes, rowEncoded, rfl⟩ := Option.map_eq_some_iff.mp encoded
  refine ⟨rfl, ?_, Nat.le_add_left 3 _⟩
  have said := legacy_code legacy event (if (baseCode event.kind).2 then 3 else code)
    (by rw [coded])
  change readLegacyReport utf8 ((codeBytes ++ (columnBytes ++ rowBytes)) ++ rest) = _
  rw [List.append_assoc, List.append_assoc]
  simp only [readLegacyReport, read_value codeEncoded, read_value columnEncoded,
    read_value rowEncoded, Option.bind_eq_bind, Option.bind_some, Nat.add_sub_cancel]
  rw [said.1, said.2]
  rfl

theorem read_report {bytes : Bytes}
    (encoded : encodeMouseWithMode event tracking encoding = some bytes) (rest : Bytes) :
    readReport encoding (bytes ++ rest) = some (reported encoding event, rest) := by
  unfold encodeMouseWithMode at encoded
  split_ifs at encoded with quiet
  dsimp only at encoded
  have legacy {utf8 : Bool} (other : encoding ≠ .sgr)
      (encoded : encodeLegacyMouse event ((baseCode event.kind).1 + modifierCode event.modifiers)
        (baseCode event.kind).2 utf8 = some bytes) :
      (bytes ++ rest).take 3 = MOUSE_INTRODUCER ∧
        readLegacyReport utf8 ((bytes ++ rest).drop 3) = some (reported encoding event, rest) := by
    obtain ⟨introduced, read, long⟩ := read_legacy_report other utf8 rfl encoded rest
    rw [List.take_append_of_le_length long, List.drop_append_of_le_length long]
    exact ⟨introduced, read⟩
  cases encoding with
  | sgr =>
      rw [← Option.some.inj encoded]
      exact read_sgr_report event rest
  | default =>
      obtain ⟨introduced, read⟩ := legacy (by decide) encoded
      exact (if_pos introduced).trans read
  | utf8 =>
      obtain ⟨introduced, read⟩ := legacy (by decide) encoded
      exact (if_pos introduced).trans read

theorem mouse_encoded_iff (event : MouseEvent) (tracking : MouseTrackingMode)
    (encoding : MouseEncoding) :
    (encodeMouseWithMode event tracking encoding).isSome ↔
      mouseEventIsReportable event.kind tracking = true ∧
        Writes encoding event.column ∧ Writes encoding event.row := by
  unfold encodeMouseWithMode
  split_ifs with quiet
  · exact iff_of_false (by simp) (by simp [quiet])
  · have reportable : mouseEventIsReportable event.kind tracking = true := by
      simpa using quiet
    dsimp only
    have bound := code_bound event.kind event.modifiers
    generalize (baseCode event.kind).1 + modifierCode event.modifiers = code at bound
    have small : (if (baseCode event.kind).2 then 3 else code) + 32 ≤ 127 := by
      split_ifs <;> omega
    have columnBound : event.column.toNat < 65536 := event.column.toNat_lt
    have rowBound : event.row.toNat < 65536 := event.row.toNat_lt
    have parts (utf8 : Bool) :
        (encodeLegacyMouse event code (baseCode event.kind).2 utf8).isSome ↔
          (encodeValue utf8 (event.column.toNat + 33)).isSome ∧
            (encodeValue utf8 (event.row.toNat + 33)).isSome := by
      have first : (encodeValue utf8
          ((if (baseCode event.kind).2 then 3 else code) + 32)).isSome := by
        rw [value_written_iff _ _ (by omega)]
        cases utf8
        · simp only [Bool.false_eq_true, if_false]
          omega
        · simp only [if_true]
          omega
      obtain ⟨codeBytes, codeEncoded⟩ := Option.isSome_iff_exists.mp first
      rw [encode_legacy_mouse, codeEncoded]
      cases encodeValue utf8 (event.column.toNat + 33) <;>
        cases encodeValue utf8 (event.row.toNat + 33) <;> simp
    simp only [reportable, true_and]
    cases encoding with
    | sgr => exact iff_of_true rfl ⟨trivial, trivial⟩
    | default =>
        refine (parts false).trans ?_
        rw [value_written_iff _ _ (by omega), value_written_iff _ _ (by omega)]
        simp only [Bool.false_eq_true, if_false, Writes]
        omega
    | utf8 =>
        refine (parts true).trans ?_
        rw [value_written_iff _ _ (by omega), value_written_iff _ _ (by omega)]
        simp only [if_true, Writes]

end Reports

def encodeMouseEvents (tracking : MouseTrackingMode) (encoding : MouseEncoding)
    (events : List MouseEvent) : Bytes :=
  events.flatMap fun event => (encodeMouseWithMode event tracking encoding).getD []

def encodedEvents (tracking : MouseTrackingMode) (encoding : MouseEncoding)
    (events : List MouseEvent) : List MouseEvent :=
  events.filter fun event => (encodeMouseWithMode event tracking encoding).isSome

/-- A stream of mouse reports reads back as the reports of exactly those events that the tracking
mode asks for and the encoding can write. -/
theorem mouse_reports_read_back (tracking : MouseTrackingMode) (encoding : MouseEncoding)
    (events : List MouseEvent) (rest : Bytes) :
    (∀ event, event ∈ encodedEvents tracking encoding events ↔ event ∈ events ∧
        mouseEventIsReportable event.kind tracking = true ∧
        Writes encoding event.column ∧ Writes encoding event.row) ∧
      readReports encoding (encodedEvents tracking encoding events).length
          (encodeMouseEvents tracking encoding events ++ rest) =
        some ((encodedEvents tracking encoding events).map (reported encoding), rest) := by
  constructor
  · intro event
    rw [encodedEvents, List.mem_filter, mouse_encoded_iff]
  · induction events with
    | nil => rfl
    | cons event others induction =>
        rw [encodedEvents, encodeMouseEvents, List.filter_cons, List.flatMap_cons]
        cases encoded : encodeMouseWithMode event tracking encoding with
        | none =>
            simp only [Option.isSome_none, Bool.false_eq_true, if_false, Option.getD_none,
              List.nil_append]
            exact induction
        | some bytes =>
            simp only [Option.isSome_some, if_true, Option.getD_some, List.length_cons,
              List.map_cons, List.append_assoc]
            change readReports encoding ((encodedEvents tracking encoding others).length + 1)
              (bytes ++ (encodeMouseEvents tracking encoding others ++ rest)) = _
            simp only [readReports, read_report encoded, Option.bind_eq_bind, Option.bind_some,
              induction]
            rfl

/-- A drag with Shift beyond the last column that a byte can write. -/
def wideDrag : MouseEvent where
  kind := .drag .left
  column := 223
  row := 4
  modifiers := { shift := true, control := false, alt := false }

example : encodeMouseWithMode wideDrag .buttonMotion .default = none ∧
    encodeMouseWithMode wideDrag .buttonMotion .sgr =
      some [0x1b, 0x5b, 0x3c, 0x33, 0x36, 0x3b, 0x32, 0x32, 0x34, 0x3b, 0x35, 0x4d] := by
  decide

end FerrumTty.Terminal
