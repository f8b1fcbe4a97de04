import FerrumTty.Terminal.TitleStorage
import Mathlib.Data.List.Infix

/-!
# A terminal that reads titles

The reader behind the filter. ESC ends whatever it is reading and begins a new sequence, and
behind an ESC it passes over controls and bytes outside of ASCII. So bytes in which no `]`
follows an ESC, directly or behind such bytes, open nothing. A reader for which every title
that can still complete has the marker stays so over them.
-/

namespace FerrumTty.Terminal

set_option autoImplicit false

open Crypto Runs

/-- A control that is no part of the OSC in which it stands: C0, but for those that end it. -/
def skippedInOsc (byte : UInt8) : Bool :=
  byte < 0x20 && !(completesOsc byte || cancelsOsc byte || byte = 0x1b)

/-- A byte at which a terminal stays behind an ESC: the same controls, BEL, DEL and what is
not ASCII. -/
def skippedInEscape (byte : UInt8) : Bool := skippedInOsc byte || byte = 0x07 || 0x7f ≤ byte

inductive ReaderState where
  | other
  | escape
  | osc (payload : Bytes)
  deriving DecidableEq, Repr

def afterEscape (byte : UInt8) : ReaderState :=
  if byte = 0x1b || skippedInEscape byte then .escape
  else if byte = 0x5d then .osc []
  else .other

def readOscByte (payload : Bytes) (byte : UInt8) : Option Bytes × ReaderState :=
  if byte = 0x07 || cancelsOsc byte then (some payload, .other)
  else if byte = 0x1b then (some payload, .escape)
  else if skippedInOsc byte then (none, .osc payload)
  else (none, .osc (payload ++ [byte]))

/-- One byte, with the payload of an OSC that it completes. BEL, CAN, SUB and ESC complete
one: of the terminator in its 7-bit form the ESC already does. -/
def readByte : ReaderState → UInt8 → Option Bytes × ReaderState
  | .other, byte => (none, if byte = 0x1b then .escape else .other)
  | .escape, byte => (none, afterEscape byte)
  | .osc payload, byte => readOscByte payload byte

theorem read_byte_osc (payload : Bytes) (byte : UInt8) :
    readByte (.osc payload) byte = readOscByte payload byte := rfl

/-- The payloads completed over some bytes. -/
def completedOver (reader : ReaderState) (bytes : Bytes) : List Bytes :=
  (outputs readByte reader bytes).filterMap id

/-- The text of a window title, whose command is empty, `0` or `2`. -/
def windowTitle : Bytes → Option Bytes
  | 0x3b :: text => some text
  | 0x30 :: 0x3b :: text => some text
  | 0x32 :: 0x3b :: text => some text
  | _ => none

/-- A payload that is no window title, or one with the marker. -/
def Prefixed (payload : Bytes) : Prop :=
  ∀ text, windowTitle payload = some text → MOSH_TITLE_PREFIX <+: text

/-- A byte that completes a payload completes one that is `Prefixed`. -/
def Reports (completed : Option Bytes) : Prop :=
  ∀ payload, completed = some payload → Prefixed payload

theorem reports_none : Reports none := by
  intro payload same
  cases same

theorem reports_some {payload : Bytes} (marked : Prefixed payload) : Reports (some payload) := by
  intro completed same
  rw [← Option.some.inj same]
  exact marked

/-- No title without the marker can complete before the next introducer. -/
def ReaderState.Closed : ReaderState → Prop
  | .osc payload => ∀ more, Prefixed (payload ++ more)
  | _ => True

def ReaderState.escaped : ReaderState → Bool
  | .escape => true
  | _ => false

/-- Whether an ESC is open behind a byte. -/
def escapeOpen (escaped : Bool) (byte : UInt8) : Bool :=
  byte = 0x1b || escaped && skippedInEscape byte

/-- No `]` comes behind an open ESC. -/
def Calm : Bool → Bytes → Prop
  | _, [] => True
  | escaped, byte :: rest => (escaped = true → byte ≠ 0x5d) ∧ Calm (escapeOpen escaped byte) rest

def endsEscaped : Bool → Bytes → Bool
  | escaped, [] => escaped
  | escaped, byte :: rest => endsEscaped (escapeOpen escaped byte) rest

theorem calm_append (escaped : Bool) (first second : Bytes) :
    Calm escaped (first ++ second) ↔
      Calm escaped first ∧ Calm (endsEscaped escaped first) second := by
  induction first generalizing escaped with
  | nil => exact ⟨fun calm => ⟨trivial, calm⟩, fun both => both.2⟩
  | cons byte rest induction =>
      rw [List.cons_append, Calm, Calm, endsEscaped, induction, and_assoc]

theorem ends_escaped_concat (escaped : Bool) (bytes : Bytes) (byte : UInt8) :
    endsEscaped escaped (bytes ++ [byte]) = escapeOpen (endsEscaped escaped bytes) byte := by
  induction bytes generalizing escaped with
  | nil => rfl
  | cons first rest induction => exact induction (escapeOpen escaped first)

theorem ends_escaped_escape (escaped : Bool) (bytes : Bytes) :
    endsEscaped escaped (bytes ++ [0x1b]) = true := by
  rw [ends_escaped_concat]
  rfl

theorem calm_concat {escaped : Bool} {bytes : Bytes} {byte : UInt8} (calm : Calm escaped bytes)
    (apart : endsEscaped escaped bytes = true → byte ≠ 0x5d) : Calm escaped (bytes ++ [byte]) :=
  (calm_append escaped bytes [byte]).mpr ⟨calm, apart, trivial⟩

theorem escape_open_plain {byte : UInt8} (plain : byte ≠ 0x1b) : escapeOpen false byte = false := by
  rw [escapeOpen, decide_eq_false plain]
  rfl

/-- The bytes alone tell whether an ESC is open, as long as none of them opens an OSC. -/
theorem read_byte_escaped {reader : ReaderState} {byte : UInt8}
    (apart : reader.escaped = true → byte ≠ 0x5d) :
    (readByte reader byte).2.escaped = escapeOpen reader.escaped byte := by
  cases reader with
  | other =>
      change (if byte = 0x1b then ReaderState.escape else .other).escaped = escapeOpen false byte
      split_ifs with escape
      · rw [escape]
        rfl
      · exact (escape_open_plain escape).symm
  | escape =>
      change (afterEscape byte).escaped = escapeOpen true byte
      unfold afterEscape
      split_ifs with stays opens
      · exact stays.symm
      · exact absurd opens (apart rfl)
      · exact (Bool.eq_false_of_not_eq_true stays).symm
  | osc payload =>
      change (readOscByte payload byte).2.escaped = escapeOpen false byte
      unfold readOscByte
      split_ifs with ends escape skipped
      · have plain : byte ≠ 0x1b := by
          intro same
          rw [same] at ends
          exact absurd ends (by decide)
        exact (escape_open_plain plain).symm
      · rw [escape]
        rfl
      · exact (escape_open_plain escape).symm
      · exact (escape_open_plain escape).symm

theorem read_byte_closed {reader : ReaderState} {byte : UInt8} (closed : reader.Closed)
    (apart : reader.escaped = true → byte ≠ 0x5d) :
    Reports (readByte reader byte).1 ∧ (readByte reader byte).2.Closed := by
  cases reader with
  | other =>
      refine ⟨reports_none, ?_⟩
      change (if byte = 0x1b then ReaderState.escape else .other).Closed
      split_ifs <;> trivial
  | escape =>
      refine ⟨reports_none, ?_⟩
      change (afterEscape byte).Closed
      unfold afterEscape
      split_ifs with stays opens
      · trivial
      · exact absurd opens (apart rfl)
      · trivial
  | osc payload =>
      have whole := closed []
      rw [List.append_nil] at whole
      rw [read_byte_osc]
      unfold readOscByte
      split_ifs with ends escape skipped
      · exact ⟨reports_some whole, trivial⟩
      · exact ⟨reports_some whole, trivial⟩
      · exact ⟨reports_none, closed⟩
      · refine ⟨reports_none, ?_⟩
        intro more
        rw [List.append_assoc]
        exact closed ([byte] ++ more)

theorem completed_over_cons (reader : ReaderState) (byte : UInt8) (rest : Bytes) :
    completedOver reader (byte :: rest) =
      (readByte reader byte).1.toList ++ completedOver (readByte reader byte).2 rest := by
  rw [completedOver, outputs_cons]
  cases (readByte reader byte).1 <;> rfl

theorem completed_over_append (reader : ReaderState) (first second : Bytes) :
    completedOver reader (first ++ second) =
      completedOver reader first ++ completedOver (final readByte reader first) second := by
  rw [completedOver, outputs_append, List.filterMap_append]
  rfl

theorem read_escaped {reader : ReaderState} {bytes : Bytes} (calm : Calm reader.escaped bytes) :
    (final readByte reader bytes).escaped = endsEscaped reader.escaped bytes := by
  induction bytes generalizing reader with
  | nil => rfl
  | cons byte rest induction =>
      have step := read_byte_escaped calm.1
      have later := calm.2
      rw [← step] at later
      rw [final_cons, induction later, step]
      rfl

/-- Over calm bytes a closed reader completes no title without the marker. -/
theorem read_calm {reader : ReaderState} {bytes : Bytes} (closed : reader.Closed)
    (calm : Calm reader.escaped bytes) :
    (∀ payload ∈ completedOver reader bytes, Prefixed payload) ∧
      (final readByte reader bytes).Closed := by
  induction bytes generalizing reader with
  | nil => exact ⟨fun payload member => absurd member List.not_mem_nil, closed⟩
  | cons byte rest induction =>
      obtain ⟨reports, next⟩ := read_byte_closed closed calm.1
      have later := calm.2
      rw [← read_byte_escaped calm.1] at later
      obtain ⟨others, last⟩ := induction next later
      rw [completed_over_cons, final_cons]
      refine ⟨?_, last⟩
      intro payload member
      rcases List.mem_append.mp member with here | after
      · exact reports payload (Option.mem_toList.mp here)
      · exact others payload after

theorem read_bell {reader : ReaderState} (unescaped : reader.escaped = false) :
    (readByte reader 0x07).2 = .other := by
  cases reader with
  | other => rfl
  | escape => cases unescaped
  | osc payload => rfl

theorem read_introducer (reader : ReaderState) :
    final readByte reader [0x1b, 0x5d] = .osc [] := by
  cases reader <;> rfl

/-- An introducer completes nothing but an OSC that it interrupts. -/
theorem introducer_completes {reader : ReaderState} (closed : reader.Closed) :
    ∀ payload ∈ completedOver reader [0x1b, 0x5d], Prefixed payload := by
  intro payload member
  cases reader with
  | other => exact absurd member List.not_mem_nil
  | escape => exact absurd member List.not_mem_nil
  | osc interrupted =>
      change payload ∈ [interrupted] at member
      have whole := closed []
      rw [List.append_nil] at whole
      rw [List.mem_singleton.mp member]
      exact whole

/-- A title is its command, a separator and its text. -/
theorem window_title_command {payload text : Bytes} (title : windowTitle payload = some text) :
    ∃ command ∈ ([[], [0x30], [0x32]] : List Bytes), payload = command ++ 0x3b :: text := by
  unfold windowTitle at title
  split at title
  · cases title
    exact ⟨[], by decide, rfl⟩
  · cases title
    exact ⟨[0x30], by decide, rfl⟩
  · cases title
    exact ⟨[0x32], by decide, rfl⟩
  · cases title

/-- A payload without a separator is no title yet. -/
theorem unseparated_prefixed {payload : Bytes} (unseparated : 0x3b ∉ payload) : Prefixed payload := by
  intro text title
  obtain ⟨command, _, split⟩ := window_title_command title
  rw [split] at unseparated
  exact absurd (List.mem_append_right command List.mem_cons_self) unseparated

/-- A payload that begins with another command is no title, whatever follows. -/
theorem settled_closed {payload : Bytes} (unseparated : 0x3b ∉ payload)
    (other : payload ∉ ([[], [0x30], [0x32]] : List Bytes)) (more : Bytes) :
    Prefixed (payload ++ more) := by
  intro text title
  obtain ⟨command, known, split⟩ := window_title_command title
  have front : ∀ command ∈ ([[], [0x30], [0x32]] : List Bytes), ∀ start ∈ command.inits,
      start ∈ ([[], [0x30], [0x32]] : List Bytes) := by decide
  rcases List.append_eq_append_iff.mp split with ⟨rest, longer, _⟩ | ⟨rest, shorter, separated⟩
  · have start : payload <+: command := ⟨rest, longer.symm⟩
    exact absurd (front command known payload ((List.mem_inits _ _).mpr start)) other
  · cases rest with
    | nil =>
        rw [List.append_nil] at shorter
        exact absurd (shorter ▸ known) other
    | cons byte rest =>
        rw [shorter, ← (List.cons.inj separated).1] at unseparated
        exact absurd (List.mem_append_right command List.mem_cons_self) unseparated

/-- Bytes of a command: no separator and nothing that ends an OSC. -/
def CommandBytes (bytes : Bytes) : Prop :=
  ∀ byte ∈ bytes, byte ≠ 0x3b ∧ byte ≠ 0x07 ∧ cancelsOsc byte = false

/-- A fresh OSC that reads a calm command is still reading it, or an ESC has closed it. -/
theorem read_command {payload body : Bytes} (unseparated : 0x3b ∉ payload)
    (command : CommandBytes body) (kept : ∀ byte ∈ body, skippedInOsc byte = false)
    (calm : Calm false body) :
    (∀ completed ∈ completedOver (.osc payload) body, Prefixed completed) ∧
      ((final readByte (.osc payload) body = .osc (payload ++ body) ∧
          endsEscaped false body = false) ∨
        (final readByte (.osc payload) body).Closed ∧
          (final readByte (.osc payload) body).escaped = endsEscaped false body) := by
  induction body generalizing payload with
  | nil =>
      refine ⟨fun completed member => absurd member List.not_mem_nil, Or.inl ⟨?_, rfl⟩⟩
      rw [List.append_nil]
      rfl
  | cons byte rest induction =>
      obtain ⟨notSeparator, notBell, notCancel⟩ := command byte List.mem_cons_self
      have laterCommand : CommandBytes rest := fun other member =>
        command other (List.mem_cons_of_mem _ member)
      have laterKept : ∀ byte ∈ rest, skippedInOsc byte = false := fun other member =>
        kept other (List.mem_cons_of_mem _ member)
      have goesOn : ¬(decide (byte = 0x07) || cancelsOsc byte) = true := by
        rw [decide_eq_false notBell, notCancel]
        exact Bool.false_ne_true
      have later := calm.2
      rw [completed_over_cons, final_cons, endsEscaped]
      by_cases escape : byte = 0x1b
      · have step : readByte (.osc payload) byte = (some payload, .escape) := by
          rw [read_byte_osc, readOscByte, if_neg goesOn, if_pos escape]
        have opened : escapeOpen false byte = true := by
          rw [escape]
          rfl
        rw [opened] at later
        obtain ⟨reports, closed⟩ := @read_calm .escape rest trivial later
        rw [step, opened]
        refine ⟨?_, Or.inr ⟨closed, @read_escaped .escape rest later⟩⟩
        intro completed member
        rcases List.mem_cons.mp member with here | after
        · rw [here]
          exact unseparated_prefixed unseparated
        · exact reports completed after
      · have step : readByte (.osc payload) byte = (none, .osc (payload ++ [byte])) := by
          rw [read_byte_osc, readOscByte, if_neg goesOn, if_neg escape,
            kept byte List.mem_cons_self, if_neg Bool.false_ne_true]
        have open_ : escapeOpen false byte = false := by
          rw [escapeOpen, decide_eq_false escape]
          rfl
        rw [open_] at later
        have grown : 0x3b ∉ payload ++ [byte] := by
          intro member
          rcases List.mem_append.mp member with earlier | here
          · exact unseparated earlier
          · exact notSeparator (List.mem_singleton.mp here).symm
        obtain ⟨reports, reading⟩ := induction grown laterCommand laterKept later
        rw [step, open_]
        rw [List.append_assoc] at reading
        exact ⟨reports, reading⟩

/-- Text of a title that the terminal takes up to the BEL behind it. -/
structure Whole (text : Bytes) : Prop where
  calm : Calm false text
  settled : endsEscaped false text = false

/-- An OSC with a whole text ends in BEL. -/
theorem read_opened_end (reader : ReaderState) {opening text : Bytes}
    (opened : final readByte (.osc []) opening = .osc opening) (whole : Whole text) :
    final readByte reader ([0x1b, 0x5d] ++ opening ++ (text ++ [0x07])) = .other := by
  have unescaped := @read_escaped (.osc opening) text whole.calm
  rw [final_append, final_append readByte reader, read_introducer, opened, final_concat]
  exact read_bell (unescaped.trans whole.settled)

/-- An OSC that opens with bytes that settle it completes with the marker, or is no title. -/
theorem read_opened {reader : ReaderState} (closed : reader.Closed) {opening text : Bytes}
    (unread : completedOver (.osc []) opening = [])
    (opened : final readByte (.osc []) opening = .osc opening)
    (settled : ∀ more, Prefixed (opening ++ more)) (whole : Whole text) :
    ∀ payload ∈ completedOver reader ([0x1b, 0x5d] ++ opening ++ (text ++ [0x07])),
      Prefixed payload := by
  have ended : Calm false (text ++ [0x07]) := calm_concat whole.calm fun _ => by decide
  obtain ⟨reports, _⟩ := @read_calm (.osc opening) (text ++ [0x07]) settled ended
  rw [completed_over_append, completed_over_append, final_append, read_introducer, unread, opened,
    List.append_nil]
  intro payload member
  rcases List.mem_append.mp member with before | inside
  · exact introducer_completes closed payload before
  · exact reports payload inside

theorem marked_whole {window : Bytes} (whole : Whole window) : Whole (MOSH_TITLE_PREFIX ++ window) where
  calm := (calm_append false MOSH_TITLE_PREFIX window).mpr
    ⟨by simp only [MOSH_TITLE_PREFIX, Calm]; decide, whole.calm⟩
  settled := whole.settled

theorem encoded_apart (icon window : Bytes) :
    [0x1b, 0x5d, 0x31, 0x3b] ++ icon ++ [0x07, 0x1b, 0x5d, 0x32, 0x3b] ++ window ++ [0x07] =
      [0x1b, 0x5d] ++ [0x31, 0x3b] ++ (icon ++ [0x07]) ++
        ([0x1b, 0x5d] ++ [0x32, 0x3b] ++ (window ++ [0x07])) := by
  simp only [List.append_assoc, List.cons_append, List.nil_append]

theorem read_titles {reader : ReaderState} (closed : reader.Closed) {icon window : Bytes}
    (wholeIcon : Whole icon) (wholeWindow : Whole window) :
    ∀ payload ∈ completedOver reader (encodeTitles icon (MOSH_TITLE_PREFIX ++ window)),
      Prefixed payload := by
  have marked (command : UInt8) (more : Bytes) (title : windowTitle (command :: 0x3b ::
      (MOSH_TITLE_PREFIX ++ more)) = some (MOSH_TITLE_PREFIX ++ more)) :
      Prefixed (command :: 0x3b :: (MOSH_TITLE_PREFIX ++ more)) := by
    intro text same
    rw [title] at same
    rw [← Option.some.inj same]
    exact List.prefix_append _ _
  rw [encodeTitles]
  split_ifs with same
  · exact read_opened closed (rfl : completedOver (.osc []) ([0x30, 0x3b] ++ MOSH_TITLE_PREFIX) = [])
      rfl (fun more => marked 0x30 more rfl) wholeWindow
  · have iconReports := @read_opened reader closed [0x31, 0x3b] icon rfl rfl
      (fun more => by intro text title; cases title) wholeIcon
    have windowReports := @read_opened .other trivial ([0x32, 0x3b] ++ MOSH_TITLE_PREFIX) window rfl
      rfl (fun more => marked 0x32 more rfl) wholeWindow
    rw [encoded_apart, completed_over_append,
      read_opened_end reader (rfl : final readByte _ [0x31, 0x3b] = _) wholeIcon]
    intro payload member
    rcases List.mem_append.mp member with first | second
    · exact iconReports payload first
    · exact windowReports payload second

theorem read_titles_end (reader : ReaderState) {icon window : Bytes} (wholeWindow : Whole window) :
    final readByte reader (encodeTitles icon window) = .other := by
  rw [encodeTitles]
  split_ifs
  · exact read_opened_end reader (rfl : final readByte _ [0x30, 0x3b] = _) wholeWindow
  · rw [encoded_apart, final_append]
    exact read_opened_end _ (rfl : final readByte _ [0x32, 0x3b] = _) wholeWindow

end FerrumTty.Terminal
