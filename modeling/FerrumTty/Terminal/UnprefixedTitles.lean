import FerrumTty.Terminal.TitleReader

/-!
# Titles without the marker

The terminal behind the filter stays behind an ESC over bytes that the filter takes for the
end of the sequence, and passes over controls that the filter takes for a part of an OSC's
command. The filter follows it as long as it begins no control and ends no title while such
an ESC is open.
-/

namespace FerrumTty.Terminal

set_option autoImplicit false

open Crypto Runs TitleFilterState

/-- The ESC at the end of the input: open with no byte behind it, or over bytes at which a
terminal stays behind it. -/
inductive EscapeRun where
  | settled
  | direct
  | loose
  deriving DecidableEq, Repr

def EscapeRun.next (run : EscapeRun) (byte : UInt8) : EscapeRun :=
  if run = .settled then
    if byte = 0x1b then .direct else .settled
  else if byte = 0x1b || skippedInEscape byte then .loose
  else .settled

def EscapeRun.behind (run : EscapeRun) (bytes : Bytes) : EscapeRun := bytes.foldl next run

theorem EscapeRun.next_open {run : EscapeRun} {escaped : Bool} {byte : UInt8}
    (running : escaped = true → run ≠ .settled) (open_ : escapeOpen escaped byte = true) :
    run.next byte ≠ .settled := by
  unfold next
  rcases Bool.or_eq_true_iff.mp open_ with escape | both
  · rw [if_pos (of_decide_eq_true escape), escape, Bool.true_or, if_pos rfl]
    split_ifs <;> decide
  · obtain ⟨before, skipped⟩ := Bool.and_eq_true_iff.mp both
    rw [if_neg (running before), skipped, Bool.or_true, if_pos rfl]
    decide

theorem EscapeRun.next_escape {run : EscapeRun} (running : run ≠ .settled) :
    run.next 0x1b = .loose := by
  rw [next, if_neg running]
  rfl

/-- While an ESC is open the filter begins no control and completes no title, but for the `]`
directly behind an ESC in `Escape` and the terminator of a title. In an OSC it counts no
control that the terminal passes over. -/
def TakesByte (run : EscapeRun) : TitleFilterState → UInt8 → Prop
  | .ground, byte => run ≠ .settled → byte ≠ 0x5d ∧ byte ≠ 0x9d
  | .escape, byte => run = .loose → byte ≠ 0x5d
  | .oscHeader bytes _, byte =>
      (run ≠ .settled → byte ≠ 0x5d) ∧ (bytes.head? = some 0x1b → skippedInOsc byte = false)
  | .title _ _ escapePending, byte =>
      (run ≠ .settled → byte ≠ 0x5d ∧ completesOsc byte = false) ∧
        (run = .loose → escapePending = true → byte ≠ 0x5c)
  | .passthroughOsc _, byte => run ≠ .settled → byte ≠ 0x5d
  | .discardTitle _, _ => True

instance (run : EscapeRun) : ∀ state byte, Decidable (TakesByte run state byte)
  | .ground, byte => inferInstanceAs (Decidable (run ≠ .settled → byte ≠ 0x5d ∧ byte ≠ 0x9d))
  | .escape, byte => inferInstanceAs (Decidable (run = .loose → byte ≠ 0x5d))
  | .oscHeader bytes _, byte => inferInstanceAs (Decidable ((run ≠ .settled → byte ≠ 0x5d) ∧
      (bytes.head? = some 0x1b → skippedInOsc byte = false)))
  | .title _ _ escapePending, byte => inferInstanceAs (Decidable
      ((run ≠ .settled → byte ≠ 0x5d ∧ completesOsc byte = false) ∧
        (run = .loose → escapePending = true → byte ≠ 0x5c)))
  | .passthroughOsc _, byte => inferInstanceAs (Decidable (run ≠ .settled → byte ≠ 0x5d))
  | .discardTitle _, _ => .isTrue trivial

/-- A buffer that an ESC opened holds no control that the terminal passes over. -/
def Counted (bytes body : Bytes) : Prop :=
  bytes.head? = some 0x1b → ∀ byte ∈ body, skippedInOsc byte = false

/-- What is held back begins an OSC, or is title text, in which no OSC begins. -/
def StateCalm (run : EscapeRun) (state : TitleFilterState) : Prop :=
  match state with
  | .escape => run ≠ .settled
  | .oscHeader _ escapePending => ∃ body, HeaderForm state.held body ∧ CommandBytes body ∧
      Counted state.held body ∧ Calm false body ∧
        (endsEscaped false body = true → run ≠ .settled) ∧
          (escapePending = true → endsEscaped false body = true)
  | .title _ bytes escapePending => Calm false bytes ∧
      (endsEscaped false bytes = true → run ≠ .settled ∧ (escapePending = true → run = .loose)) ∧
        (escapePending = true → run ≠ .settled)
  | _ => True

/-- Where an ESC may be open in what was passed on. -/
def PassedOpen (run : EscapeRun) : TitleFilterState → Prop
  | .ground => run ≠ .settled
  | .escape => run = .loose
  | .passthroughOsc _ => run ≠ .settled
  | _ => False

/-- A reader that took some output: no title without the marker, and an ESC left open only
where `open_` says so. -/
structure Settles (reader : ReaderState) (output : Bytes) (open_ : Prop) : Prop where
  reports : ∀ payload ∈ completedOver reader output, Prefixed payload
  closed : (final readByte reader output).Closed
  escaped : (final readByte reader output).escaped = true → open_

theorem settles_nothing {reader : ReaderState} {open_ : Prop} (closed : reader.Closed)
    (escaped : reader.escaped = true → open_) : Settles reader [] open_ :=
  ⟨fun _ member => absurd member List.not_mem_nil, closed, escaped⟩

theorem settles_calm {reader : ReaderState} {output : Bytes} {open_ : Prop} (closed : reader.Closed)
    (calm : Calm reader.escaped output) (escaped : endsEscaped reader.escaped output = true → open_) :
    Settles reader output open_ := by
  obtain ⟨reports, last⟩ := read_calm closed calm
  refine ⟨reports, last, ?_⟩
  rw [read_escaped calm]
  exact escaped

theorem settles_byte {reader : ReaderState} {byte : UInt8} {open_ : Prop}
    (reports : Reports (readByte reader byte).1) (closed : (readByte reader byte).2.Closed)
    (escaped : (readByte reader byte).2.escaped = true → open_) : Settles reader [byte] open_ := by
  refine ⟨?_, closed, escaped⟩
  intro payload member
  rw [completed_over_cons] at member
  rcases List.mem_append.mp member with here | nothing
  · exact reports payload (Option.mem_toList.mp here)
  · exact absurd nothing List.not_mem_nil

theorem Counted.concat {bytes body : Bytes} {byte : UInt8} (counted : Counted bytes body)
    (nonempty : bytes ≠ []) (kept : bytes.head? = some 0x1b → skippedInOsc byte = false) :
    Counted (bytes ++ [byte]) (body ++ [byte]) := by
  intro opened other member
  rw [List.head?_append_of_ne_nil _ nonempty] at opened
  rcases List.mem_append.mp member with earlier | here
  · exact counted opened other earlier
  · rw [List.mem_singleton.mp here]
    exact kept opened

theorem HeaderForm.nonempty {bytes body : Bytes} (form : HeaderForm bytes body) : bytes ≠ [] := by
  rcases form.introduced with rfl | rfl
  · exact List.cons_ne_nil _ _
  · exact List.cons_ne_nil _ _

theorem CommandBytes.concat {body : Bytes} {byte : UInt8} (command : CommandBytes body)
    (last : byte ≠ 0x3b ∧ byte ≠ 0x07 ∧ cancelsOsc byte = false) : CommandBytes (body ++ [byte]) := by
  intro other member
  rcases List.mem_append.mp member with earlier | here
  · exact command other earlier
  · rw [List.mem_singleton.mp here]
    exact last

/-- Why the filter gives up a header: the byte ends it, or the command is no title's. -/
inductive GivesUp (body : Bytes) (byte : UInt8) : Prop where
  | bell (ends : byte = 0x07)
  | terminator (ends : byte = 0x9c)
  | cancelled (ends : cancelsOsc byte = true)
  | escaped (pending : endsEscaped false body = true)
  | command (other : body ∉ ([[], [0x30], [0x32]] : List Bytes))

theorem GivesUp.read {body : Bytes} {byte : UInt8} {open_ : Prop} (given : GivesUp body byte)
    (plain : byte ≠ 0x1b) (kept : skippedInOsc byte = false) (unseparated : 0x3b ∉ body)
    (unescaped : endsEscaped false body = false) : Settles (.osc body) [byte] open_ := by
  have single := @settles_byte (.osc body) byte open_
  rw [read_byte_osc, readOscByte, if_neg plain, kept, if_neg Bool.false_ne_true] at single
  by_cases ends : (decide (byte = 0x07) || cancelsOsc byte) = true
  · rw [if_pos ends] at single
    exact single (reports_some (unseparated_prefixed unseparated)) trivial
      fun escaped => absurd escaped Bool.false_ne_true
  · obtain ⟨bell, cancels⟩ := Bool.or_eq_false_iff.mp (Bool.eq_false_of_not_eq_true ends)
    rw [if_neg ends] at single
    apply single reports_none _ fun escaped => absurd escaped Bool.false_ne_true
    intro more
    cases given with
    | bell ends => exact absurd ends (of_decide_eq_false bell)
    | cancelled ends =>
        rw [cancels] at ends
        cases ends
    | escaped pending =>
        rw [unescaped] at pending
        cases pending
    | command other =>
        rw [List.append_assoc]
        exact settled_closed unseparated other _
    | terminator ends =>
        rw [ends]
        apply settled_closed
        · intro member
          rcases List.mem_append.mp member with earlier | here
          · exact unseparated earlier
          · exact absurd (List.mem_singleton.mp here) (by decide)
        · intro member
          have absent : ∀ command ∈ ([[], [0x30], [0x32]] : List Bytes), 0x9c ∉ command := by decide
          exact absent _ member (List.mem_append_right body List.mem_cons_self)

/-- A header that is given up settles the terminal behind the filter. -/
theorem read_header {reader : ReaderState} {held body : Bytes} {byte : UInt8}
    (closed : reader.Closed) (unescaped : reader.escaped = false) (form : HeaderForm held body)
    (command : CommandBytes body) (counted : Counted held body) (calm : Calm false body)
    (plain : byte ≠ 0x1b) (kept : held.head? = some 0x1b → skippedInOsc byte = false)
    (apart : endsEscaped false body = true → byte ≠ 0x5d) (given : GivesUp body byte) :
    Settles reader (held ++ [byte]) (escapeOpen (endsEscaped false body) byte = true) := by
  rcases form.introduced with rfl | rfl
  · obtain ⟨reports, reading⟩ := @read_command [] body List.not_mem_nil command (counted rfl) calm
    have unseparated : 0x3b ∉ body := fun member => (command 0x3b member).1 rfl
    have last : Settles (final readByte (.osc []) body) [byte]
        (escapeOpen (endsEscaped false body) byte = true) := by
      rcases reading with ⟨still, open_⟩ | ⟨ended, escaped⟩
      · rw [still]
        exact given.read plain (kept rfl) unseparated open_
      · rw [← escaped] at apart
        obtain ⟨report, next⟩ := read_byte_closed ended apart
        refine settles_byte report next ?_
        rw [read_byte_escaped apart, escaped]
        exact id
    refine ⟨?_, ?_, ?_⟩
    · intro payload member
      rw [List.append_assoc, completed_over_append, read_introducer, completed_over_append] at member
      rcases List.mem_append.mp member with before | member
      · exact introducer_completes closed payload before
      · rcases List.mem_append.mp member with inside | after
        · exact reports payload inside
        · exact last.reports payload after
    · rw [List.append_assoc, final_append, read_introducer, final_append]
      exact last.closed
    · rw [List.append_assoc, final_append, read_introducer, final_append]
      exact last.escaped
  · -- to the terminal an 8-bit introducer is one byte of text
    have whole : Calm false ([0x9d] ++ body ++ [byte]) := by
      rw [List.append_assoc]
      exact ⟨fun escaped => absurd escaped Bool.false_ne_true, calm_concat calm apart⟩
    have ended : endsEscaped false ([0x9d] ++ body ++ [byte]) =
        escapeOpen (endsEscaped false body) byte := ends_escaped_concat false ([0x9d] ++ body) byte
    rw [← unescaped] at whole ended
    exact settles_calm closed whole (by rw [ended, unescaped]; exact id)

theorem HeaderForm.no_title {held body : Bytes} (form : HeaderForm held body)
    (none_ : titleCommand held = none) : body ∉ ([[], [0x30], [0x32]] : List Bytes) := by
  obtain ⟨length, dropped, _⟩ := form.introducer_length
  unfold titleCommand at none_
  rw [if_neg (by omega), dropped] at none_
  intro member
  simp only [List.mem_cons, List.not_mem_nil, or_false] at member
  rcases member with rfl | rfl | rfl
  · cases none_
  · cases none_
  · cases none_

/-- What one byte of input does to the reader. -/
structure Follows (run : EscapeRun) (reader : ReaderState) (output : Bytes)
    (next : TitleFilterState) : Prop where
  settles : Settles reader output (PassedOpen run next)
  calm : StateCalm run next

theorem header_byte_follows {run : EscapeRun} {reader : ReaderState} {held body : Bytes}
    {byte : UInt8} (closed : reader.Closed) (unescaped : reader.escaped = false)
    (form : HeaderForm held body) (command : CommandBytes body) (counted : Counted held body)
    (calm : Calm false body) (running : endsEscaped false body = true → run ≠ .settled)
    (apart : run ≠ .settled → byte ≠ 0x5d)
    (kept : held.head? = some 0x1b → skippedInOsc byte = false) :
    Follows (run.next byte) reader (headerByte held byte).1 (headerByte held byte).2 := by
  have behind : endsEscaped false body = true → byte ≠ 0x5d := fun escaped => apart (running escaped)
  have nothing (open_ : Prop) : Settles reader [] open_ :=
    settles_nothing closed fun escaped => absurd (unescaped.symm.trans escaped) Bool.false_ne_true
  have flushed (plain : byte ≠ 0x1b) (given : GivesUp body byte) :
      Settles reader (held ++ [byte]) (run.next byte ≠ .settled) := by
    obtain ⟨reports, last, open_⟩ :=
      read_header closed unescaped form command counted calm plain kept behind given
    exact ⟨reports, last, fun escaped => EscapeRun.next_open running (open_ escaped)⟩
  have grown : Calm false (body ++ [byte]) := calm_concat calm behind
  have grownCounted : Counted (held ++ [byte]) (body ++ [byte]) := counted.concat form.nonempty kept
  have grownRunning : endsEscaped false (body ++ [byte]) = true → run.next byte ≠ .settled := by
    rw [ends_escaped_concat]
    exact EscapeRun.next_open running
  unfold headerByte
  by_cases ends : (completesOsc byte || cancelsOsc byte) = true
  · rw [if_pos ends]
    have plain : byte ≠ 0x1b := by
      intro same
      rw [same] at ends
      exact absurd ends (by decide)
    have given : GivesUp body byte := by
      rcases Bool.or_eq_true_iff.mp ends with completes | cancels
      · rcases Bool.or_eq_true_iff.mp completes with bell | terminator
        · exact .bell (of_decide_eq_true bell)
        · exact .terminator (of_decide_eq_true terminator)
      · exact .cancelled cancels
    exact ⟨flushed plain given, trivial⟩
  · obtain ⟨completes, cancels⟩ := Bool.or_eq_false_iff.mp (Bool.eq_false_of_not_eq_true ends)
    have notBell : byte ≠ 0x07 := of_decide_eq_false (Bool.or_eq_false_iff.mp completes).1
    rw [if_neg ends]
    split_ifs with escape separator long
    · rw [escape] at grown grownCounted grownRunning ⊢
      exact ⟨nothing _, body ++ [0x1b], form.append [0x1b], command.concat (by decide),
        grownCounted, grown, grownRunning, fun _ => ends_escaped_escape false body⟩
    · cases title : titleCommand held with
      | some command =>
          exact ⟨nothing _, trivial, fun escaped => absurd escaped Bool.false_ne_true,
            fun pending => absurd pending Bool.false_ne_true⟩
      | none => exact ⟨flushed escape (.command (form.no_title title)), trivial⟩
    · rw [(form.append [byte]).command_length, List.length_append] at long
      have other : body ∉ ([[], [0x30], [0x32]] : List Bytes) := by
        intro member
        have short : ∀ command ∈ ([[], [0x30], [0x32]] : List Bytes), command.length ≤ 1 := by decide
        have single := short body member
        change body.length + 1 > 16 at long
        omega
      exact ⟨flushed escape (.command other), trivial⟩
    · have same : (TitleFilterState.oscHeader (held ++ [byte]) false).held = held ++ [byte] :=
        List.append_nil _
      refine ⟨nothing _, body ++ [byte], ?_, command.concat ⟨separator, notBell, cancels⟩, ?_, grown,
        grownRunning, fun pending => absurd pending Bool.false_ne_true⟩
      · rw [same]
        exact form.append [byte]
      · rw [same]
        exact grownCounted

theorem osc_header_byte_follows {run : EscapeRun} {reader : ReaderState} {bytes : Bytes}
    {escapePending : Bool} {byte : UInt8} (closed : reader.Closed)
    (unescaped : reader.escaped = false) (calm : StateCalm run (.oscHeader bytes escapePending))
    (takes : TakesByte run (.oscHeader bytes escapePending) byte) :
    Follows (run.next byte) reader (oscHeaderByte bytes escapePending byte).1
      (oscHeaderByte bytes escapePending byte).2 := by
  obtain ⟨body, form, command, counted, quiet, running, pending⟩ := calm
  obtain ⟨apart, kept⟩ := takes
  unfold oscHeaderByte
  cases escapePending with
  | false =>
      have same : (TitleFilterState.oscHeader bytes false).held = bytes := List.append_nil bytes
      rw [same] at form counted
      rw [if_neg Bool.false_ne_true]
      exact header_byte_follows closed unescaped form command counted quiet running apart kept
  | true =>
      have held : (TitleFilterState.oscHeader bytes true).held = bytes ++ [0x1b] := rfl
      have keptHeld : (bytes ++ [0x1b]).head? = some 0x1b → skippedInOsc byte = false := by
        intro opened
        cases bytes with
        | nil =>
            rw [held] at form
            rcases form.introduced with split | split
            · exact absurd (List.cons.inj split).2 (List.cons_ne_nil _ _).symm
            · exact absurd (List.cons.inj split).1 (by decide)
        | cons first rest => exact kept opened
      rw [held] at form counted
      rw [if_pos rfl]
      split_ifs with terminator
      · have behind : endsEscaped false body = true → byte ≠ 0x5d := fun escaped => apart (running escaped)
        obtain ⟨reports, last, open_⟩ := read_header closed unescaped form command counted quiet
          (by rw [terminator]; decide) keptHeld behind (.escaped (pending rfl))
        rw [terminator, List.append_assoc] at reports last open_
        exact ⟨⟨reports, last, fun escaped => by
          rw [terminator]
          exact EscapeRun.next_open running (open_ escaped)⟩, trivial⟩
      · exact header_byte_follows closed unescaped form command counted quiet running apart keptHeld

theorem passthrough_byte_follows {run : EscapeRun} {reader : ReaderState} {escapePending : Bool}
    {byte : UInt8} (closed : reader.Closed) (running : reader.escaped = true → run ≠ .settled)
    (takes : run ≠ .settled → byte ≠ 0x5d) :
    Follows (run.next byte) reader (passthroughByte escapePending byte).1
      (passthroughByte escapePending byte).2 := by
  have single : Settles reader [byte] (run.next byte ≠ .settled) :=
    settles_calm closed ⟨fun escaped => takes (running escaped), trivial⟩
      (EscapeRun.next_open running)
  unfold passthroughByte
  split_ifs
  · exact ⟨single, trivial⟩
  · exact ⟨single, trivial⟩
  · exact ⟨single, trivial⟩
  · exact ⟨single, trivial⟩

namespace TitleOutputFilter

/-- The filter, and the reader of everything that it has put out. -/
structure Watched (filter : TitleOutputFilter) (run : EscapeRun) (reader : ReaderState) : Prop where
  closed : reader.Closed
  escaped : reader.escaped = true → PassedOpen run filter.state
  calm : StateCalm run filter.state
  icon : Whole filter.remote.icon
  window : Whole filter.remote.window

theorem whole_nil : Whole [] := ⟨trivial, rfl⟩

theorem new_watched (policy : TitlePolicy) : (new policy).Watched .settled .other where
  closed := trivial
  escaped := fun escaped => absurd escaped Bool.false_ne_true
  calm := trivial
  icon := whole_nil
  window := whole_nil

/-- What a step of the filter does to the reader, the titles included. -/
structure InStep (run : EscapeRun) (reader : ReaderState) (output : Bytes)
    (next : TitleOutputFilter) : Prop where
  reports : next.prefixActive = true → ∀ payload ∈ completedOver reader output, Prefixed payload
  watched : next.Watched run (final readByte reader output)

variable {filter : TitleOutputFilter} {run : EscapeRun} {reader : ReaderState}

theorem emit_titles_step (watched : filter.Watched run reader) :
    InStep run reader filter.emitTitles.1 filter.emitTitles.2 := by
  obtain ⟨_, state, remote, active⟩ := filter.emit_titles_fields
  obtain ⟨closed, escaped, calm, icon, window⟩ := watched
  have kept (after : ReaderState) (next : after.Closed)
      (open_ : after.escaped = true → PassedOpen run filter.state) :
      filter.emitTitles.2.Watched run after := by
    refine ⟨next, ?_, ?_, ?_, ?_⟩
    · rw [state]
      exact open_
    · rw [state]
      exact calm
    · rw [remote]
      exact icon
    · rw [remote]
      exact window
  rcases filter.emit_titles_output with nothing | titles
  · rw [nothing]
    exact ⟨fun _ _ member => absurd member List.not_mem_nil, kept reader closed escaped⟩
  · have wholeWindow : Whole filter.emittedWindow := by
      rw [emittedWindow]
      split_ifs
      · exact marked_whole window
      · exact window
    have wholeIcon : Whole filter.emittedIcon := by
      rw [emittedIcon]
      split_ifs
      · exact wholeWindow
      · exact icon
    rw [titles]
    refine ⟨?_, ?_⟩
    · rw [active]
      intro marked
      have text : filter.emittedWindow = MOSH_TITLE_PREFIX ++ filter.remote.window := by
        rw [emittedWindow, if_pos marked]
      rw [text]
      exact read_titles closed wholeIcon window
    · rw [read_titles_end reader wholeWindow]
      exact kept .other trivial fun open_ => absurd open_ Bool.false_ne_true

theorem set_remote_title_texts {command : OscTitleCommand} {bytes : Bytes}
    (icon : Whole filter.remote.icon) (window : Whole filter.remote.window) (whole : Whole bytes) :
    Whole (filter.setRemoteTitle command bytes).remote.icon ∧
      Whole (filter.setRemoteTitle command bytes).remote.window := by
  cases command with
  | iconAndWindow => exact ⟨whole, whole⟩
  | icon => exact ⟨whole, window⟩
  | window => exact ⟨icon, whole⟩

theorem completed_step (watched : filter.Watched run reader) (unescaped : reader.escaped = false)
    (after : EscapeRun) {command : OscTitleCommand} {bytes : Bytes} (whole : Whole bytes) :
    InStep after reader ({ filter with state := .ground }.setRemoteTitle command bytes).emitTitles.1
      ({ filter with state := .ground }.setRemoteTitle command bytes).emitTitles.2 := by
  obtain ⟨icon, window⟩ := @set_remote_title_texts { filter with state := .ground } command bytes
    watched.icon watched.window whole
  apply emit_titles_step
  refine ⟨watched.closed, ?_, ?_, icon, window⟩
  · intro escaped
    exact absurd (unescaped.symm.trans escaped) Bool.false_ne_true
  · rw [set_remote_title_state]
    trivial

theorem Follows.step (watched : filter.Watched run reader) {after : EscapeRun} {output : Bytes}
    {next : TitleFilterState} (follows : Follows after reader output next) :
    InStep after reader output { filter with state := next } :=
  ⟨fun _ => follows.settles.reports, follows.settles.closed, follows.settles.escaped, follows.calm,
    watched.icon, watched.window⟩

theorem silent_step (watched : filter.Watched run reader) (unescaped : reader.escaped = false)
    {after : EscapeRun} {state : TitleFilterState} (calm : StateCalm after state) :
    InStep after reader [] { filter with state := state } := by
  have nothing : Settles reader [] (PassedOpen after state) := settles_nothing watched.closed
    fun escaped => absurd (unescaped.symm.trans escaped) Bool.false_ne_true
  exact Follows.step watched ⟨nothing, calm⟩

theorem pended_title_step (watched : filter.Watched run reader) (unescaped : reader.escaped = false)
    {command : OscTitleCommand} {bytes : Bytes} {capacityReached : Bool} {byte : UInt8}
    (calm : Calm false bytes) (running : endsEscaped false bytes = true → run ≠ .settled)
    (takes : run ≠ .settled → byte ≠ 0x5d ∧ completesOsc byte = false) :
    InStep (run.next byte) reader (filter.pendedTitleByte command bytes capacityReached byte).1
      (filter.pendedTitleByte command bytes capacityReached byte).2 := by
  unfold pendedTitleByte
  split_ifs with completes cancels escape full
  · refine completed_step watched unescaped _ ⟨calm, Bool.eq_false_of_not_eq_true ?_⟩
    intro open_
    exact absurd completes (Bool.not_eq_true _ |>.mpr (takes (running open_)).2)
  · exact silent_step watched unescaped trivial
  · rw [escape]
    refine silent_step watched unescaped ⟨calm, ?_, fun _ => ?_⟩
    · intro open_
      rw [EscapeRun.next_escape (running open_)]
      exact ⟨by decide, fun _ => rfl⟩
    · exact @EscapeRun.next_open run false 0x1b (fun escaped => absurd escaped Bool.false_ne_true) rfl
  · exact silent_step watched unescaped trivial
  · refine silent_step watched unescaped
      ⟨calm_concat calm fun open_ => (takes (running open_)).1, ?_,
        fun pending => absurd pending Bool.false_ne_true⟩
    rw [ends_escaped_concat]
    intro open_
    exact ⟨EscapeRun.next_open running open_, fun pending => absurd pending Bool.false_ne_true⟩

theorem title_step (watched : filter.Watched run reader) (unescaped : reader.escaped = false)
    {command : OscTitleCommand} {bytes : Bytes} {escapePending : Bool} {byte : UInt8}
    (calm : StateCalm run (.title command bytes escapePending))
    (takes : TakesByte run (.title command bytes escapePending) byte) :
    InStep (run.next byte) reader (filter.titleByte command bytes escapePending byte).1
      (filter.titleByte command bytes escapePending byte).2 := by
  obtain ⟨quiet, open_, pending⟩ := calm
  have running : endsEscaped false bytes = true → run ≠ .settled := fun ended => (open_ ended).1
  unfold titleByte
  cases escapePending with
  | false =>
      rw [if_neg Bool.false_ne_true]
      exact pended_title_step watched unescaped quiet running takes.1
  | true =>
      rw [if_pos rfl]
      split_ifs with terminator room
      · refine completed_step watched unescaped _ ⟨quiet, Bool.eq_false_of_not_eq_true ?_⟩
        intro ended
        exact takes.2 ((open_ ended).2 rfl) rfl terminator
      · exact pended_title_step watched unescaped (calm_concat quiet fun _ => by decide)
          (fun _ => pending rfl) takes.1
      · exact pended_title_step watched unescaped quiet running takes.1

/-- A byte that the filter settles as the terminal does completes no title without the
marker, and leaves filter and reader in step. -/
theorem process_byte_step (watched : filter.Watched run reader) {byte : UInt8}
    (takes : TakesByte run filter.state byte) :
    InStep (run.next byte) reader (filter.processByte byte).1 (filter.processByte byte).2 := by
  have calm := watched.calm
  have passed := watched.escaped
  have closedBefore (never : ¬PassedOpen run filter.state) : reader.escaped = false :=
    Bool.eq_false_of_not_eq_true fun escaped => never (passed escaped)
  unfold processByte
  cases state : filter.state with
  | ground =>
      rw [state] at takes passed
      dsimp only
      split_ifs with escape introducer
      · rw [escape]
        have held : StateCalm (run.next 0x1b) .escape :=
          @EscapeRun.next_open run false 0x1b (fun escaped => absurd escaped Bool.false_ne_true) rfl
        have nothing : Settles reader [] (PassedOpen (run.next 0x1b) .escape) :=
          settles_nothing watched.closed fun escaped => EscapeRun.next_escape (passed escaped)
        exact Follows.step watched ⟨nothing, held⟩
      · have unescaped : reader.escaped = false := Bool.eq_false_of_not_eq_true fun escaped =>
          (takes (passed escaped)).2 introducer
        refine silent_step watched unescaped ⟨[], ⟨Or.inr ?_⟩, ?_, ?_, trivial, ?_, ?_⟩
        · rw [introducer]
          rfl
        · exact fun _ member => absurd member List.not_mem_nil
        · exact fun _ _ member => absurd member List.not_mem_nil
        · exact fun escaped => absurd escaped Bool.false_ne_true
        · exact fun pending => absurd pending Bool.false_ne_true
      · have single : Settles reader [byte] (run.next byte ≠ .settled) :=
          settles_calm watched.closed ⟨fun escaped => (takes (passed escaped)).1, trivial⟩
            (EscapeRun.next_open passed)
        have same : filter = { filter with state := .ground } := by rw [← state]
        rw [same]
        exact Follows.step watched ⟨single, trivial⟩
  | escape =>
      rw [state] at takes passed calm
      dsimp only
      split_ifs with introducer
      · have unescaped : reader.escaped = false := Bool.eq_false_of_not_eq_true fun escaped =>
          takes (passed escaped) introducer
        exact silent_step watched unescaped ⟨[], ⟨Or.inl rfl⟩,
          fun _ member => absurd member List.not_mem_nil,
          fun _ _ member => absurd member List.not_mem_nil, trivial,
          fun escaped => absurd escaped Bool.false_ne_true,
          fun pending => absurd pending Bool.false_ne_true⟩
      · have pair : Settles reader [0x1b, byte] (run.next byte ≠ .settled) := by
          apply settles_calm watched.closed
          · exact ⟨fun _ => by decide, fun _ => introducer, trivial⟩
          · exact @EscapeRun.next_open run true byte fun _ => calm
        exact Follows.step watched ⟨pair, trivial⟩
  | oscHeader bytes escapePending =>
      have unescaped := closedBefore (by rw [state]; exact id)
      rw [state] at takes calm
      exact Follows.step watched (osc_header_byte_follows watched.closed unescaped calm takes)
  | title command bytes escapePending =>
      have unescaped := closedBefore (by rw [state]; exact id)
      rw [state] at takes calm
      exact title_step watched unescaped calm takes
  | passthroughOsc escapePending =>
      rw [state] at takes passed
      exact Follows.step watched (passthrough_byte_follows watched.closed passed takes)
  | discardTitle escapePending =>
      have unescaped := closedBefore (by rw [state]; exact id)
      dsimp only
      refine silent_step watched unescaped ?_
      unfold discardByte
      split_ifs <;> trivial

/-- Every byte of the stream finds the filter in a state that settles it. -/
def Regular : TitleOutputFilter → EscapeRun → Bytes → Prop
  | _, _, [] => True
  | filter, run, byte :: rest =>
      TakesByte run filter.state byte ∧ Regular (filter.processByte byte).2 (run.next byte) rest

theorem process_bytes_step {filter : TitleOutputFilter} {run : EscapeRun} {reader : ReaderState}
    (watched : filter.Watched run reader) {stream : Bytes} (regular : filter.Regular run stream) :
    InStep (run.behind stream) reader (filter.processBytes stream).1 (filter.processBytes stream).2 ∧
      (filter.processBytes stream).2.policy = filter.policy ∧
      (filter.processBytes stream).2.prefixActive = filter.prefixActive := by
  induction stream generalizing filter run reader with
  | nil => exact ⟨⟨fun _ _ member => absurd member List.not_mem_nil, watched⟩, rfl, rfl⟩
  | cons byte rest induction =>
      have step := process_byte_step watched regular.1
      obtain ⟨policy, active⟩ := filter.process_byte_fields byte
      obtain ⟨later, laterPolicy, laterActive⟩ := induction step.watched regular.2
      refine ⟨⟨?_, ?_⟩, laterPolicy.trans policy, laterActive.trans active⟩
      · intro marked payload member
        change payload ∈ completedOver reader ((filter.processByte byte).1 ++
          ((filter.processByte byte).2.processBytes rest).1) at member
        rw [completed_over_append] at member
        rcases List.mem_append.mp member with here | after
        · exact step.reports (laterActive.symm.trans marked) payload here
        · exact later.reports marked payload after
      · have whole := later.watched
        rw [← final_append] at whole
        exact whole

/-- The filter with the bytes that it was given and the reader behind it. -/
structure Watching where
  filter : TitleOutputFilter
  run : EscapeRun
  reader : ReaderState

/-- An operation gives the payloads that complete. -/
def watch (watching : Watching) (operation : FilterOperation) : List Bytes × Watching :=
  let (output, filter) := watching.filter.perform operation
  let run := match operation with
    | .process bytes => watching.run.behind bytes
    | _ => watching.run
  (completedOver watching.reader output, ⟨filter, run, final readByte watching.reader output⟩)

def Watching.TakesOperation (watching : Watching) : FilterOperation → Prop
  | .process bytes => watching.filter.Regular watching.run bytes
  | _ => True

def Watching.initial : Watching := ⟨new .moshPrefix, .settled, .other⟩

theorem operation_step {watching : Watching} (mosh : watching.filter.policy = .moshPrefix)
    (watched : watching.filter.Watched watching.run watching.reader) {operation : FilterOperation}
    (takes : watching.TakesOperation operation) :
    InStep (watch watching operation).2.run watching.reader
        (watching.filter.perform operation).1 (watching.filter.perform operation).2 ∧
      (watching.filter.perform operation).2.policy = .moshPrefix := by
  obtain ⟨filter, run, reader⟩ := watching
  have unchanged : InStep run reader [] filter :=
    ⟨fun _ _ member => absurd member List.not_mem_nil, watched⟩
  have emitted (active : Bool) : InStep run reader { filter with prefixActive := active }.emitTitles.1
      { filter with prefixActive := active }.emitTitles.2 :=
    emit_titles_step ⟨watched.closed, watched.escaped, watched.calm, watched.icon, watched.window⟩
  cases operation with
  | process bytes =>
      obtain ⟨step, policy, _⟩ := process_bytes_step watched takes
      change InStep (run.behind bytes) reader (filter.process bytes).1 (filter.process bytes).2 ∧
        (filter.process bytes).2.policy = .moshPrefix
      rw [process, if_neg (by rw [mosh]; decide)]
      exact ⟨step, policy.trans mosh⟩
  | restoreRemoteTitle =>
      change InStep run reader filter.restoreRemoteTitle.1 filter.restoreRemoteTitle.2 ∧
        filter.restoreRemoteTitle.2.policy = .moshPrefix
      unfold restoreRemoteTitle
      split_ifs
      · exact ⟨unchanged, mosh⟩
      · exact ⟨emitted false, (emit_titles_fields _).1.trans mosh⟩
  | reapplyPolicy =>
      change InStep run reader filter.reapplyPolicy.1 filter.reapplyPolicy.2 ∧
        filter.reapplyPolicy.2.policy = .moshPrefix
      unfold reapplyPolicy
      split_ifs
      · exact ⟨unchanged, mosh⟩
      · exact ⟨emitted true, (emit_titles_fields _).1.trans mosh⟩

theorem watched_run {operations : List FilterOperation} {watching : Watching}
    (mosh : watching.filter.policy = .moshPrefix)
    (watched : watching.filter.Watched watching.run watching.reader)
    (regular : ∀ event ∈ trace watch watching operations, event.before.TakesOperation event.input) :
    ∀ event ∈ trace watch watching operations,
      event.after.filter.prefixActive = true → ∀ payload ∈ event.output, Prefixed payload := by
  induction operations generalizing watching with
  | nil => exact fun event member => absurd member List.not_mem_nil
  | cons operation rest induction =>
      have first := regular (stepAt watch watching operation) List.mem_cons_self
      obtain ⟨step, policy⟩ := operation_step mosh watched first
      intro event member
      rcases List.mem_cons.mp member with here | later
      · rw [here]
        exact step.reports
      · exact induction policy step.watched
          (fun other inside => regular other (List.mem_cons_of_mem _ inside)) event later

end TitleOutputFilter

end FerrumTty.Terminal
