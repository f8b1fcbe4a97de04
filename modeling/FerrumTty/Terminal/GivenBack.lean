import FerrumTty.Library.Runs
import FerrumTty.Terminal.TerminalGuard

/-!
# The terminal given back

What the calls of the guard leave switched on at the local terminal: everything it needs while
the session has the terminal, and nothing behind the last call, as long as the calls that
switch it off succeed.
-/

namespace FerrumTty.Terminal

set_option autoImplicit false

open Crypto State Runs

/-- The modes of the local terminal that the guard switches itself. -/
structure LocalModes where
  raw : Bool
  alternateScreen : Bool
  bracketedPaste : Bool
  deriving DecidableEq, Repr

def LocalModes.untouched : LocalModes where
  raw := false
  alternateScreen := false
  bracketedPaste := false

def LocalModes.after (modes : LocalModes) : ConsoleCommand → LocalModes
  | .enableRawMode => { modes with raw := true }
  | .disableRawMode => { modes with raw := false }
  | .enterAlternateScreen => { modes with alternateScreen := true }
  | .leaveAlternateScreen => { modes with alternateScreen := false }
  | .enableBracketedPaste => { modes with bracketedPaste := true }
  | .disableBracketedPaste => { modes with bracketedPaste := false }
  | _ => modes

/-- The command switches none of the modes. -/
def ConsoleCommand.neutral : ConsoleCommand → Bool
  | .enableRawMode | .disableRawMode | .enterAlternateScreen | .leaveAlternateScreen
  | .enableBracketedPaste | .disableBracketedPaste => false
  | _ => true

def ConsoleCommand.restoring : ConsoleCommand → Bool
  | .disableRawMode | .leaveAlternateScreen | .disableBracketedPaste => true
  | _ => false

section Logs

variable {Failure : Type}

/-- A failed call changes nothing. -/
def modesAfter (modes : LocalModes) : List (ConsoleCommand × Option Failure) → LocalModes
  | [] => modes
  | (command, none) :: rest => modesAfter (modes.after command) rest
  | (_, some _) :: rest => modesAfter modes rest

def Console.modes (console : Console Failure) : LocalModes :=
  modesAfter .untouched console.issued

def Console.Restores (console : Console Failure) : Prop :=
  ∀ entry ∈ console.issued, entry.1.restoring = true → entry.2 = none

theorem modes_after_append (modes : LocalModes)
    (first second : List (ConsoleCommand × Option Failure)) :
    modesAfter modes (first ++ second) = modesAfter (modesAfter modes first) second := by
  induction first generalizing modes with
  | nil => rfl
  | cons entry rest induction =>
      rcases entry with ⟨command, failure⟩
      cases failure with
      | none => exact induction _
      | some failure => exact induction _

theorem after_neutral {command : ConsoleCommand} (neutral : command.neutral = true)
    (modes : LocalModes) : modes.after command = modes := by
  cases command <;> first | rfl | cases neutral

theorem modes_after_neutral {entries : List (ConsoleCommand × Option Failure)}
    (neutral : ∀ entry ∈ entries, entry.1.neutral = true) (modes : LocalModes) :
    modesAfter modes entries = modes := by
  induction entries with
  | nil => rfl
  | cons entry rest induction =>
      rcases entry with ⟨command, failure⟩
      have here := neutral (command, failure) List.mem_cons_self
      have later := induction fun other member => neutral other (List.mem_cons_of_mem _ member)
      cases failure with
      | none => rw [modesAfter, after_neutral here, later]
      | some failure => rw [modesAfter, later]

namespace Console

variable (console : Console Failure)

theorem issue_issued (command : ConsoleCommand) :
    (console.issue command).2.issued =
      console.issued ++ [(command, console.answers console.issued command)] := rfl

theorem issue_all_issued (commands : List ConsoleCommand) :
    ∃ entries, (console.issueAll commands).2.issued = console.issued ++ entries ∧
      entries.map Prod.fst <+: commands := by
  induction commands generalizing console with
  | nil => exact ⟨[], (List.append_nil _).symm, List.nil_prefix⟩
  | cons command rest induction =>
      obtain ⟨entries, log, among⟩ := induction (console.issue command).2
      have first := console.issue_issued command
      rw [issueAll]
      rcases issued : console.issue command with ⟨result, next⟩
      rw [issued] at first log
      cases result with
      | error failure =>
          refine ⟨_, first, ?_⟩
          exact ⟨rest, rfl⟩
      | ok done =>
          refine ⟨(command, console.answers console.issued command) :: entries, ?_, ?_⟩
          · dsimp only at first log ⊢
            rw [log, first, List.append_assoc]
            rfl
          · rw [List.map_cons]
            exact List.cons_prefix_cons.mpr ⟨rfl, among⟩

theorem issue_all_first (command : ConsoleCommand) (rest : List ConsoleCommand) :
    ∃ failure entries, (console.issueAll (command :: rest)).2.issued =
        console.issued ++ (command, failure) :: entries ∧ entries.map Prod.fst <+: rest := by
  obtain ⟨entries, log, among⟩ := console.issue_all_issued (command :: rest)
  cases entries with
  | nil =>
      exfalso
      have longer : console.issued.length < (console.issueAll (command :: rest)).2.issued.length := by
        rw [issueAll]
        have first := congrArg List.length (console.issue_issued command)
        rcases issued : console.issue command with ⟨result, next⟩
        rw [issued, List.length_append, List.length_singleton] at first
        cases result with
        | error failure =>
            dsimp only at first ⊢
            omega
        | ok done =>
            obtain ⟨more, later, _⟩ := next.issue_all_issued rest
            have whole := congrArg List.length later
            rw [List.length_append] at whole
            dsimp only at first whole ⊢
            omega
      rw [log, List.append_nil] at longer
      exact Nat.lt_irrefl _ longer
  | cons entry entries =>
      rcases entry with ⟨head, failure⟩
      rw [List.map_cons, List.cons_prefix_cons] at among
      obtain ⟨same, among⟩ := among
      dsimp only at same
      subst same
      exact ⟨failure, entries, log, among⟩

theorem issue_modes (command : ConsoleCommand) :
    (console.issue command).2.modes =
      if console.answers console.issued command = none then console.modes.after command
      else console.modes := by
  rw [modes, issue_issued, modes_after_append]
  cases console.answers console.issued command with
  | none => rfl
  | some failure => rfl

theorem neutral_modes {commands : List ConsoleCommand}
    (neutral : ∀ command ∈ commands, command.neutral = true) :
    (console.issueAll commands).2.modes = console.modes := by
  obtain ⟨entries, log, among⟩ := console.issue_all_issued commands
  rw [modes, log, modes_after_append]
  apply modes_after_neutral
  intro entry member
  exact neutral entry.1 (among.subset (List.mem_map_of_mem member))

theorem issue_ok {command : ConsoleCommand} {next : Console Failure}
    (issued : console.issue command = (.ok (), next)) : next.modes = console.modes.after command := by
  have log := console.issue_modes command
  rw [issued] at log
  unfold issue at issued
  cases answer : console.answers console.issued command with
  | none =>
      rw [answer, if_pos rfl] at log
      exact log
  | some failure =>
      rw [answer] at issued
      cases issued

theorem issue_all_ok {commands : List ConsoleCommand} {next : Console Failure}
    (issued : console.issueAll commands = (.ok (), next)) :
    next.modes = commands.foldl LocalModes.after console.modes := by
  induction commands generalizing console with
  | nil =>
      cases issued
      rfl
  | cons command rest induction =>
      rw [issueAll] at issued
      rcases first : console.issue command with ⟨result, middle⟩
      rw [first] at issued
      cases result with
      | error failure => cases issued
      | ok done =>
          rw [List.foldl_cons, ← console.issue_ok first]
          exact induction middle issued

/-- Without the command for it the alternate screen is not entered. -/
theorem issue_primary {command : ConsoleCommand} (other : command ≠ .enterAlternateScreen)
    (primary : console.modes.alternateScreen = false) :
    (console.issue command).2.modes.alternateScreen = false := by
  rw [issue_modes]
  split_ifs
  · cases command with
    | enterAlternateScreen => exact absurd rfl other
    | leaveAlternateScreen => rfl
    | _ => exact primary
  · exact primary

theorem issue_all_primary {commands : List ConsoleCommand}
    (others : ConsoleCommand.enterAlternateScreen ∉ commands)
    (primary : console.modes.alternateScreen = false) :
    (console.issueAll commands).2.modes.alternateScreen = false := by
  induction commands generalizing console with
  | nil => exact primary
  | cons command rest induction =>
      rw [List.mem_cons, not_or] at others
      have first := console.issue_primary (Ne.symm others.1) primary
      rw [issueAll]
      rcases issued : console.issue command with ⟨result, next⟩
      rw [issued] at first
      cases result with
      | error failure => exact first
      | ok done => exact induction next others.2 first

theorem issue_extends (command : ConsoleCommand) :
    console.issued <+: (console.issue command).2.issued := List.prefix_append _ _

theorem issue_all_extends (commands : List ConsoleCommand) :
    console.issued <+: (console.issueAll commands).2.issued := by
  obtain ⟨entries, log, _⟩ := console.issue_all_issued commands
  exact ⟨entries, log.symm⟩

variable {console}

theorem Restores.earlier {later : Console Failure} (restores : later.Restores)
    (extended : console.issued <+: later.issued) : console.Restores :=
  fun entry member => restores entry (extended.subset member)

theorem Restores.issued {command : ConsoleCommand} (off : command.restoring = true)
    (restores : (console.issue command).2.Restores) :
    (console.issue command).2.modes = console.modes.after command := by
  have answered := restores (command, console.answers console.issued command)
    (by rw [issue_issued]; exact List.mem_append_right _ (List.mem_singleton_self _)) off
  rw [issue_modes, if_pos answered]

theorem Restores.issued_first {command : ConsoleCommand} {rest : List ConsoleCommand}
    (off : command.restoring = true) (neutral : ∀ other ∈ rest, other.neutral = true)
    (restores : (console.issueAll (command :: rest)).2.Restores) :
    (console.issueAll (command :: rest)).2.modes = console.modes.after command := by
  obtain ⟨failure, entries, log, among⟩ := console.issue_all_first command rest
  have answered := restores (command, failure)
    (by rw [log]; exact List.mem_append_right _ List.mem_cons_self) off
  dsimp only at answered
  rw [modes, log, modes_after_append, answered, modesAfter]
  apply modes_after_neutral
  intro entry member
  exact neutral entry.1 (among.subset (List.mem_map_of_mem member))

end Console

end Logs

inductive GuardOperation where
  | writeServerBytes (bytes : Bytes)
  | writeOverlayBytes (bytes : Bytes)
  | writeLocalNotice (bytes : Bytes)
  | clearLocalNotice
  | redrawAuthoritative
  | resizeModel (columns rows : UInt16)
  | leaveForSuspend
  | resumeAfterSuspend
  deriving DecidableEq, Repr

namespace TerminalGuard

variable {terminal : Terminal} {Failure : Type} (queries : ScreenQueries terminal)

def operate (guard : TerminalGuard terminal Failure) :
    GuardOperation → Except Failure Unit × TerminalGuard terminal Failure
  | .writeServerBytes bytes => guard.writeServerBytes queries bytes
  | .writeOverlayBytes bytes => guard.writeOverlayBytes bytes
  | .writeLocalNotice bytes => guard.writeLocalNotice queries bytes
  | .clearLocalNotice => guard.clearLocalNotice queries
  | .redrawAuthoritative => guard.redrawAuthoritative queries
  | .resizeModel columns rows => (.ok (), guard.resizeModel columns rows)
  | .leaveForSuspend => guard.leaveForSuspend
  | .resumeAfterSuspend => guard.resumeAfterSuspend queries

/-- What writing leaves alone. -/
structure Untouched (before after : TerminalGuard terminal Failure) : Prop where
  active : after.sessionTerminalActive = before.sessionTerminalActive
  alternate : after.alternateScreenActive = before.alternateScreenActive
  modes : after.output.modes = before.output.modes
  extended : before.output.issued <+: after.output.issued

/-- The guard has switched on what it needs, or has switched it off again. An abandoned guard is
one that a resume has left without the terminal. -/
structure Held (abandoned : Prop) (guard : TerminalGuard terminal Failure) : Prop where
  plain : guard.alternateScreenActive = false → guard.output.modes.alternateScreen = false
  taken : guard.sessionTerminalActive = true → guard.output.modes =
    { raw := true, alternateScreen := guard.alternateScreenActive, bracketedPaste := true }
  cooked : guard.sessionTerminalActive = false → guard.output.Restores →
    guard.output.modes.raw = false
  given : ¬ abandoned → guard.sessionTerminalActive = false → guard.output.Restores →
    guard.output.modes = .untouched

variable {queries} {guard middle after : TerminalGuard terminal Failure}

namespace Untouched

theorem refl (guard : TerminalGuard terminal Failure) : Untouched guard guard :=
  ⟨rfl, rfl, rfl, List.prefix_refl _⟩

theorem trans (first : Untouched guard middle) (second : Untouched middle after) :
    Untouched guard after where
  active := second.active.trans first.active
  alternate := second.alternate.trans first.alternate
  modes := second.modes.trans first.modes
  extended := first.extended.trans second.extended

theorem held {abandoned : Prop} (untouched : Untouched guard after) (held : Held abandoned guard) :
    Held abandoned after where
  plain primary := by
    rw [untouched.modes]
    exact held.plain (untouched.alternate ▸ primary)
  taken active := by
    rw [untouched.modes, untouched.alternate]
    exact held.taken (untouched.active ▸ active)
  cooked inactive restores := by
    rw [untouched.modes]
    exact held.cooked (untouched.active ▸ inactive) (restores.earlier untouched.extended)
  given kept inactive restores := by
    rw [untouched.modes]
    exact held.given kept (untouched.active ▸ inactive) (restores.earlier untouched.extended)

end Untouched

section Writing

variable (guard)

theorem write_bytes_untouched (bytes : Bytes) : Untouched guard (guard.writeBytes bytes).2 := by
  have neutral : ∀ command ∈ [ConsoleCommand.write bytes, .flush], command.neutral = true := by
    simp [ConsoleCommand.neutral]
  have modes := guard.output.neutral_modes neutral
  have extended := guard.output.issue_all_extends [.write bytes, .flush]
  exact ⟨rfl, rfl, modes, extended⟩

theorem redraw_untouched : Untouched guard (guard.redrawAuthoritative queries).2 :=
  guard.write_bytes_untouched _

theorem clear_untouched : Untouched guard (guard.clearLocalNotice queries).2 := by
  unfold clearLocalNotice
  split_ifs
  · exact .refl guard
  · have quiet : Untouched guard { guard with localNoticeActive := false } :=
      ⟨rfl, rfl, rfl, List.prefix_refl _⟩
    exact quiet.trans (redraw_untouched _)

theorem write_server_untouched (bytes : Bytes) :
    Untouched guard (guard.writeServerBytes queries bytes).2 := by
  have cleared : Untouched guard (guard.clearLocalNotice queries).2 := guard.clear_untouched
  unfold writeServerBytes
  rcases called : guard.clearLocalNotice queries with ⟨result, middle⟩
  rw [called] at cleared
  cases result with
  | error failure => exact cleared
  | ok done =>
      have modelled : Untouched middle
          { middle with
            authoritative := middle.authoritative.process bytes
            titleOutput := (middle.titleOutput.process bytes).2 } :=
        ⟨rfl, rfl, rfl, List.prefix_refl _⟩
      exact (cleared.trans modelled).trans (write_bytes_untouched _ _)

theorem write_notice_untouched (bytes : Bytes) :
    Untouched guard (guard.writeLocalNotice queries bytes).2 := by
  have cleared : Untouched guard (guard.clearLocalNotice queries).2 := guard.clear_untouched
  unfold writeLocalNotice
  rcases called : guard.clearLocalNotice queries with ⟨result, middle⟩
  rw [called] at cleared
  cases result with
  | error failure => exact cleared
  | ok done =>
      have written := middle.write_bytes_untouched bytes
      dsimp only
      rcases wrote : middle.writeBytes bytes with ⟨result, last⟩
      rw [wrote] at written
      cases result with
      | error failure => exact cleared.trans written
      | ok done =>
          exact (cleared.trans written).trans ⟨rfl, rfl, rfl, List.prefix_refl _⟩

end Writing

section Leaving

variable {output : Console Failure} {alternateScreenActive : Bool}

theorem leave_screen_output : (leaveScreen true output).2 =
    ((output.issue (.write APPLICATION_CURSOR_OFF)).2.issueAll [.leaveAlternateScreen, .flush]).2 :=
  rfl

theorem leave_screen_extends : output.issued <+: (leaveScreen alternateScreenActive output).2.issued := by
  cases alternateScreenActive with
  | false => exact List.prefix_refl _
  | true =>
      rw [leave_screen_output]
      exact (Console.issue_extends _ _).trans (Console.issue_all_extends _ _)

theorem leave_screen_modes
    (restores : (leaveScreen alternateScreenActive output).2.Restores)
    (known : alternateScreenActive = false → output.modes.alternateScreen = false) :
    (leaveScreen alternateScreenActive output).2.modes =
      { output.modes with alternateScreen := false } := by
  cases alternateScreenActive with
  | false =>
      have off := known rfl
      change output.modes = _
      rcases modes : output.modes with ⟨raw, alternate, paste⟩
      rw [modes] at off
      dsimp only at off
      rw [off]
  | true =>
      have neutral : ∀ other ∈ [ConsoleCommand.flush], other.neutral = true := by
        simp [ConsoleCommand.neutral]
      have reset := output.issue_modes (.write APPLICATION_CURSOR_OFF)
      rw [after_neutral rfl, ite_self] at reset
      rw [leave_screen_output] at restores ⊢
      have left := restores.issued_first rfl neutral
      rw [reset] at left
      exact left

variable (guard)

theorem deactivate_modes (active : guard.sessionTerminalActive = true)
    (taken : guard.output.modes =
      { raw := true, alternateScreen := guard.alternateScreenActive, bracketedPaste := true })
    (restores : guard.deactivateTerminal.2.output.Restores) :
    guard.deactivateTerminal.2.sessionTerminalActive = false ∧
      guard.deactivateTerminal.2.output.modes = .untouched := by
  have switched : ∀ command ∈ [ConsoleCommand.disableMouseCapture, .disableFocusChange, .flush],
      command.neutral = true := by simp [ConsoleCommand.neutral]
  have titles : ∀ command ∈ [ConsoleCommand.write guard.titleOutput.restoreRemoteTitle.1, .flush],
      command.neutral = true := by simp [ConsoleCommand.neutral]
  have still : ¬ guard.sessionTerminalActive = false := by simp [active]
  rw [deactivateTerminal, if_neg still] at restores ⊢
  dsimp only at restores ⊢
  refine ⟨rfl, ?_⟩
  have paste := @Console.Restores.issued_first Failure guard.output .disableBracketedPaste _ rfl switched
  generalize guard.output.issueAll [.disableBracketedPaste, .disableMouseCapture,
    .disableFocusChange, .flush] = first at *
  have title := first.2.neutral_modes titles
  have titleExtends := first.2.issue_all_extends
    [.write guard.titleOutput.restoreRemoteTitle.1, .flush]
  generalize first.2.issueAll [.write guard.titleOutput.restoreRemoteTitle.1, .flush] = second at *
  have screen := @leave_screen_modes Failure second.2 guard.alternateScreenActive
  have screenExtends := @leave_screen_extends Failure second.2 guard.alternateScreenActive
  generalize leaveScreen guard.alternateScreenActive second.2 = third at *
  have rawExtends := third.2.issue_extends .disableRawMode
  have raw := restores.issued rfl
  have thirdRestores := restores.earlier rawExtends
  have secondRestores := thirdRestores.earlier screenExtends
  have pasted := paste (secondRestores.earlier titleExtends)
  rw [taken] at pasted
  rw [pasted] at title
  have left := screen thirdRestores (fun off => by rw [title]; exact off)
  rw [title] at left
  rw [left] at raw
  exact raw

theorem deactivate_primary (primary : guard.alternateScreenActive = false)
    (known : guard.output.modes.alternateScreen = false) :
    guard.deactivateTerminal.2.output.modes.alternateScreen = false := by
  unfold deactivateTerminal
  split_ifs
  · exact known
  · rw [primary]
    apply Console.issue_primary _ (by decide)
    apply Console.issue_all_primary _ (by simp)
    exact Console.issue_all_primary _ (by simp) known

theorem deactivate_same_screen :
    guard.deactivateTerminal.2.alternateScreenActive = guard.alternateScreenActive := by
  unfold deactivateTerminal
  split_ifs
  · rfl
  · rfl

variable {guard}

theorem Held.deactivated {abandoned : Prop} (held : Held abandoned guard) :
    Held abandoned guard.deactivateTerminal.2 := by
  cases active : guard.sessionTerminalActive with
  | false =>
      rw [deactivateTerminal, if_pos active]
      exact held
  | true =>
      have modes := guard.deactivate_modes active (held.taken active)
      have inactive : guard.deactivateTerminal.2.sessionTerminalActive = false := by
        unfold deactivateTerminal
        split_ifs with off
        · exact off
        · rfl
      refine ⟨?_, ?_, ?_, ?_⟩
      · intro primary
        rw [deactivate_same_screen] at primary
        exact guard.deactivate_primary primary (held.plain primary)
      · intro wrong
        rw [inactive] at wrong
        cases wrong
      · intro _ restores
        rw [(modes restores).2]
        rfl
      · intro _ _ restores
        exact (modes restores).2

end Leaving

section Taking

variable {console next : Console Failure}

theorem enable_raw_ok (enabled : enableSessionRawMode console = (.ok (), next)) :
    next.modes = { console.modes with raw := true } ∧ console.issued <+: next.issued := by
  unfold enableSessionRawMode at enabled
  have firstExtends := console.issue_extends .enableRawMode
  rcases first : console.issue .enableRawMode with ⟨result, middle⟩
  rw [first] at enabled firstExtends
  cases result with
  | error failure => cases enabled
  | ok done =>
      dsimp only at enabled
      have secondExtends := middle.issue_extends .enableUtf8Input
      rcases second : middle.issue .enableUtf8Input with ⟨result, last⟩
      rw [second] at enabled secondExtends
      cases result with
      | error failure => cases enabled
      | ok done =>
          cases enabled
          have raw := console.issue_ok first
          have same := middle.issue_ok second
          rw [raw] at same
          exact ⟨same, firstExtends.trans secondExtends⟩

theorem enable_raw_failed {failure : Failure}
    (failed : enableSessionRawMode console = (.error failure, next))
    (cooked : console.modes.raw = false) (restores : next.Restores) :
    next.modes = console.modes := by
  unfold enableSessionRawMode at failed
  have firstModes := console.issue_modes .enableRawMode
  rcases first : console.issue .enableRawMode with ⟨result, middle⟩
  rw [first] at failed firstModes
  cases result with
  | error refused =>
      cases failed
      dsimp only at firstModes
      rw [firstModes]
      split_ifs with answered
      · unfold Console.issue at first
        rw [answered] at first
        cases first
      · rfl
  | ok done =>
      dsimp only at failed
      have raw := console.issue_ok first
      have secondModes := middle.issue_modes .enableUtf8Input
      rcases second : middle.issue .enableUtf8Input with ⟨result, last⟩
      rw [second] at failed secondModes
      cases result with
      | ok done => cases failed
      | error refused =>
          cases failed
          have off := restores.issued rfl
          rw [after_neutral rfl, ite_self] at secondModes
          dsimp only at secondModes
          rw [off, secondModes, raw]
          rcases modes : console.modes with ⟨before, alternate, paste⟩
          rw [modes] at cooked
          dsimp only at cooked
          rw [cooked]
          rfl

theorem enable_raw_extends : console.issued <+: (enableSessionRawMode console).2.issued := by
  unfold enableSessionRawMode
  have firstExtends := console.issue_extends .enableRawMode
  rcases first : console.issue .enableRawMode with ⟨result, middle⟩
  rw [first] at firstExtends
  cases result with
  | error failure => exact firstExtends
  | ok done =>
      dsimp only
      have secondExtends := middle.issue_extends .enableUtf8Input
      rcases second : middle.issue .enableUtf8Input with ⟨result, last⟩
      rw [second] at secondExtends
      cases result with
      | error failure =>
          exact (firstExtends.trans secondExtends).trans (last.issue_extends _)
      | ok done => exact firstExtends.trans secondExtends

theorem setup_ok {alternateScreenActive : Bool}
    (done : console.issueAll (setupCommands alternateScreenActive) = (.ok (), next))
    (raw : console.modes.raw = true)
    (primary : alternateScreenActive = false → console.modes.alternateScreen = false) :
    next.modes =
      { raw := true, alternateScreen := alternateScreenActive, bracketedPaste := true } := by
  rw [console.issue_all_ok done]
  rcases modes : console.modes with ⟨before, alternate, paste⟩
  rw [modes] at raw primary
  dsimp only at raw primary
  rw [raw]
  cases alternateScreenActive with
  | true => rfl
  | false =>
      rw [primary rfl]
      rfl

theorem setup_failed {alternateScreenActive : Bool} (restores : ((console.issueAll
      (setupCommands alternateScreenActive)).2.issue .disableRawMode).2.Restores) :
    ((console.issueAll (setupCommands alternateScreenActive)).2.issue
      .disableRawMode).2.modes.raw = false := by
  rw [restores.issued rfl]
  rfl

theorem setup_primary (primary : console.modes.alternateScreen = false) :
    (console.issueAll (setupCommands false)).2.modes.alternateScreen = false :=
  console.issue_all_primary (by simp [setupCommands]) primary

theorem enable_raw_primary (primary : console.modes.alternateScreen = false) :
    (enableSessionRawMode console).2.modes.alternateScreen = false := by
  unfold enableSessionRawMode
  have firstPrimary : (console.issue .enableRawMode).2.modes.alternateScreen = false :=
    console.issue_primary (by decide) primary
  rcases first : console.issue .enableRawMode with ⟨result, middle⟩
  rw [first] at firstPrimary
  cases result with
  | error failure => exact firstPrimary
  | ok done =>
      dsimp only
      have secondPrimary : (middle.issue .enableUtf8Input).2.modes.alternateScreen = false :=
        middle.issue_primary (by decide) firstPrimary
      rcases second : middle.issue .enableUtf8Input with ⟨result, last⟩
      rw [second] at secondPrimary
      cases result with
      | error failure => exact last.issue_primary (by decide) secondPrimary
      | ok done => exact secondPrimary

/-- What a resume comes to: the guard had the terminal, a console call failed, or the terminal
is taken and drawn upon. -/
inductive Resumption (guard : TerminalGuard terminal Failure) :
    Except Failure Unit → TerminalGuard terminal Failure → Prop
  | active (active : guard.sessionTerminalActive = true) : Resumption guard (.ok ()) guard
  | unraw (failure : Failure) (output : Console Failure)
      (inactive : guard.sessionTerminalActive = false)
      (enabled : enableSessionRawMode guard.output = (.error failure, output)) :
      Resumption guard (.error failure) { guard with output }
  | unset (failure : Failure) (raw output : Console Failure)
      (inactive : guard.sessionTerminalActive = false)
      (enabled : enableSessionRawMode guard.output = (.ok (), raw))
      (setup : raw.issueAll (setupCommands guard.alternateScreenActive) = (.error failure, output)) :
      Resumption guard (.error failure) { guard with output := (output.issue .disableRawMode).2 }
  | taken {result : Except Failure Unit} {after : TerminalGuard terminal Failure}
      (raw output : Console Failure) (inactive : guard.sessionTerminalActive = false)
      (enabled : enableSessionRawMode guard.output = (.ok (), raw))
      (setup : raw.issueAll (setupCommands guard.alternateScreenActive) = (.ok (), output))
      (drawn : Untouched
        { guard with output, sessionTerminalActive := true, localNoticeActive := false } after) :
      Resumption guard result after

theorem resume_cases (queries : ScreenQueries terminal) (guard : TerminalGuard terminal Failure) :
    Resumption guard (guard.resumeAfterSuspend queries).1 (guard.resumeAfterSuspend queries).2 := by
  unfold resumeAfterSuspend
  split_ifs with active
  · exact .active active
  · have inactive : guard.sessionTerminalActive = false := Bool.eq_false_of_not_eq_true active
    rcases enabled : enableSessionRawMode guard.output with ⟨result, raw⟩
    cases result with
    | error failure => exact .unraw failure raw inactive enabled
    | ok done =>
        dsimp only
        rcases setup : raw.issueAll (setupCommands guard.alternateScreenActive) with ⟨result, output⟩
        cases result with
        | error failure => exact .unset failure raw output inactive enabled setup
        | ok done =>
            apply Resumption.taken raw output inactive enabled setup
            dsimp only
            have redrawn := @redraw_untouched _ _ queries
              { guard with output, sessionTerminalActive := true, localNoticeActive := false }
            rcases drew : redrawAuthoritative queries
              { guard with output, sessionTerminalActive := true, localNoticeActive := false }
              with ⟨result, drawn⟩
            rw [drew] at redrawn
            cases result with
            | error failure => exact redrawn
            | ok done =>
                have retitled : Untouched drawn
                    { drawn with titleOutput := drawn.titleOutput.reapplyPolicy.2 } :=
                  ⟨rfl, rfl, rfl, List.prefix_refl _⟩
                exact redrawn.trans
                  (retitled.trans (write_bytes_untouched _ drawn.titleOutput.reapplyPolicy.1))

theorem resume_same_screen (queries : ScreenQueries terminal)
    (guard : TerminalGuard terminal Failure) :
    (guard.resumeAfterSuspend queries).2.alternateScreenActive = guard.alternateScreenActive := by
  have resumption := guard.resume_cases queries
  generalize guard.resumeAfterSuspend queries = outcome at resumption ⊢
  rcases outcome with ⟨result, after⟩
  cases resumption with
  | active active => rfl
  | unraw failure output _ _ => rfl
  | unset failure raw output _ _ _ => rfl
  | taken raw output _ _ _ drawn => exact drawn.alternate

theorem Held.resumed {abandoned : Prop} (held : Held abandoned guard)
    (queries : ScreenQueries terminal) :
    Held (abandoned ∨ (guard.resumeAfterSuspend queries).2.sessionTerminalActive = false)
        (guard.resumeAfterSuspend queries).2 ∧
      guard.output.issued <+: (guard.resumeAfterSuspend queries).2.output.issued := by
  have rawExtends : guard.output.issued <+: _ := enable_raw_extends
  have rawPrimary : guard.output.modes.alternateScreen = false → _ := enable_raw_primary
  have resumption := guard.resume_cases queries
  generalize guard.resumeAfterSuspend queries = outcome at resumption ⊢
  rcases outcome with ⟨result, after⟩
  cases resumption with
  | active active =>
      refine ⟨⟨held.plain, held.taken, held.cooked, ?_⟩, List.prefix_refl _⟩
      intro kept
      exact held.given fun before => kept (Or.inl before)
  | unraw failure output inactive enabled =>
      rw [enabled] at rawExtends rawPrimary
      refine ⟨⟨fun primary => rawPrimary (held.plain primary), ?_, ?_, ?_⟩, rawExtends⟩
      · intro wrong
        exact absurd (inactive.symm.trans wrong) Bool.false_ne_true
      · intro _ restores
        have before := held.cooked inactive (restores.earlier rawExtends)
        rw [← enable_raw_failed enabled before restores] at before
        exact before
      · intro kept
        exact absurd (Or.inr inactive) kept
  | unset failure raw output inactive enabled setup =>
      rw [enabled] at rawExtends rawPrimary
      have setupExtends := raw.issue_all_extends (setupCommands guard.alternateScreenActive)
      have failedRaw := @setup_failed _ raw guard.alternateScreenActive
      have setupPlain : guard.alternateScreenActive = false →
          (raw.issueAll (setupCommands guard.alternateScreenActive)).2.modes.alternateScreen =
            false := by
        intro primary
        rw [primary]
        exact setup_primary (rawPrimary (held.plain primary))
      rw [setup] at setupExtends setupPlain failedRaw
      refine ⟨⟨?_, ?_, ?_, ?_⟩, (rawExtends.trans setupExtends).trans (output.issue_extends _)⟩
      · intro primary
        exact output.issue_primary (by decide) (setupPlain primary)
      · intro wrong
        exact absurd (inactive.symm.trans wrong) Bool.false_ne_true
      · intro _ restores
        exact failedRaw restores
      · intro kept
        exact absurd (Or.inr inactive) kept
  | taken raw output inactive enabled setup drawn =>
      rw [enabled] at rawExtends rawPrimary
      have setupExtends := raw.issue_all_extends (setupCommands guard.alternateScreenActive)
      rw [setup] at setupExtends
      obtain ⟨rawModes, _⟩ := enable_raw_ok enabled
      have modes := setup_ok setup (by rw [rawModes])
        (fun primary => rawPrimary (held.plain primary))
      have taking (reached : Prop) : Held reached
          { guard with output, sessionTerminalActive := true, localNoticeActive := false } := by
        refine ⟨?_, fun _ => modes, ?_, ?_⟩
        · intro primary
          exact (congrArg LocalModes.alternateScreen modes).trans primary
        · intro wrong
          cases wrong
        · intro _ wrong
          cases wrong
      exact ⟨drawn.held (taking _), (rawExtends.trans setupExtends).trans drawn.extended⟩

end Taking

/-- A resume in the run that ended without the terminal. -/
def Abandoned (events : List (Step (TerminalGuard terminal Failure) GuardOperation
    (Except Failure Unit))) : Prop :=
  ∃ event ∈ events, event.input = .resumeAfterSuspend ∧ event.after.sessionTerminalActive = false

theorem Held.weaken {first second : Prop} (held : Held first guard) (implied : first → second) :
    Held second guard :=
  ⟨held.plain, held.taken, held.cooked, fun kept => held.given fun before => kept (implied before)⟩

theorem Held.operated {abandoned : Prop} (held : Held abandoned guard) (operation : GuardOperation) :
    Held (abandoned ∨ (operation = .resumeAfterSuspend ∧
      (guard.operate queries operation).2.sessionTerminalActive = false))
      (guard.operate queries operation).2 := by
  have writing (untouched : Untouched guard (guard.operate queries operation).2) :
      Held (abandoned ∨ (operation = .resumeAfterSuspend ∧
        (guard.operate queries operation).2.sessionTerminalActive = false))
        (guard.operate queries operation).2 :=
    (untouched.held held).weaken Or.inl
  cases operation with
  | writeServerBytes bytes => exact writing (guard.write_server_untouched bytes)
  | writeOverlayBytes bytes => exact writing (guard.write_bytes_untouched bytes)
  | writeLocalNotice bytes => exact writing (guard.write_notice_untouched bytes)
  | clearLocalNotice => exact writing guard.clear_untouched
  | redrawAuthoritative => exact writing guard.redraw_untouched
  | resizeModel columns rows => exact writing ⟨rfl, rfl, rfl, List.prefix_refl _⟩
  | leaveForSuspend =>
      have quiet : Held abandoned { guard with localNoticeActive := false } :=
        ⟨held.plain, held.taken, held.cooked, held.given⟩
      exact quiet.deactivated.weaken Or.inl
  | resumeAfterSuspend =>
      refine (held.resumed queries).1.weaken ?_
      rintro (before | left)
      · exact Or.inl before
      · exact Or.inr ⟨rfl, left⟩

theorem operate_same_screen (operation : GuardOperation) :
    (guard.operate queries operation).2.alternateScreenActive = guard.alternateScreenActive := by
  cases operation with
  | writeServerBytes bytes => exact (guard.write_server_untouched bytes).alternate
  | writeOverlayBytes bytes => exact (guard.write_bytes_untouched bytes).alternate
  | writeLocalNotice bytes => exact (guard.write_notice_untouched bytes).alternate
  | clearLocalNotice => exact guard.clear_untouched.alternate
  | redrawAuthoritative => exact guard.redraw_untouched.alternate
  | resizeModel columns rows => rfl
  | leaveForSuspend => exact deactivate_same_screen { guard with localNoticeActive := false }
  | resumeAfterSuspend => exact resume_same_screen queries guard

theorem run_same_screen (start : TerminalGuard terminal Failure) (operations : List GuardOperation) :
    (final (operate queries) start operations).alternateScreenActive = start.alternateScreenActive := by
  apply invariant_final (operate queries)
    (fun guard => guard.alternateScreenActive = start.alternateScreenActive) _ rfl
  intro guard operation same
  exact (operate_same_screen operation).trans same

theorem entered_held {size : Except Failure (UInt16 × UInt16)} {skipInitialization : Bool}
    {titlePolicy : TitlePolicy} {console next : Console Failure} (fresh : console.issued = [])
    (entered : enterWithTitlePolicy size skipInitialization titlePolicy console = (.ok guard, next)) :
    Held False guard ∧ guard.sessionTerminalActive = true ∧
      guard.alternateScreenActive = !skipInitialization := by
  have start : console.modes = .untouched := by
    rw [Console.modes, fresh]
    rfl
  unfold enterWithTitlePolicy at entered
  cases size with
  | error failure => cases entered
  | ok viewport =>
      dsimp only at entered
      rcases enabled : enableSessionRawMode console with ⟨result, output⟩
      rw [enabled] at entered
      cases result with
      | error failure => cases entered
      | ok done =>
          dsimp only at entered
          rcases setup : output.issueAll (setupCommands !skipInitialization) with ⟨result, taken⟩
          rw [setup] at entered
          cases result with
          | error failure => cases entered
          | ok done =>
              cases entered
              obtain ⟨raw, _⟩ := enable_raw_ok enabled
              have modes := setup_ok setup (by rw [raw]) (fun _ => by rw [raw, start]; rfl)
              refine ⟨⟨?_, fun _ => modes, ?_, ?_⟩, rfl, rfl⟩
              · intro primary
                exact (congrArg LocalModes.alternateScreen modes).trans primary
              · intro wrong
                cases wrong
              · intro _ wrong
                cases wrong

theorem entry_failed {size : Except Failure (UInt16 × UInt16)} {skipInitialization : Bool}
    {titlePolicy : TitlePolicy} {console next : Console Failure} {failure : Failure}
    (fresh : console.issued = [])
    (failed : @enterWithTitlePolicy terminal _ size skipInitialization titlePolicy console =
      (.error failure, next)) (restores : next.Restores) : next.modes.raw = false := by
  have cooked : console.modes.raw = false := by
    rw [Console.modes, fresh]
    rfl
  unfold enterWithTitlePolicy at failed
  cases size with
  | error failure =>
      cases failed
      exact cooked
  | ok viewport =>
      dsimp only at failed
      rcases enabled : enableSessionRawMode console with ⟨result, output⟩
      rw [enabled] at failed
      cases result with
      | error failure =>
          cases failed
          rw [enable_raw_failed enabled cooked restores]
          exact cooked
      | ok done =>
          dsimp only at failed
          rcases setup : output.issueAll (setupCommands !skipInitialization) with ⟨result, taken⟩
          rw [setup] at failed
          cases result with
          | ok done => cases failed
          | error failure =>
              cases failed
              rw [restores.issued rfl]
              rfl

theorem drop_inactive (guard : TerminalGuard terminal Failure) :
    guard.drop.sessionTerminalActive = false := by
  unfold drop deactivateTerminal
  split_ifs with inactive
  · exact inactive
  · rfl

theorem run_held {start : TerminalGuard terminal Failure} (held : Held False start)
    (operations : List GuardOperation) :
    Held (Abandoned (trace (operate queries) start operations))
      (final (operate queries) start operations) := by
  induction operations using List.reverseRecOn with
  | nil => exact held.weaken False.elim
  | append_singleton operations operation induction =>
      rw [final_concat]
      refine (induction.operated operation).weaken ?_
      rintro (⟨event, member, resumed⟩ | ⟨resumed, left⟩)
      · exact ⟨event, (mem_trace_concat ..).mpr (Or.inl member), resumed⟩
      · exact ⟨_, (mem_trace_concat ..).mpr (Or.inr rfl), resumed, left⟩

instance (console : Console Failure) : Decidable console.Restores :=
  inferInstanceAs (Decidable (∀ entry ∈ console.issued, entry.1.restoring = true → entry.2 = none))

instance (events : List (Step (TerminalGuard terminal Failure) GuardOperation
    (Except Failure Unit))) : Decidable (Abandoned events) :=
  inferInstanceAs (Decidable (∃ event ∈ events, _ ∧ _))

/-- A console on which a command fails the given time it is issued. -/
def failingConsole (command : ConsoleCommand) (time : Nat) : Console Unit where
  answers issued asked :=
    if asked = command ∧ (issued.filter fun entry => entry.1 == command).length + 1 = time then
      some ()
    else none
  issued := []

/-- A resume that fails in the middle leaves the alternate screen behind. -/
example : ∃ start next, @enterWithTitlePolicy lineTerminal Unit (.ok (80, 24)) false .moshPrefix
      (failingConsole .enableBracketedPaste 2) = (.ok start, next) ∧
    (final (operate lineQueries) start [.leaveForSuspend, .resumeAfterSuspend]).drop.output.modes =
      { raw := false, alternateScreen := true, bracketedPaste := false } :=
  ⟨_, _, rfl, by decide +kernel⟩

end TerminalGuard

end FerrumTty.Terminal
