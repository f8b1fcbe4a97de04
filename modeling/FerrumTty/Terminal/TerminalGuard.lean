import FerrumTty.Terminal.AuthoritativeScreen
import FerrumTty.Terminal.TitleFilter

/-!
# The terminal guard

`TerminalGuard` of `ferrumtty-terminal`: how the client takes the local terminal over, writes to it
and gives it back. Every call to the operating system may fail; a console answers each call
by the calls before it, so that its failures are arbitrary.
-/

namespace FerrumTty.Terminal

set_option autoImplicit false

open Crypto State Predict

/-- What the guard asks of the operating system and of the terminal behind standard output. The
commands of `crossterm` are written to standard output like other bytes. -/
inductive ConsoleCommand where
  | enableRawMode
  | enableUtf8Input
  | disableRawMode
  | enterAlternateScreen
  | leaveAlternateScreen
  | enableBracketedPaste
  | disableBracketedPaste
  | disableMouseCapture
  | disableFocusChange
  | write (bytes : Bytes)
  | flush
  | raiseSuspend
  deriving DecidableEq, Repr

/-- The calls so far with what failed of them, and the answers to come. -/
structure Console (Failure : Type) where
  answers : List (ConsoleCommand × Option Failure) → ConsoleCommand → Option Failure
  issued : List (ConsoleCommand × Option Failure)

namespace Console

variable {Failure : Type}

def issue (console : Console Failure) (command : ConsoleCommand) :
    Except Failure Unit × Console Failure :=
  let failure := console.answers console.issued command
  (match failure with
    | some failure => .error failure
    | none => .ok (),
    { console with issued := console.issued ++ [(command, failure)] })

def issueAll (console : Console Failure) :
    List ConsoleCommand → Except Failure Unit × Console Failure
  | [] => (.ok (), console)
  | command :: rest =>
      match console.issue command with
      | (.error failure, console) => (.error failure, console)
      | (.ok (), console) => console.issueAll rest

end Console

section Setup

variable {Failure : Type}

def enableSessionRawMode (console : Console Failure) : Except Failure Unit × Console Failure :=
  match console.issue .enableRawMode with
  | (.error failure, console) => (.error failure, console)
  | (.ok (), console) =>
      match console.issue .enableUtf8Input with
      | (.error failure, console) => (.error failure, (console.issue .disableRawMode).2)
      | (.ok (), console) => (.ok (), console)

/-- `\x1b[?1h` and `\x1b[?1l` -/
def APPLICATION_CURSOR_ON : Bytes := [0x1b, 0x5b, 0x3f, 0x31, 0x68]
def APPLICATION_CURSOR_OFF : Bytes := [0x1b, 0x5b, 0x3f, 0x31, 0x6c]

/-- The terminal sequences of `enter` and `resume_after_suspend`. -/
def setupCommands (alternateScreenActive : Bool) : List ConsoleCommand :=
  if alternateScreenActive then
    [.enterAlternateScreen, .enableBracketedPaste, .flush, .write APPLICATION_CURSOR_ON, .flush]
  else [.enableBracketedPaste, .flush]

end Setup

structure TerminalGuard (terminal : Terminal) (Failure : Type) where
  output : Console Failure
  authoritative : AuthoritativeScreen terminal
  titleOutput : TitleOutputFilter
  alternateScreenActive : Bool
  sessionTerminalActive : Bool
  localNoticeActive : Bool

/-- `first_error.get_or_insert(error)` over the results in turn. -/
def firstError {Failure : Type} : List (Except Failure Unit) → Except Failure Unit
  | [] => .ok ()
  | .error failure :: _ => .error failure
  | .ok () :: rest => firstError rest

/-- The part of `deactivate_terminal` that leaves the alternate screen. -/
def leaveScreen {Failure : Type} (alternateScreenActive : Bool) (output : Console Failure) :
    Except Failure Unit × Console Failure :=
  if alternateScreenActive then
    let (reset, output) := output.issue (.write APPLICATION_CURSOR_OFF)
    let (left, output) := output.issueAll [.leaveAlternateScreen, .flush]
    (firstError [reset, left], output)
  else (.ok (), output)

namespace TerminalGuard

variable {terminal : Terminal} {Failure : Type}

/-- `size` is what `terminal_size` returns. -/
def enterWithTitlePolicy (size : Except Failure (UInt16 × UInt16)) (skipInitialization : Bool)
    (titlePolicy : TitlePolicy) (console : Console Failure) :
    Except Failure (TerminalGuard terminal Failure) × Console Failure :=
  match size with
  | .error failure => (.error failure, console)
  | .ok (columns, rows) =>
      match enableSessionRawMode console with
      | (.error failure, console) => (.error failure, console)
      | (.ok (), console) =>
          let alternateScreenActive := !skipInitialization
          match console.issueAll (setupCommands alternateScreenActive) with
          | (.error failure, console) =>
              let console :=
                if alternateScreenActive then
                  (console.issueAll [.leaveAlternateScreen, .flush]).2
                else console
              (.error failure, (console.issue .disableRawMode).2)
          | (.ok (), console) =>
              (.ok
                { output := console
                  authoritative := .new columns rows
                  titleOutput := .new titlePolicy
                  alternateScreenActive
                  sessionTerminalActive := true
                  localNoticeActive := false }, console)

variable (queries : ScreenQueries terminal) (guard : TerminalGuard terminal Failure)

def writeBytes (bytes : Bytes) : Except Failure Unit × TerminalGuard terminal Failure :=
  let (result, output) := guard.output.issueAll [.write bytes, .flush]
  (result, { guard with output })

def redrawAuthoritative : Except Failure Unit × TerminalGuard terminal Failure :=
  guard.writeBytes (guard.authoritative.formatted queries)

def clearLocalNotice : Except Failure Unit × TerminalGuard terminal Failure :=
  if guard.localNoticeActive = false then (.ok (), guard)
  else { guard with localNoticeActive := false }.redrawAuthoritative queries

def writeServerBytes (bytes : Bytes) : Except Failure Unit × TerminalGuard terminal Failure :=
  match guard.clearLocalNotice queries with
  | (.error failure, guard) => (.error failure, guard)
  | (.ok (), guard) =>
      let (filtered, titleOutput) := guard.titleOutput.process bytes
      { guard with authoritative := guard.authoritative.process bytes, titleOutput }.writeBytes
        filtered

def writeOverlayBytes (bytes : Bytes) : Except Failure Unit × TerminalGuard terminal Failure :=
  guard.writeBytes bytes

def writeLocalNotice (bytes : Bytes) : Except Failure Unit × TerminalGuard terminal Failure :=
  match guard.clearLocalNotice queries with
  | (.error failure, guard) => (.error failure, guard)
  | (.ok (), guard) =>
      match guard.writeBytes bytes with
      | (.error failure, guard) => (.error failure, guard)
      | (.ok (), guard) => (.ok (), { guard with localNoticeActive := true })

def resizeModel (columns rows : UInt16) : TerminalGuard terminal Failure :=
  { guard with authoritative := guard.authoritative.resize columns rows }

/-- Each step is taken whatever became of the steps before it. -/
def deactivateTerminal : Except Failure Unit × TerminalGuard terminal Failure :=
  if guard.sessionTerminalActive = false then (.ok (), guard)
  else
    let (modes, output) := guard.output.issueAll
      [.disableBracketedPaste, .disableMouseCapture, .disableFocusChange, .flush]
    let (remoteTitle, titleOutput) := guard.titleOutput.restoreRemoteTitle
    let (titled, output) := output.issueAll [.write remoteTitle, .flush]
    let (left, output) := leaveScreen guard.alternateScreenActive output
    let (cooked, output) := output.issue .disableRawMode
    (firstError [modes, titled, left, cooked],
      { guard with output, titleOutput, sessionTerminalActive := false })

def leaveForSuspend : Except Failure Unit × TerminalGuard terminal Failure :=
  { guard with localNoticeActive := false }.deactivateTerminal

def resumeAfterSuspend : Except Failure Unit × TerminalGuard terminal Failure :=
  if guard.sessionTerminalActive then (.ok (), guard)
  else
    match enableSessionRawMode guard.output with
    | (.error failure, output) => (.error failure, { guard with output })
    | (.ok (), output) =>
        match output.issueAll (setupCommands guard.alternateScreenActive) with
        | (.error failure, output) =>
            (.error failure, { guard with output := (output.issue .disableRawMode).2 })
        | (.ok (), output) =>
            let guard :=
              { guard with output, sessionTerminalActive := true, localNoticeActive := false }
            match guard.redrawAuthoritative queries with
            | (.error failure, guard) => (.error failure, guard)
            | (.ok (), guard) =>
                let (title, titleOutput) := guard.titleOutput.reapplyPolicy
                { guard with titleOutput }.writeBytes title

/-- `Drop` -/
def drop : TerminalGuard terminal Failure := guard.deactivateTerminal.2

end TerminalGuard

end FerrumTty.Terminal
