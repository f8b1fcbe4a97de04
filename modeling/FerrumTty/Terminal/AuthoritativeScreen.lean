import FerrumTty.State.LineTerminal
import FerrumTty.Terminal.MouseReports

/-!
# The authoritative screen

`AuthoritativeScreen` of `ferrumtty-terminal`: a `vt100` screen for what the remote application
shows, and a second `vte` parser for the modes that `vt100` does not report. The queries of the
screen are a parameter, as the screen itself is.
-/

namespace FerrumTty.Terminal

set_option autoImplicit false

open Crypto State Predict

inductive CursorShape where
  | default
  | blinkingBlock
  | steadyBlock
  | blinkingUnderline
  | steadyUnderline
  | blinkingBar
  | steadyBar
  deriving DecidableEq, Repr

inductive TerminalMode where
  | disabled
  | enabled
  deriving DecidableEq, Repr

/-- `From<bool>`. -/
def TerminalMode.ofBool (enabled : Bool) : TerminalMode := if enabled then .enabled else .disabled

structure RemoteTerminalModes where
  cursorKey : CursorKeyMode
  applicationKeypad : Bool
  bracketedPaste : Bool
  mouseTracking : MouseTrackingMode
  mouseEncoding : MouseEncoding
  focusReporting : Bool
  insertMode : TerminalMode
  originMode : TerminalMode
  autoWrap : TerminalMode
  cursorVisible : TerminalMode
  cursorShape : CursorShape
  alternateScreen : TerminalMode
  scrollRegion : Option (UInt16 × UInt16)
  deriving DecidableEq, Repr

/-- What `vt100::Screen` answers. -/
structure ScreenQueries (terminal : Terminal) where
  applicationCursor : terminal.Screen → Bool
  applicationKeypad : terminal.Screen → Bool
  bracketedPaste : terminal.Screen → Bool
  mouseProtocolMode : terminal.Screen → MouseTrackingMode
  mouseProtocolEncoding : terminal.Screen → MouseEncoding
  hideCursor : terminal.Screen → Bool
  alternateScreen : terminal.Screen → Bool
  cursorPosition : terminal.Screen → UInt16 × UInt16
  contentsFormatted : terminal.Screen → Bytes
  attributesFormatted : terminal.Screen → Bytes
  cursorStateFormatted : terminal.Screen → Bytes

structure FocusReportingState where
  enabled : Bool
  insertMode : TerminalMode
  originMode : TerminalMode
  autoWrap : TerminalMode
  cursorShape : CursorShape
  scrollRegion : Option (UInt16 × UInt16)
  title : Option String
  deriving DecidableEq, Repr

namespace FocusReportingState

def default : FocusReportingState where
  enabled := false
  insertMode := .disabled
  originMode := .disabled
  autoWrap := .enabled
  cursorShape := .default
  scrollRegion := none
  title := none

/-- One parameter of a private mode sequence. -/
def setPrivateMode (enabled : Bool) (state : FocusReportingState) :
    List UInt16 → FocusReportingState
  | [6] => { state with originMode := .ofBool enabled }
  | [7] => { state with autoWrap := .ofBool enabled }
  | [1004] => { state with enabled := enabled }
  | _ => state

/-- The first two parameters, if they are margins. -/
def margins (params : List (List UInt16)) : Option (UInt16 × UInt16) :=
  match params.filterMap List.head? with
  | top :: bottom :: _ => if top > 0 ∧ bottom ≥ top then some (top, bottom) else none
  | _ => none

def cursorShapeOf (params : List (List UInt16)) : CursorShape :=
  match (params.head?.bind List.head?).getD 0 with
  | 1 => .blinkingBlock
  | 2 => .steadyBlock
  | 3 => .blinkingUnderline
  | 4 => .steadyUnderline
  | 5 => .blinkingBar
  | 6 => .steadyBar
  | _ => .default

def csiDispatch (state : FocusReportingState) (params : List (List UInt16)) (intermediates : Bytes)
    (ignore : Bool) (action : Char) : FocusReportingState :=
  if ignore then state
  else if intermediates = [0x3f] ∧ (action = 'h' ∨ action = 'l') then
    params.foldl (setPrivateMode (action == 'h')) state
  else if intermediates = [] ∧ (action = 'h' ∨ action = 'l') then
    if params.any (· == [4]) then { state with insertMode := .ofBool (action == 'h') } else state
  else if intermediates = [] ∧ action = 'r' then { state with scrollRegion := margins params }
  else if intermediates = [0x20] ∧ action = 'q' then
    { state with cursorShape := cursorShapeOf params }
  else state

/-- The semicolons of a title separate parameters, so they are put back between them. -/
def oscDispatch (state : FocusReportingState) (params : List Bytes) : FocusReportingState :=
  match params with
  | [] => state
  | command :: parts =>
      if command ≠ [] ∧ command ≠ [0x30] ∧ command ≠ [0x32] then state
      else
        match String.fromUTF8? (List.toByteArray (List.intercalate [0x3b] parts)) with
        | some title => { state with title := some title }
        | none => state

def escDispatch (state : FocusReportingState) (intermediates : Bytes) (ignore : Bool)
    (byte : UInt8) : FocusReportingState :=
  if ignore = false ∧ intermediates = [] ∧ byte = 0x63 then .default else state

/-- The other methods of `vte::Perform` keep their empty defaults. -/
def perform (state : FocusReportingState) : Callback → FocusReportingState
  | .csiDispatch params intermediates ignore action =>
      state.csiDispatch params intermediates ignore action
  | .oscDispatch params _ => state.oscDispatch params
  | .escDispatch intermediates ignore byte => state.escDispatch intermediates ignore byte
  | _ => state

end FocusReportingState

variable {terminal : Terminal}

structure AuthoritativeScreen (terminal : Terminal) where
  parser : Parser terminal
  focusParser : terminal.ParserState
  focusState : FocusReportingState

namespace AuthoritativeScreen

def new (columns rows : UInt16) : AuthoritativeScreen terminal where
  parser := .new rows columns
  focusParser := terminal.parserStart
  focusState := .default

def process (screen : AuthoritativeScreen terminal) (bytes : Bytes) :
    AuthoritativeScreen terminal where
  parser := screen.parser.process bytes
  focusParser := (terminal.advanceAll screen.focusParser bytes).1
  focusState :=
    (terminal.advanceAll screen.focusParser bytes).2.foldl FocusReportingState.perform
      screen.focusState

def resize (screen : AuthoritativeScreen terminal) (columns rows : UInt16) :
    AuthoritativeScreen terminal where
  parser := screen.parser.setSize rows columns
  focusParser := screen.focusParser
  focusState := { screen.focusState with scrollRegion := none }

section Queries

variable (queries : ScreenQueries terminal) (screen : AuthoritativeScreen terminal)

def formatted : Bytes := queries.contentsFormatted screen.parser.screen

def remoteModes : RemoteTerminalModes where
  cursorKey :=
    if queries.applicationCursor screen.parser.screen then .application else .normal
  applicationKeypad := queries.applicationKeypad screen.parser.screen
  bracketedPaste := queries.bracketedPaste screen.parser.screen
  mouseTracking := queries.mouseProtocolMode screen.parser.screen
  mouseEncoding := queries.mouseProtocolEncoding screen.parser.screen
  focusReporting := screen.focusState.enabled
  insertMode := screen.focusState.insertMode
  originMode := screen.focusState.originMode
  autoWrap := screen.focusState.autoWrap
  cursorVisible := .ofBool (!queries.hideCursor screen.parser.screen)
  cursorShape := screen.focusState.cursorShape
  alternateScreen := .ofBool (queries.alternateScreen screen.parser.screen)
  scrollRegion := screen.focusState.scrollRegion

def remoteTitle : Option String := screen.focusState.title

def predictionCursorContext : PredictionContext where
  row := (queries.cursorPosition screen.parser.screen).1
  column := (queries.cursorPosition screen.parser.screen).2
  columns := (terminal.size screen.parser.screen.1).2
  attributes := queries.attributesFormatted screen.parser.screen
  cursorState := queries.cursorStateFormatted screen.parser.screen

end Queries

end AuthoritativeScreen

/-- The queries of the one-line terminal, which has no modes. -/
def lineQueries : ScreenQueries lineTerminal where
  applicationCursor _ := false
  applicationKeypad _ := false
  bracketedPaste _ := false
  mouseProtocolMode _ := .disabled
  mouseProtocolEncoding _ := .default
  hideCursor _ := false
  alternateScreen _ := false
  cursorPosition screen := (0, UInt16.ofNat screen.1.cursor)
  contentsFormatted screen := screen.1.formatted
  attributesFormatted _ := []
  cursorStateFormatted _ := []

end FerrumTty.Terminal
