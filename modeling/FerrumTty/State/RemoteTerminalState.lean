import FerrumTty.State.History

/-!
# Remote terminal state

`RemoteTerminalState` of `ferrumtty-state`. The `vte` parser and the `vt100` screen
are libraries outside this repository and enter as the parameter `Terminal`: a
byte-wise parser that reports callbacks, and a screen that performs them.
-/

namespace FerrumTty.State

set_option autoImplicit false

open Crypto Wire

/-- The methods of `vte::Perform`. -/
inductive Callback where
  | print (character : Char)
  | execute (byte : UInt8)
  | hook (params : List (List UInt16)) (intermediates : Bytes) (ignore : Bool) (action : Char)
  | put (byte : UInt8)
  | unhook
  | oscDispatch (params : List Bytes) (bellTerminated : Bool)
  | csiDispatch (params : List (List UInt16)) (intermediates : Bytes) (ignore : Bool) (action : Char)
  | escDispatch (intermediates : Bytes) (ignore : Bool) (byte : UInt8)
  deriving DecidableEq, Repr

/-- A parser state stands for all that the parser does from there on. A screen has a
visible part and a hidden one (margins, saved cursor, alternate grid). Sizes are rows
before columns, as `vt100` has them. -/
structure Terminal where
  ParserState : Type
  parserStart : ParserState
  advance : ParserState → UInt8 → ParserState × List Callback
  Visible : Type
  Hidden : Type
  size : Visible → UInt16 × UInt16
  blank : UInt16 → UInt16 → Visible × Hidden
  perform : Visible × Hidden → Callback → Visible × Hidden
  setSize : Visible × Hidden → UInt16 → UInt16 → Visible × Hidden
  stateFormatted : Visible × Hidden → Bytes
  stateDiff : Visible × Hidden → Visible × Hidden → Bytes

variable {terminal : Terminal}

abbrev Terminal.Screen (terminal : Terminal) : Type := terminal.Visible × terminal.Hidden

/-- `advance` over a slice, with the callbacks in the order they are made. -/
def Terminal.advanceAll (terminal : Terminal) :
    terminal.ParserState → Bytes → terminal.ParserState × List Callback
  | state, [] => (state, [])
  | state, byte :: bytes =>
      let (next, callbacks) := terminal.advance state byte
      let (last, later) := terminal.advanceAll next bytes
      (last, callbacks ++ later)

/-- `vt100::Parser`. -/
structure Parser (terminal : Terminal) where
  state : terminal.ParserState
  screen : terminal.Screen

namespace Parser

def new (rows columns : UInt16) : Parser terminal where
  state := terminal.parserStart
  screen := terminal.blank rows columns

def process (parser : Parser terminal) (bytes : Bytes) : Parser terminal where
  state := (terminal.advanceAll parser.state bytes).1
  screen := (terminal.advanceAll parser.state bytes).2.foldl terminal.perform parser.screen

def setSize (parser : Parser terminal) (rows columns : UInt16) : Parser terminal :=
  { parser with screen := terminal.setSize parser.screen rows columns }

end Parser

structure ScreenDiffAudit where
  reconstructible : Bool
  auditing : Bool
  probing : Bool
  probePrints : Nat
  probeOtherActions : Nat
  deriving DecidableEq, Repr

namespace ScreenDiffAudit

def default : ScreenDiffAudit where
  reconstructible := true
  auditing := false
  probing := false
  probePrints := 0
  probeOtherActions := 0

def beginTailAudit (audit : ScreenDiffAudit) : ScreenDiffAudit :=
  { audit with auditing := true, reconstructible := true }

def beginBoundaryProbe (audit : ScreenDiffAudit) : ScreenDiffAudit :=
  { audit with probing := true, probePrints := 0, probeOtherActions := 0 }

def probeIsGround (audit : ScreenDiffAudit) : Bool :=
  audit.probePrints = 1 ∧ audit.probeOtherActions = 0

def recordOtherAction (audit : ScreenDiffAudit) : ScreenDiffAudit :=
  if audit.probing then { audit with probeOtherActions := audit.probeOtherActions + 1 }
  else if audit.auditing then { audit with reconstructible := false }
  else audit

def perform (audit : ScreenDiffAudit) : Callback → ScreenDiffAudit
  | .print character =>
      if audit.probing then
        { audit with
          probePrints := audit.probePrints + if character = '~' then 1 else 0
          probeOtherActions := audit.probeOtherActions + if character ≠ '~' then 1 else 0 }
      else audit
  | .execute byte =>
      if audit.probing then { audit with probeOtherActions := audit.probeOtherActions + 1 }
      else if audit.auditing ∧ byte ∉ [0x08, 0x09, 0x0a, 0x0d] then
        { audit with reconstructible := false }
      else audit
  | _ => audit.recordOtherAction

end ScreenDiffAudit

/-- A `vte::Parser` together with the audit it reports to. -/
structure AuditedParser (terminal : Terminal) where
  state : terminal.ParserState
  audit : ScreenDiffAudit

namespace AuditedParser

def new : AuditedParser terminal where
  state := terminal.parserStart
  audit := .default

def advance (parser : AuditedParser terminal) (bytes : Bytes) : AuditedParser terminal where
  state := (terminal.advanceAll parser.state bytes).1
  audit := (terminal.advanceAll parser.state bytes).2.foldl ScreenDiffAudit.perform parser.audit

def advanceHostBytes (parser : AuditedParser terminal) : StateOperation → AuditedParser terminal
  | .hostBytes bytes => parser.advance bytes
  | _ => parser

/-- The probe with a printable character, and its verdict. -/
def probe (parser : AuditedParser terminal) : Bool :=
  let parser := { parser with audit := parser.audit.beginBoundaryProbe }
  (parser.advance [0x7e]).audit.probeIsGround

end AuditedParser

def historyTailIsScreenDiffSafe (terminal : Terminal) (common tail : List StateOperation) : Bool :=
  let parser : AuditedParser terminal := common.foldl AuditedParser.advanceHostBytes .new
  let parser := { parser with audit := parser.audit.beginTailAudit }
  if tail.any StateOperation.isResize then false
  else (tail.foldl AuditedParser.advanceHostBytes parser).probe

def divergedHistoriesAreScreenDiffSafe (terminal : Terminal)
    (target delivered : List StateOperation) : Bool :=
  let (common, targetTail, deliveredTail) := splitCommonHistory target delivered
  historyTailIsScreenDiffSafe terminal common targetTail &&
    historyTailIsScreenDiffSafe terminal common deliveredTail

def historyEndsAtGround (terminal : Terminal) (operations : List StateOperation) : Bool :=
  (operations.foldl AuditedParser.advanceHostBytes (.new : AuditedParser terminal)).probe

/-- `u16::try_from` -/
def narrow (value : UInt64) : Option UInt16 :=
  if value.toNat < 2 ^ 16 then some value.toUInt16 else none

def validateViewport (columns rows : UInt64) : Except StateError Unit :=
  if columns = 0 ∨ rows = 0 ∨ (narrow columns).isNone ∨ (narrow rows).isNone then
    .error .invalidViewport
  else .ok ()

/-- Lengths of slices in memory add up without overflow, so the sums are plain. -/
def growthStep (grown : Nat × Nat × ViewportSize) (instruction : Instruction) :
    Nat × Nat × ViewportSize :=
  let (bytes, operations, viewport) := grown
  let added := instruction.bytes.elim [] ByteRun.value
  let (resized, viewport) :=
    match instruction.viewport with
    | some next => if viewport ≠ next then (1, next) else (0, viewport)
    | none => (0, viewport)
  (bytes + added.length,
    operations + (if added.isEmpty then 0 else 1) + resized +
      if instruction.sessionControl.isSome then 1 else 0,
    viewport)

def historyGrowth (batch : InstructionBatch) (initialViewport : ViewportSize) : Nat × Nat :=
  let (bytes, operations, _) := batch.instructions.foldl growthStep (0, 0, initialViewport)
  (bytes, operations)

def validateHistorySize (retainedBytes operationCount additionalBytes additionalOperations : Nat) :
    Except StateError Unit :=
  if retainedBytes + additionalBytes > MAX_RETAINED_HOST_BYTES ∨
      operationCount + additionalOperations > MAX_RETAINED_OPERATIONS then
    .error .historyLimitExceeded
  else .ok ()

structure RemoteTerminalState (terminal : Terminal) where
  initialColumns : UInt16
  initialRows : UInt16
  parser : Parser terminal
  history : StateHistory
  viewport : ViewportSize
  echoAck : Option UInt64

namespace RemoteTerminalState

def new (columns rows : UInt16) : Except StateError (RemoteTerminalState terminal) := do
  validateViewport columns.toUInt64 rows.toUInt64
  .ok
    { initialColumns := columns
      initialRows := rows
      parser := .new rows columns
      history := .empty
      viewport := viewportOf columns rows
      echoAck := none }

def applyHostBytes (state : RemoteTerminalState terminal) (bytes : Bytes) :
    RemoteTerminalState terminal :=
  let state := { state with parser := state.parser.process bytes }
  if bytes.isEmpty then state
  else
    let history :=
      { state.history with retainedBytes := state.history.retainedBytes + bytes.length }
    { state with history := history.push (.hostBytes bytes) }

def applyResize (state : RemoteTerminalState terminal) (columns rows : UInt16) :
    RemoteTerminalState terminal :=
  if state.viewport.columns = columns.toUInt64 ∧ state.viewport.rows = rows.toUInt64 then state
  else
    { state with
      parser := state.parser.setSize rows columns
      viewport := viewportOf columns rows
      history := state.history.push (.resize columns rows) }

def applyViewport (state : RemoteTerminalState terminal) (viewport : ViewportSize) :
    Except StateError (RemoteTerminalState terminal) :=
  match narrow viewport.columns, narrow viewport.rows with
  | some columns, some rows => .ok (state.applyResize columns rows)
  | _, _ => .error .invalidViewport

def recordMarker (state : RemoteTerminalState terminal) : Option Marker → RemoteTerminalState terminal
  | some marker => { state with echoAck := some marker.value }
  | none => state

def recordSessionControl (state : RemoteTerminalState terminal) :
    Option SessionControl → RemoteTerminalState terminal
  | some control => { state with history := state.history.push (.sessionControl control) }
  | none => state

def applyInstruction (state : RemoteTerminalState terminal) (instruction : Instruction) :
    Except StateError (RemoteTerminalState terminal) := do
  let state := instruction.bytes.elim state fun run => state.applyHostBytes run.value
  let state ← instruction.viewport.elim (.ok state) state.applyViewport
  .ok ((state.recordMarker instruction.marker).recordSessionControl instruction.sessionControl)

def validateHistoryGrowth (state : RemoteTerminalState terminal) (batch : InstructionBatch) :
    Except StateError Unit :=
  let (additionalBytes, additionalOperations) := historyGrowth batch state.viewport
  validateHistorySize state.history.retainedBytes state.history.operationCount additionalBytes
    additionalOperations

def compactedHistory (state : RemoteTerminalState terminal) (batch : InstructionBatch) :
    Except StateError (StateHistory × UInt16 × UInt16) :=
  if !historyEndsAtGround terminal state.history.canonicalOperations then
    .error .historyLimitExceeded
  else do
    let snapshot := terminal.stateFormatted state.parser.screen
    let (additionalBytes, additionalOperations) := historyGrowth batch state.viewport
    let snapshotOperations := if snapshot.isEmpty then 0 else 1
    validateHistorySize snapshot.length snapshotOperations additionalBytes additionalOperations
    match narrow state.viewport.columns, narrow state.viewport.rows with
    | some columns, some rows =>
        .ok
          ({ tail := byteRun snapshot
             operationCount := snapshotOperations
             retainedBytes := snapshot.length }, columns, rows)
    | _, _ => .error .invalidViewport

def validateViewports (batch : InstructionBatch) : Except StateError Unit :=
  batch.instructions.forM fun instruction =>
    instruction.viewport.elim (.ok ()) fun viewport =>
      validateViewport viewport.columns viewport.rows

def validateEchoAck (echoAck : Option UInt64) (marker : Marker) :
    Except StateError (Option UInt64) :=
  if echoAck.any fun current => marker.value < current then .error .echoAckRegression
  else .ok (some marker.value)

/-- The history that a batch is applied to: the state's own, or a compacted one. -/
def prepareHistory (state : RemoteTerminalState terminal) (batch : InstructionBatch) :
    Except StateError (RemoteTerminalState terminal) :=
  match state.validateHistoryGrowth batch with
  | .ok () => .ok state
  | .error _ => do
      let (history, initialColumns, initialRows) ← state.compactedHistory batch
      .ok { state with history, initialColumns, initialRows }

def apply (state : RemoteTerminalState terminal) (batch : InstructionBatch) :
    Except StateError (RemoteTerminalState terminal) := do
  validateViewports batch
  let _ ← (batch.instructions.filterMap (·.marker)).foldlM validateEchoAck state.echoAck
  let state ← state.prepareHistory batch
  batch.instructions.foldlM applyInstruction state

def screenDiff (target delivered : RemoteTerminalState terminal) : List Instruction :=
  let value := terminal.stateDiff target.parser.screen delivered.parser.screen
  if value.isEmpty then [] else [hostBytesInstruction value]

def echoInstructions (target delivered : RemoteTerminalState terminal) : List Instruction :=
  if target.echoAck ≠ delivered.echoAck then
    match target.echoAck with
    | some value =>
        [{ bytes := none, viewport := none, marker := some { value }, sessionControl := none }]
    | none => []
  else []

def diffFrom (target delivered : RemoteTerminalState terminal) :
    Except StateError InstructionBatch := do
  let targetOperations := target.history.canonicalOperations
  let deliveredOperations := delivered.history.canonicalOperations
  let instructions ←
    match historySuffixStart targetOperations deliveredOperations with
    | .ok (suffixStart, firstByteOffset) =>
        .ok (suffixInstructions (targetOperations.drop suffixStart) firstByteOffset)
    | .error .divergedHistory =>
        if target.viewport = delivered.viewport ∧
            divergedHistoriesAreScreenDiffSafe terminal targetOperations deliveredOperations then
          .ok (target.screenDiff delivered)
        else .error .divergedHistory
    | .error error => .error error
  .ok { instructions := target.echoInstructions delivered ++ instructions }

def replay (parser : Parser terminal) : StateOperation → Parser terminal
  | .hostBytes bytes => parser.process bytes
  | .resize columns rows => parser.setSize rows columns
  | .sessionControl _ => parser

/-- The initial viewport of a state is never zero, so the `new` inside cannot fail. -/
def clone (state : RemoteTerminalState terminal) : RemoteTerminalState terminal :=
  { state with
    parser := state.history.operations.foldl replay (.new state.initialRows state.initialColumns) }

end RemoteTerminalState

end FerrumTty.State
