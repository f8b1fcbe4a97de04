import FerrumTty.Client.DrainNetwork
import FerrumTty.Client.DrainTerminal
import FerrumTty.Terminal.Paste
import FerrumTty.Terminal.TerminalGuard

/-!
# The event loop of the client

`event_loop` of `ferrumtty-client` with what it calls: the socket, the terminal guard, the
predictor and the escape interpreter around the session. A turn of the loop takes what the clock,
the socket and the terminal bring it. Suspending is that of Unix.
-/

namespace FerrumTty.Client

set_option autoImplicit false

open Crypto Wire State Session FerrumTty.Runtime FerrumTty.Terminal

def SUSPEND_DETECTION_MILLISECONDS : Nat := 5000

/-- The texts of the event loop besides those that `Text` has. -/
inductive LoopText where
  | inputFailed
  | localCommandHelp
  | signalSetupFailed
  | terminalSetupFailed
  deriving DecidableEq, Repr

def loopTextEn : LoopText → String
  | .inputFailed => "could not read terminal input"
  | .localCommandHelp =>
      "\r\nFerrumTTY local commands: . quit, Ctrl-Z suspend, ? help, prefix prefix sends a literal prefix\r\n"
  | .signalSetupFailed => "could not install termination handling"
  | .terminalSetupFailed => "could not enter terminal raw mode"

def loopTextZh : LoopText → String
  | .inputFailed => "无法读取终端输入"
  | .localCommandHelp =>
      "\r\nFerrumTTY 本地命令：. 退出，Ctrl-Z 暂停，? 帮助，连续输入两次前缀可发送字面前缀\r\n"
  | .signalSetupFailed => "无法安装终止信号处理"
  | .terminalSetupFailed => "无法进入终端原始模式"

def loopText (language : String) (message : LoopText) : String :=
  if ['z', 'h'].isPrefixOf language.toList then loopTextZh message else loopTextEn message

def withLoopCause (language : String) (message : LoopText) (cause : String) : String :=
  loopText language message ++ ": " ++ cause

/-- The datagrams handed to the socket so far, and what becomes of the next one. -/
structure Socket where
  answers : List Bytes → Bytes → Option IoError
  attempted : List Bytes

def Socket.send (socket : Socket) (packet : Bytes) : Except IoError Unit × Socket :=
  (match socket.answers socket.attempted packet with
    | some error => .error error
    | none => .ok (),
    { socket with attempted := socket.attempted ++ [packet] })

structure LocalHost (terminal : Terminal) where
  socket : Socket
  guard : TerminalGuard terminal IoError
  predictor : Predict.PredictionOverlay
  logged : List DiagnosticEvent

section Hosts

variable {terminal : Terminal} (queries : ScreenQueries terminal)

/-- A call of the guard as one of the host. -/
def onGuard {Value : Type} (state : LocalHost terminal)
    (called : Except IoError Value × TerminalGuard terminal IoError) :
    Except IoError Value × LocalHost terminal :=
  (called.1, { state with guard := called.2 })

def localHost : Host (LocalHost terminal) where
  send state packet :=
    ((state.socket.send packet).1, { state with socket := (state.socket.send packet).2 })
  writeServerBytes state bytes := onGuard state (state.guard.writeServerBytes queries bytes)
  writeOverlayBytes state bytes := onGuard state (state.guard.writeOverlayBytes bytes)
  redrawAuthoritative state := onGuard state (state.guard.redrawAuthoritative queries)
  takeReconciliation state :=
    (state.predictor.takeReconciliation.1,
      { state with predictor := state.predictor.takeReconciliation.2 })
  acknowledge state value := { state with predictor := state.predictor.acknowledge value }
  writeEvent state event := { state with logged := state.logged ++ [event] }

end Hosts

/-- The locals of `event_loop`. -/
structure EventLoop (lib : Libraries) where
  runtime : SessionRuntime lib.terminal
  host : LocalHost lib.terminal
  escape : EscapeInterpreter
  previousPoll : MonotonicTime

abbrev Outcome (lib : Libraries) (Value : Type) := Except String Value × EventLoop lib

/-- `?` and `and_then`. -/
def Outcome.andThen {lib : Libraries} {First Second : Type} (called : Outcome lib First)
    (next : First → EventLoop lib → Outcome lib Second) : Outcome lib Second :=
  match called with
  | (.error message, loop) => (.error message, loop)
  | (.ok value, loop) => next value loop

inductive KeyEventKind where
  | press
  | repeated
  | release
  deriving DecidableEq, Repr

inductive Event where
  | key (key : KeyEvent) (kind : KeyEventKind)
  | paste (contents : String)
  | mouse (event : MouseEvent)
  | focusGained
  | focusLost
  | resize (columns rows : UInt16)
  deriving DecidableEq, Repr

/-- What a turn of the loop meets: the clock, whether a termination signal has come, the payloads
that are received until the socket has no more, the events until the terminal has no more, and
the clock behind them. -/
structure Turn where
  now : MonotonicTime
  terminationRequested : Bool
  payloads : List Bytes
  receiveEnding : IoError
  events : List (Event × MonotonicTime)
  inputEnding : Option IoError
  quitAt : MonotonicTime

namespace EventLoop

variable {lib : Libraries} (queries : ScreenQueries lib.terminal) (language : String)
  (loop : EventLoop lib)

def applyActions (actions : List SessionAction) : Outcome lib Unit :=
  let application := Client.applyActions (localHost queries) language loop.host actions
  (application.result, { loop with host := application.state })

def callGuard (explain : String → String)
    (called : Except IoError Unit × TerminalGuard lib.terminal IoError) : Outcome lib Unit :=
  (called.1.mapError fun error => explain error.message,
    { loop with host := { loop.host with guard := called.2 } })

def writing (called : Except IoError Unit × TerminalGuard lib.terminal IoError) :
    Outcome lib Unit :=
  loop.callGuard (withCause language .terminalWriteFailed) called

def reconcilePrediction : Outcome lib Unit :=
  let reconciled := Client.reconcilePrediction (localHost queries) language loop.host
  (reconciled.1, { loop with host := reconciled.2 })

def queueInput (bytes : Bytes) : Outcome lib Unit :=
  let queued := loop.runtime.queueInput bytes
  (queued.1.mapError (formatRuntimeError language), { loop with runtime := queued.2 })

def flushEscape : Outcome lib Unit :=
  let flushed := loop.escape.flush
  match flushed with
  | (some held, escape) => { loop with escape }.queueInput language held
  | (none, escape) => (.ok (), { loop with escape })

def requestShutdown (now : MonotonicTime) : Outcome lib Unit :=
  match loop.runtime.requestShutdown now with
  | (.error error, runtime) =>
      (.error (formatRuntimeError language error), { loop with runtime })
  | (.ok actions, runtime) => { loop with runtime }.applyActions queries language actions

/-- The terminal is taken back also where the signal fails, whose error goes first. -/
def suspendClient : Outcome lib Unit :=
  (loop.callGuard (withLoopCause language .terminalSetupFailed)
    loop.host.guard.leaveForSuspend).andThen fun _ loop =>
      let raised := loop.host.guard.output.issue .raiseSuspend
      let suspended := loop.callGuard (withLoopCause language .signalSetupFailed)
        (raised.1, { loop.host.guard with output := raised.2 })
      let resumed := suspended.2.callGuard (withLoopCause language .terminalSetupFailed)
        (suspended.2.host.guard.resumeAfterSuspend queries)
      (match suspended.1 with
        | .error message => .error message
        | .ok () => resumed.1, resumed.2)

/-- Offers to the predictor what was sent, and drops the prediction itself. -/
def offerBarrier (frame : UInt64) : EventLoop lib :=
  { loop with
    host := { loop.host with
      predictor := (loop.host.predictor.offerForFrame frame .barrier).2 } }

/-- Input that no prediction is made for. -/
def queueUnpredicted (bytes : Bytes) : Outcome lib Unit :=
  let predictionFrame := loop.runtime.predictionFrameId
  (loop.queueInput language bytes).andThen fun _ loop =>
    (.ok (), loop.offerBarrier predictionFrame)

/-- Bytes of a key that is no local command. -/
def forwardKey (key : KeyEvent) (bytes : Bytes) : Outcome lib Unit :=
  let predictionFrame := loop.runtime.predictionFrameId
  let predictionContext := loop.host.guard.authoritative.predictionCursorContext queries
  (loop.queueInput language bytes).andThen fun _ loop =>
    let offered := loop.host.predictor.offerForFrameWithContext predictionFrame
      (predictionAction key) (some predictionContext)
    let loop := { loop with host := { loop.host with predictor := offered.2 } }
    match offered.1 with
    | some prediction => loop.writing language (loop.host.guard.writeOverlayBytes prediction)
    | none => (.ok (), loop)

/-- A pressed or repeated key. The answer says whether the client is to quit. -/
def drainKeyPress (key : KeyEvent) (now : MonotonicTime) : Outcome lib Bool :=
  match encodeKeyWithMode key (loop.host.guard.authoritative.remoteModes queries).cursorKey with
  | none => (.ok false, loop)
  | some bytes =>
      match loop.escape.input bytes with
      | (action, escape) =>
          let loop := { loop with escape }
          match action with
          | .hold => (.ok false, loop)
          | .help =>
              (loop.writing language (loop.host.guard.writeLocalNotice queries
                (asBytes (loopText language .localCommandHelp)))).andThen fun _ loop =>
                  (.ok false, loop)
          | .quit => (.ok true, loop)
          | .suspend =>
              (loop.suspendClient queries language).andThen fun _ loop =>
                (.ok false, { loop with runtime := loop.runtime.resume now })
          | .forward bytes =>
              (loop.forwardKey queries language key bytes).andThen fun _ loop =>
                (.ok false, loop)

/-- What `drainKey` works on. -/
def keyLoop : KeyLoop lib.terminal where
  runtime := loop.runtime
  predictor := loop.host.predictor
  escape := loop.escape

def withKeys (keys : KeyLoop lib.terminal) : EventLoop lib :=
  { loop with
    runtime := keys.runtime
    host := { loop.host with predictor := keys.predictor }
    escape := keys.escape }

/-- What the loop does about a key once `drainKey` has told what became of it. -/
def reportKey : Except RuntimeError KeyReport × KeyLoop lib.terminal → Outcome lib Bool
  | (.error error, keys) => (.error (formatRuntimeError language error), loop.withKeys keys)
  | (.ok .quit, keys) => (.ok true, loop.withKeys keys)
  | (.ok .help, keys) =>
      ((loop.withKeys keys).writing language (loop.host.guard.writeLocalNotice queries
        (asBytes (loopText language .localCommandHelp)))).andThen fun _ loop => (.ok false, loop)
  | (.ok .suspended, keys) =>
      ({ loop with escape := keys.escape }.suspendClient queries language).andThen fun _ loop =>
        (.ok false, loop.withKeys keys)
  | (.ok (.forwarded _ _ (some prediction)), keys) =>
      ((loop.withKeys keys).writing language
        (loop.host.guard.writeOverlayBytes prediction)).andThen fun _ loop => (.ok false, loop)
  | (.ok _, keys) => (.ok false, loop.withKeys keys)

theorem suspend_same_keys :
    (loop.suspendClient queries language).2.keyLoop = loop.keyLoop := by
  unfold suspendClient Outcome.andThen
  rcases left : loop.callGuard (withLoopCause language .terminalSetupFailed)
    loop.host.guard.leaveForSuspend with ⟨result, next⟩
  have same : next.keyLoop = loop.keyLoop := congrArg (fun outcome => outcome.2.keyLoop) left.symm
  cases result with
  | error message => exact same
  | ok done => exact same

/-- The loop drains a key as `drainKey` does, and carries out what it reports. -/
theorem drain_key_press_reports (key : KeyEvent) (now : MonotonicTime) :
    loop.drainKeyPress queries language key now =
      loop.reportKey queries language (drainKey loop.keyLoop
        (loop.host.guard.authoritative.remoteModes queries).cursorKey
        (loop.host.guard.authoritative.predictionCursorContext queries) now key) := by
  unfold drainKeyPress drainKey
  rcases encodeKeyWithMode key (loop.host.guard.authoritative.remoteModes queries).cursorKey with
    _ | bytes
  · rfl
  · dsimp only [keyLoop]
    rcases loop.escape.input bytes with ⟨action, escape⟩
    cases action with
    | hold => rfl
    | help => rfl
    | quit => rfl
    | suspend =>
        have same := { loop with escape }.suspend_same_keys queries language
        dsimp only [reportKey] at same ⊢
        generalize { loop with escape }.suspendClient queries language = suspended at same ⊢
        rcases suspended with ⟨result, next⟩
        cases result with
        | error message => rfl
        | ok done =>
            have resumed : loop.runtime = next.runtime := (congrArg KeyLoop.runtime same).symm
            have predicted : loop.host.predictor = next.host.predictor :=
              (congrArg KeyLoop.predictor same).symm
            have escaped : escape = next.escape := (congrArg KeyLoop.escape same).symm
            simp only [Outcome.andThen, withKeys, resumed, predicted, escaped]
    | forward bytes =>
        dsimp only [forwardKey, queueInput]
        rcases loop.runtime.queueInput bytes with ⟨result, runtime⟩
        cases result with
        | error error => rfl
        | ok done =>
            dsimp only [Outcome.andThen, Except.mapError]
            rcases loop.host.predictor.offerForFrameWithContext loop.runtime.predictionFrameId
              (predictionAction key)
              (some (loop.host.guard.authoritative.predictionCursorContext queries))
              with ⟨shown, predictor⟩
            cases shown with
            | none => rfl
            | some prediction => rfl

/-- What an event besides keys and resizes is encoded to, once its turn has come. -/
def encodeEvent (modes : RemoteTerminalModes) : Event → Option Bytes
  | .paste contents => some (encodePasteWithMode contents modes.bracketedPaste)
  | .mouse event => encodeMouseWithMode event modes.mouseTracking modes.mouseEncoding
  | .focusGained => encodeFocusWithMode true modes.focusReporting
  | .focusLost => encodeFocusWithMode false modes.focusReporting
  | _ => none

/-- Pastes, mouse events and focus changes: a held prefix goes before them. -/
def drainUnpredicted (event : Event) : Outcome lib Bool :=
  (loop.flushEscape language).andThen fun _ loop =>
    match encodeEvent (loop.host.guard.authoritative.remoteModes queries) event with
    | some bytes =>
        (loop.queueUnpredicted language bytes).andThen fun _ loop => (.ok false, loop)
    | none => (.ok false, loop)

def drainResize (columns rows : UInt16) : Outcome lib Bool :=
  (loop.flushEscape language).andThen fun _ loop =>
    (loop.reconcilePrediction queries language).andThen fun _ loop =>
      (.ok false,
        { loop with
          host := { loop.host with guard := loop.host.guard.resizeModel columns rows }
          runtime := loop.runtime.queueResize columns rows })

/-- The `match` of `drain_terminal`, behind the local notice. -/
def drainEvent (event : Event) (now : MonotonicTime) : Outcome lib Bool :=
  match event with
  | .key key .press => loop.drainKeyPress queries language key now
  | .key key .repeated => loop.drainKeyPress queries language key now
  | .key _ .release => (.ok false, loop)
  | .resize columns rows => loop.drainResize queries language columns rows
  | event => loop.drainUnpredicted queries language event

/-- The terminal brings the events in turn, each with the time the clock shows behind it, and
then nothing or an error. -/
def drainTerminal (ending : Option IoError) (loop : EventLoop lib) :
    List (Event × MonotonicTime) → Outcome lib Bool
  | [] =>
      match ending with
      | some error => (.error (withLoopCause language .inputFailed error.message), loop)
      | none => (.ok false, loop)
  | (event, now) :: rest =>
      (loop.writing language (loop.host.guard.clearLocalNotice queries)).andThen fun _ loop =>
        (loop.drainEvent queries language event now).andThen fun quit loop =>
          if quit then (.ok true, loop) else drainTerminal ending loop rest

def start (key : SessionKey) (started : MonotonicTime) (columns rows : UInt16) (socket : Socket)
    (guard : TerminalGuard lib.terminal IoError) (predictionDisplay : Predict.PredictionDisplay)
    (predictionOverwrite : Bool) (escapeByte : UInt8) : EventLoop lib where
  runtime := (SessionRuntime.new lib.terminal key started).queueResize columns rows
  host :=
    { socket
      guard
      predictor := .new predictionDisplay predictionOverwrite
      logged := [] }
  escape := .new escapeByte
  previousPoll := started

section Turns

variable (turn : Turn)

/-- The termination flag stays set, so the shutdown is asked for again in every turn. -/
def terminate : Outcome lib Unit :=
  if turn.terminationRequested then loop.requestShutdown queries language turn.now
  else (.ok (), loop)

/-- A gap between two turns stands for a sleep of the whole system. -/
def noteSleep : EventLoop lib :=
  { loop with
    previousPoll := turn.now
    runtime :=
      if turn.now.elapsedSince loop.previousPoll ≥ SUSPEND_DETECTION_MILLISECONDS then
        loop.runtime.resume turn.now
      else loop.runtime }

def drainSocket : Outcome lib Bool :=
  let drained := drainNetwork lib (localHost queries) language turn.now turn.receiveEnding
    loop.runtime loop.host turn.payloads
  (drained.result, { loop with runtime := drained.runtime, host := drained.state })

def noteRoundTrip : EventLoop lib :=
  { loop with
    host := { loop.host with
      predictor := loop.host.predictor.setRoundTripMilliseconds loop.runtime.roundTripMilliseconds } }

/-- A session that shuts down takes no input. -/
def drainInput : Outcome lib Unit :=
  if loop.runtime.shutdownInProgress then (.ok (), loop)
  else
    (drainTerminal queries language turn.inputEnding loop turn.events).andThen fun quit loop =>
      if quit then loop.requestShutdown queries language turn.quitAt else (.ok (), loop)

def pollSession : Outcome lib Unit :=
  match loop.runtime.poll lib turn.now with
  | (.error error, runtime) =>
      (.error (formatRuntimeError language error), { loop with runtime })
  | (.ok actions, runtime) => { loop with runtime }.applyActions queries language actions

/-- One turn of the loop, with the answer it breaks with. -/
def turnOnce : Outcome lib (Option Bool) :=
  (loop.terminate queries language turn).andThen fun _ loop =>
    ((loop.noteSleep turn).drainSocket queries language turn).andThen fun refused loop =>
      if refused then (.ok (some true), loop)
      else
        (loop.noteRoundTrip.drainInput queries language turn).andThen fun _ loop =>
          (loop.pollSession queries language turn).andThen fun _ loop =>
            (.ok (loop.runtime.shutdownOutcome.map fun outcome => outcome != .timedOut), loop)

end Turns

/-- What the loop returns once it breaks: its result, unless the last prediction cannot be taken
back. -/
def finish (result : Except String Bool) : Outcome lib Bool :=
  (loop.reconcilePrediction queries language).andThen fun _ loop => (result, loop)

/-- The loop over the turns that come, and what it returns, if it ends within them. -/
def run (loop : EventLoop lib) : List Turn → Option (Except String Bool) × EventLoop lib
  | [] => (none, loop)
  | turn :: rest =>
      match loop.turnOnce queries language turn with
      | (.error message, loop) =>
          let finished := loop.finish queries language (.error message)
          (some finished.1, finished.2)
      | (.ok (some clean), loop) =>
          let finished := loop.finish queries language (.ok clean)
          (some finished.1, finished.2)
      | (.ok none, loop) => run loop rest

end EventLoop

end FerrumTty.Client
