import FerrumTty.Client.CommandLine
import FerrumTty.Client.EventLoop
import Mathlib.Data.List.DropRight

/-!
# The client as a program

`main` of `ferrumtty-client`: the command line, the set-up before the event loop, and the exit
status behind it. What the operating system answers is given; the locale and the colors are
those of Unix.
-/

namespace FerrumTty.Client

set_option autoImplicit false

open Crypto State Session FerrumTty.Runtime FerrumTty.Terminal

section Locale

/-- `char::is_whitespace` -/
def isWhitespace (character : Char) : Bool :=
  let code := character.toNat
  (0x09 ≤ code && code ≤ 0x0d) || (0x2000 ≤ code && code ≤ 0x200a) ||
    [0x20, 0x85, 0xa0, 0x1680, 0x2028, 0x2029, 0x202f, 0x205f, 0x3000].contains code

def trim (text : Argument) : Argument := (text.dropWhile isWhitespace).rdropWhile isWhitespace

def toAsciiLowercase (text : Argument) : Argument := text.map Char.toLower

def localeIsUtf8 (value : Argument) : Bool :=
  let normalized := (toAsciiLowercase (trim value)).map fun character =>
    if character = '_' then '-' else character
  let named (codeset : Argument) : Bool := codeset = "utf8".toList || codeset = "utf-8".toList
  let withoutModifier := normalized.takeWhile (· ≠ '@')
  named normalized ||
    (withoutModifier.contains '.' && named (withoutModifier.rtakeWhile (· ≠ '.')))

def selectedLocale (environment : Environment) : Option (Argument × Argument) :=
  ["LC_ALL", "LC_CTYPE", "LANG"].findSome? fun name =>
    ((environment name).filter (· ≠ [])).map fun value => (name.toList, value)

def validateUtf8Locale (environment : Environment) : Except CliError Unit :=
  match selectedLocale environment with
  | none => .error (.failure ("mosh-client needs a UTF-8 native locale to run.\n\nThe client's ".toList ++
      "environment has no LC_ALL, LC_CTYPE, or LANG value.".toList))
  | some (name, value) =>
      if localeIsUtf8 value then .ok ()
      else .error (.failure ("mosh-client needs a UTF-8 native locale to run.\n\nUnfortunately, ".toList ++
        "the client's environment (".toList ++ name ++ '=' :: value ++
        ") does not specify UTF-8.".toList))

end Locale

section Colors

def TRUE_COLOR_COUNT : Nat := 16777216

inductive PlatformColorCapability where
  | unknown
  | ansi8
  | ansi16
  | indexed256
  | trueColor
  deriving DecidableEq, Repr

def platformColorCapability (colorCount : UInt16) : PlatformColorCapability :=
  if colorCount = 0 then .unknown
  else if colorCount = 0xffff then .trueColor
  else if colorCount ≤ 8 then .ansi8
  else if colorCount ≤ 255 then .ansi16
  else .indexed256

def isTrueColorMarker (value : Argument) : Bool :=
  toAsciiLowercase value = "truecolor".toList || toAsciiLowercase value = "24bit".toList

def isKnownAnsiTerminal (value : Argument) : Bool :=
  ["ansi", "alacritty", "cygwin", "eterm", "foot", "kitty", "linux", "kterm", "rxvt", "screen",
    "tmux", "vt100", "wezterm", "xterm"].any fun name =>
      name.toList.isPrefixOf (toAsciiLowercase value)

def inferColorCount (term colorterm : Option Argument) (platform : PlatformColorCapability) : Nat :=
  let term := (term.map trim).filter (· ≠ [])
  let colorterm := (colorterm.map trim).filter (· ≠ [])
  let named (words : List String) : Bool :=
    term.any fun value => words.any fun word => word.toList <:+: toAsciiLowercase value
  if term.any (toAsciiLowercase · = "dumb".toList) then 0
  else if colorterm.any isTrueColorMarker || named ["truecolor", "24bit", "direct"] then
    TRUE_COLOR_COUNT
  else if named ["256color"] then 256
  else if term.any isKnownAnsiTerminal then
    match platform with
    | .trueColor => TRUE_COLOR_COUNT
    | .indexed256 => 256
    | .ansi16 => 16
    | .ansi8 => 8
    | .unknown => 8
  else 0

end Colors

/-- The texts of the program around its event loop. -/
inductive ProgramText where
  | connectFailed
  | errorPrefix
  | noAddress
  | resolveFailed
  | socketFailed
  | terminalRequired
  | terminalSizeFailed
  | uncleanShutdown
  deriving DecidableEq, Repr

def programTextEn : ProgramText → String
  | .connectFailed => "could not connect UDP socket"
  | .errorPrefix => "FerrumTTY error"
  | .noAddress => "no address was resolved"
  | .resolveFailed => "host lookup failed"
  | .socketFailed => "could not configure UDP socket"
  | .terminalRequired => "standard input and output must be terminals"
  | .terminalSizeFailed => "could not read terminal size"
  | .uncleanShutdown =>
      "\nmosh did not shut down cleanly. Please note that the\nmosh-server process may still be running on the server."

def programTextZh : ProgramText → String
  | .connectFailed => "无法连接 UDP 套接字"
  | .errorPrefix => "FerrumTTY 错误"
  | .noAddress => "未解析到可用地址"
  | .resolveFailed => "主机名解析失败"
  | .socketFailed => "无法配置 UDP 套接字"
  | .terminalRequired => "标准输入和输出必须连接终端"
  | .terminalSizeFailed => "无法读取终端尺寸"
  | .uncleanShutdown => "\nmosh 未能干净关闭。请注意，服务器上的 mosh-server 进程可能仍在运行。"

def programText (language : String) (message : ProgramText) : String :=
  if ['z', 'h'].isPrefixOf language.toList then programTextZh message else programTextEn message

def withProgramCause (language : String) (message : ProgramText) (cause : String) : String :=
  programText language message ++ ": " ++ cause

inductive AppError where
  | cli (error : CliError)
  | runtime (error : String)
  | uncleanShutdown
  deriving DecidableEq

/-- What becomes of an address: the calls that fail for it, and the socket that it leads to. -/
structure Address where
  bind : Option IoError
  connect : Option IoError
  setNonblocking : Option IoError
  socket : Socket

/-- The loop of `connect_socket` over the addresses. -/
def connectAddress (language : String) (lastError : Option IoError) :
    List Address → Except String Socket
  | [] =>
      .error (withProgramCause language .connectFailed
        (lastError.elim (programText language .noAddress) IoError.message))
  | address :: rest =>
      match address.bind, address.connect, address.setNonblocking with
      | some error, _, _ => connectAddress language (some error) rest
      | none, some error, _ => connectAddress language (some error) rest
      | none, none, some error => .error (withProgramCause language .socketFailed error.message)
      | none, none, none => .ok address.socket

def connectSocket (language : String) (addresses : Except IoError (List Address)) :
    Except String Socket :=
  match addresses with
  | .error error => .error (withProgramCause language .resolveFailed error.message)
  | .ok addresses => connectAddress language none addresses

/-- The size that the console has, or else that of the environment, and never zero. -/
def terminalSize (environment : Environment) (size : Except IoError (UInt16 × UInt16)) :
    Except IoError (UInt16 × UInt16) :=
  match size with
  | .ok (columns, rows) => .ok (max columns 1, max rows 1)
  | .error error =>
      match (environment "COLUMNS").bind parsePortNumber, (environment "LINES").bind parsePortNumber with
      | some columns, some rows => .ok (max columns 1, max rows 1)
      | _, _ => .error error

/-- What the program meets. The texts of the environment are Unicode; `decodeKey` is
`SessionKey::decode`, and `addresses` are those of an endpoint. -/
structure Surroundings where
  arguments : List Argument
  environment : Environment
  decodeKey : Argument → Option SessionKey
  colorCount : UInt16
  interactive : Bool
  addresses : Argument → Except IoError (List Address)
  signals : Except IoError Unit
  sizeAtEntry : Except IoError (UInt16 × UInt16)
  console : List (ConsoleCommand × Option IoError) → ConsoleCommand → Option IoError
  started : MonotonicTime
  sizeAtStart : Except IoError (UInt16 × UInt16)
  turns : List Turn

structure Exit where
  code : UInt8
  written : Option (OutputTarget × Argument)
  deriving DecidableEq

/-- How far the program comes: it is still in its event loop, or done, with the console behind it. -/
inductive Progress (lib : Libraries) (Result : Type) where
  | running (loop : EventLoop lib)
  | done (result : Result) (output : Console IoError)

def Progress.map {lib : Libraries} {First Second : Type} (function : First → Second) :
    Progress lib First → Progress lib Second
  | .running loop => .running loop
  | .done result output => .done (function result) output

namespace Surroundings

variable {lib : Libraries} (queries : ScreenQueries lib.terminal) (surroundings : Surroundings)

def language : String := String.ofList ((surroundings.environment "LANG").getD [])

def readSessionKey : Except CliError SessionKey :=
  match surroundings.environment "MOSH_KEY" with
  | none => .error (.failure "MOSH_KEY environment variable not found.".toList)
  | some encoded =>
      match surroundings.decodeKey encoded with
      | none => .error (.failure "Crypto exception: MOSH_KEY is invalid.".toList)
      | some key => .ok key

def installTerminationFlag : Except String Unit :=
  surroundings.signals.mapError fun error =>
    withLoopCause surroundings.language .signalSetupFailed error.message

/-- What `run` does before it touches the terminal. -/
def prepare (config : ClientConfig) : Except AppError (SessionKey × Socket) := do
  let key ← surroundings.readSessionKey.mapError .cli
  (validateUtf8Locale surroundings.environment).mapError .cli
  if surroundings.interactive = false then
    throw (.runtime (programText surroundings.language .terminalRequired))
  let socket ← (connectSocket surroundings.language (surroundings.addresses config.endpoint)).mapError
    .runtime
  surroundings.installTerminationFlag.mapError .runtime
  return (key, socket)

def freshConsole : Console IoError where
  answers := surroundings.console
  issued := []

def enterTerminal (config : ClientConfig) :
    Except IoError (TerminalGuard lib.terminal IoError) × Console IoError :=
  TerminalGuard.enterWithTitlePolicy (terminalSize surroundings.environment surroundings.sizeAtEntry)
    (surroundings.environment "MOSH_NO_TERM_INIT").isSome
    (if config.titleNoPrefix then .preserveRemote else .moshPrefix) surroundings.freshConsole

/-- `run` with the terminal taken over. The guard is dropped wherever it ends. -/
def runTerminal (config : ClientConfig) (key : SessionKey) (socket : Socket)
    (guard : TerminalGuard lib.terminal IoError) : Progress lib (Except AppError Unit) :=
  match terminalSize surroundings.environment surroundings.sizeAtStart with
  | .error error =>
      .done (.error (.runtime
        (withProgramCause surroundings.language .terminalSizeFailed error.message))) guard.drop.output
  | .ok (columns, rows) =>
      let loop := EventLoop.start key surroundings.started columns rows socket guard
        config.predictionDisplay config.predictionOverwrite config.escapeByte
      match loop.run queries surroundings.language surroundings.turns with
      | (none, loop) => .running loop
      | (some (.error message), loop) => .done (.error (.runtime message)) loop.host.guard.drop.output
      | (some (.ok true), loop) => .done (.ok ()) loop.host.guard.drop.output
      | (some (.ok false), loop) => .done (.error .uncleanShutdown) loop.host.guard.drop.output

def run (config : ClientConfig) : Progress lib (Except AppError Unit) :=
  match surroundings.prepare config with
  | .error error => .done (.error error) surroundings.freshConsole
  | .ok (key, socket) =>
      match surroundings.enterTerminal config with
      | (.error error, console) =>
          .done (.error (.runtime
            (withLoopCause surroundings.language .terminalSetupFailed error.message))) console
      | (.ok guard, _) => surroundings.runTerminal queries config key socket guard

def exitOf : Except AppError Unit → Exit
  | .ok () => ⟨0, none⟩
  | .error (.cli error) => ⟨error.exitCode, some (error.target, error.message)⟩
  | .error (.runtime error) =>
      ⟨1, some (.stderr, (withProgramCause surroundings.language .errorPrefix error).toList)⟩
  | .error .uncleanShutdown =>
      ⟨1, some (.stderr, (programText surroundings.language .uncleanShutdown).toList)⟩

def main : Progress lib Exit :=
  match parseCommand surroundings.arguments surroundings.environment with
  | .error error => .done (surroundings.exitOf (.error (.cli error))) surroundings.freshConsole
  | .ok (.help program) => .done ⟨0, some (.stdout, usage program)⟩ surroundings.freshConsole
  | .ok .version => .done ⟨0, some (.stdout, version)⟩ surroundings.freshConsole
  | .ok .colors =>
      .done ⟨0, some (.stdout, Nat.toDigits 10 (inferColorCount (surroundings.environment "TERM")
        (surroundings.environment "COLORTERM") (platformColorCapability surroundings.colorCount)))⟩
        surroundings.freshConsole
  | .ok (.connect config) => (surroundings.run queries config).map surroundings.exitOf

end Surroundings

end FerrumTty.Client
