import FerrumTty.Predict.PredictionOverlay
import Mathlib.Data.List.Basic

/-!
# The command line

`parse_command` of `ferrumtty-client`: the arguments and the environment of the client become a
command, or a failure with its message. Texts are lists of Unicode scalar values. An option is read
by its characters where the source reads its bytes, and a character of several bytes is refused
either way.
-/

namespace FerrumTty.Client

set_option autoImplicit false

open Predict

abbrev Argument := List Char

def Cli.DEFAULT_ESCAPE_BYTE : UInt8 := 0x1e
def MAX_VERBOSITY : UInt8 := 3

structure ClientConfig where
  endpoint : Argument
  verbosity : UInt8
  escapeByte : UInt8
  titleNoPrefix : Bool
  predictionDisplay : PredictionDisplay
  predictionOverwrite : Bool
  deriving DecidableEq

inductive Command where
  | help (program : Argument)
  | version
  | colors
  | connect (config : ClientConfig)
  deriving DecidableEq

inductive OutputTarget where
  | stdout
  | stderr
  deriving DecidableEq

structure CliError where
  message : Argument
  target : OutputTarget
  exitCode : UInt8
  deriving DecidableEq

def CliError.failure (message : Argument) : CliError where
  message := message
  target := .stderr
  exitCode := 1

/-- `CARGO_PKG_VERSION` of the crate is 0.0.0. -/
def version : Argument := "ferrumtty-client 0.0.0".toList

def usage (program : Argument) : Argument :=
  version ++ "\n\nUsage: ".toList ++ program ++ " [-# 'ARGS'] [-v...] HOST PORT\n       ".toList ++
    program ++ " -c".toList

/-- The end of an option: it was read up to its last character with the verbosity so far, it ends in
a description, of which the rest of the option may be empty, or it decides the command line. -/
inductive OptionEnd where
  | read (verbosity : UInt8)
  | description (verbosity : UInt8) (apart : Bool)
  | colors
  | refused
  deriving DecidableEq

/-- The characters of an option behind its dash. -/
def readOption (verbosity : UInt8) : List Char → OptionEnd
  | [] => .read verbosity
  | 'v' :: rest => readOption (if verbosity < MAX_VERBOSITY then verbosity + 1 else MAX_VERBOSITY) rest
  | 'c' :: _ => .colors
  | '#' :: rest => .description verbosity rest.isEmpty
  | _ :: _ => .refused

def isOption (argument : Argument) : Bool :=
  argument.head? = some '-' && argument ≠ ['-']

/-- What the loop over the arguments comes to: the colors at once, or the verbosity and the
positional arguments. -/
inductive ArgumentsRead where
  | colors
  | positionals (verbosity : UInt8) (words : List Argument)
  deriving DecidableEq

/-- The loop of `parse_command` over the arguments; `none` is the usage failure. -/
def readArguments (verbosity : UInt8) (positionals : List Argument) :
    List Argument → Option ArgumentsRead
  | [] => some (.positionals verbosity positionals)
  | argument :: rest =>
      if argument = ['-', '-'] then some (.positionals verbosity (positionals ++ rest))
      else if isOption argument then
        match readOption verbosity argument.tail with
        | .read later => readArguments later positionals rest
        | .colors => some .colors
        | .refused => none
        | .description later false => readArguments later positionals rest
        | .description later true =>
            match rest with
            | [] => none
            | _ :: behind => readArguments later positionals behind
      else readArguments verbosity (positionals ++ [argument]) rest

def isNumeral (character : Char) : Bool := '0' ≤ character && character ≤ '9'

def numberOf (digits : List Char) : Nat :=
  digits.foldl (fun value digit => 10 * value + (digit.toNat - '0'.toNat)) 0

/-- `u16::from_str`: digits behind an optional plus sign. -/
def parsePortNumber (text : Argument) : Option UInt16 :=
  let digits := if text.head? = some '+' then text.tail else text
  if digits ≠ [] ∧ digits.all isNumeral ∧ numberOf digits < 2 ^ 16 then
    some (UInt16.ofNat (numberOf digits))
  else none

def portText (port : UInt16) : Argument := Nat.toDigits 10 port.toNat

def formatEndpoint (host : Argument) (port : UInt16) : Argument :=
  if ':' ∈ host ∧ ¬ (host.head? = some '[' ∧ host.getLast? = some ']') then
    '[' :: host ++ "]:".toList ++ portText port
  else host ++ ':' :: portText port

def parsePredictionDisplay (value : Option Argument) : Except CliError PredictionDisplay :=
  match value.getD "adaptive".toList with
  | ['a', 'd', 'a', 'p', 't', 'i', 'v', 'e'] => .ok .adaptive
  | ['a', 'l', 'w', 'a', 'y', 's'] => .ok .always
  | ['n', 'e', 'v', 'e', 'r'] => .ok .never
  | _ =>
      .error (.failure "MOSH_PREDICTION_DISPLAY must be adaptive, always, or never".toList)

/-- A single character of one byte but the null character. -/
def parseEscapeKey (value : Argument) : Except CliError UInt8 :=
  match value with
  | [character] =>
      if 1 ≤ character.toNat ∧ character.toNat ≤ 127 then .ok (UInt8.ofNat character.toNat)
      else .error escapeKeyRefused
  | _ => .error escapeKeyRefused
where
  escapeKeyRefused : CliError :=
    .failure "MOSH_ESCAPE_KEY must be one literal ASCII character in the range 1-127".toList

abbrev Environment := String → Option Argument

/-- The settings of a connection, read behind a good port. -/
def connectCommand (environment : Environment) (verbosity : UInt8) (host : Argument)
    (port : UInt16) : Except CliError Command := do
  let escapeByte ← (environment "MOSH_ESCAPE_KEY").elim (.ok Cli.DEFAULT_ESCAPE_BYTE) parseEscapeKey
  let predictionDisplay ← parsePredictionDisplay (environment "MOSH_PREDICTION_DISPLAY")
  return .connect {
    endpoint := formatEndpoint host port
    verbosity
    escapeByte
    titleNoPrefix := (environment "MOSH_TITLE_NOPREFIX").isSome
    predictionDisplay
    predictionOverwrite := environment "MOSH_PREDICTION_OVERWRITE" = some "yes".toList }

def badPort (program port : Argument) : CliError :=
  .failure (program ++ ": Bad UDP port (".toList ++ port ++ ")\n\n".toList ++ usage program)

/-- `parse_command` behind the name of the program. -/
def parseWords (program : Argument) (remaining : List Argument) (environment : Environment) :
    Except CliError Command :=
  if "--help".toList ∈ remaining then .ok (.help program)
  else if "--version".toList ∈ remaining then .ok .version
  else
    match readArguments 0 [] remaining with
    | none => .error (.failure (usage program))
    | some .colors => .ok .colors
    | some (.positionals verbosity [host, port]) =>
        match (parsePortNumber port).filter (· ≠ 0) with
        | none => .error (badPort program port)
        | some number => connectCommand environment verbosity host number
    | some (.positionals _ _) => .error (.failure (usage program))

def parseCommand (arguments : List Argument) (environment : Environment) : Except CliError Command :=
  parseWords (arguments.headD "ferrumtty".toList) arguments.tail environment

end FerrumTty.Client
