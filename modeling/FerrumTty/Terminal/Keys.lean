import FerrumTty.Predict.PredictionOverlay

/-!
# Keys of the local terminal

`ferrumtty-terminal`: the bytes that a key press stands for, and the interpreter that takes the
local commands behind the escape prefix out of them.
-/

namespace FerrumTty.Terminal

set_option autoImplicit false

open Crypto Predict

def DEFAULT_ESCAPE_BYTE : UInt8 := 0x1e
def CSI_MODIFIER_BASE : UInt8 := 1
def SHIFT_MODIFIER_VALUE : UInt8 := 1
def ALT_MODIFIER_VALUE : UInt8 := 2
def CONTROL_MODIFIER_VALUE : UInt8 := 4

inductive KeyCode where
  | backspace
  | enter
  | left
  | right
  | up
  | down
  | home
  | endKey
  | pageUp
  | pageDown
  | tab
  | backTab
  | delete
  | insert
  | f (number : UInt8)
  | char (character : Char)
  | null
  | esc
  | capsLock
  | scrollLock
  | numLock
  | printScreen
  | pause
  | menu
  | keypadBegin
  | media
  | modifier
  deriving DecidableEq, Repr

/-- The modifier flags that the encoder or the predictor asks for. -/
structure KeyModifiers where
  shift : Bool
  control : Bool
  alt : Bool
  deriving DecidableEq, Repr

def KeyModifiers.NONE : KeyModifiers := { shift := false, control := false, alt := false }

structure KeyEvent where
  code : KeyCode
  modifiers : KeyModifiers
  deriving DecidableEq, Repr

inductive CursorKeyMode where
  | normal
  | application
  deriving DecidableEq, Repr

def keyModifierParameter (modifiers : KeyModifiers) : Option UInt8 :=
  let modifierValue := modifiers.shift.toUInt8 * SHIFT_MODIFIER_VALUE
    + modifiers.alt.toUInt8 * ALT_MODIFIER_VALUE
    + modifiers.control.toUInt8 * CONTROL_MODIFIER_VALUE
  if modifierValue ≠ 0 then some (CSI_MODIFIER_BASE + modifierValue) else none

def encodeCursorKey (finalByte : UInt8) (modifiers : KeyModifiers) (cursorKeyMode : CursorKeyMode) :
    Bytes :=
  match keyModifierParameter modifiers with
  | some parameter => [0x1b, 0x5b, 0x31, 0x3b] ++ Decimal.written parameter.toNat ++ [finalByte]
  | none =>
      let introducer := match cursorKeyMode with
        | .normal => 0x5b
        | .application => 0x4f
      [0x1b, introducer, finalByte]

def encodeControl (character : Char) : Option UInt8 :=
  let byte := UInt8.ofNat character.toNat
  if '@' ≤ character ∧ character ≤ '_' then some (byte - 0x40)
  else if 'a' ≤ character ∧ character ≤ 'z' then some (byte - 0x61 + 1)
  else if character = '2' then some 0x00
  else if character = '3' then some 0x1b
  else if character = '4' then some 0x1c
  else if character = '5' then some 0x1d
  else if character = '6' then some 0x1e
  else if character = '7' then some 0x1f
  else if character = '8' ∨ character = '?' then some 0x7f
  else none

/-- The parameter of the function keys behind the fourth. -/
def functionKeyParameter (number : UInt8) : Nat :=
  if number ≤ 5 then 15
  else if number = 6 then 17
  else if number = 7 then 18
  else if number = 8 then 19
  else if number = 9 then 20
  else if number = 10 then 21
  else if number = 11 then 23
  else 24

def encodeFunctionKey (number : UInt8) (modifiers : KeyModifiers) : Option Bytes :=
  let parameter := keyModifierParameter modifiers
  if 1 ≤ number ∧ number ≤ 4 then
    match parameter with
    | none => some [0x1b, 0x4f, 0x50 + number - 1]
    | some parameter =>
        some ([0x1b, 0x5b, 0x31, 0x3b] ++ Decimal.written parameter.toNat ++ [0x50 + number - 1])
  else if 5 ≤ number ∧ number ≤ 12 then
    match parameter with
    | some parameter =>
        some ([0x1b, 0x5b] ++ Decimal.written (functionKeyParameter number) ++ [0x3b]
          ++ Decimal.written parameter.toNat ++ [0x7e])
    | none => some ([0x1b, 0x5b] ++ Decimal.written (functionKeyParameter number) ++ [0x7e])
  else none

def encodeKeyWithMode (event : KeyEvent) (cursorKeyMode : CursorKeyMode) : Option Bytes :=
  let modifiers := event.modifiers
  match event.code with
  | .char character =>
      if modifiers.control then (encodeControl character).map fun byte => [byte]
      else some ((if modifiers.alt then [0x1b] else []) ++ String.utf8EncodeChar character)
  | .enter => some [0x0d]
  | .backspace => some [0x7f]
  | .tab => some [0x09]
  | .backTab => some [0x1b, 0x5b, 0x5a]
  | .esc => some [0x1b]
  | .up => some (encodeCursorKey 0x41 modifiers cursorKeyMode)
  | .down => some (encodeCursorKey 0x42 modifiers cursorKeyMode)
  | .right => some (encodeCursorKey 0x43 modifiers cursorKeyMode)
  | .left => some (encodeCursorKey 0x44 modifiers cursorKeyMode)
  | .home => some [0x1b, 0x5b, 0x48]
  | .endKey => some [0x1b, 0x5b, 0x46]
  | .pageUp => some [0x1b, 0x5b, 0x35, 0x7e]
  | .pageDown => some [0x1b, 0x5b, 0x36, 0x7e]
  | .insert => some [0x1b, 0x5b, 0x32, 0x7e]
  | .delete => some [0x1b, 0x5b, 0x33, 0x7e]
  | .f number => encodeFunctionKey number modifiers
  | .null | .capsLock | .scrollLock | .numLock | .printScreen | .pause | .menu | .keypadBegin
  | .media | .modifier => none

inductive EscapeAction where
  | hold
  | forward (bytes : Bytes)
  | help
  | quit
  | suspend
  deriving DecidableEq, Repr

structure EscapeInterpreter where
  escapeByte : UInt8
  prefixHeld : Bool
  atLineStart : Bool
  deriving DecidableEq, Repr

namespace EscapeInterpreter

def new (escapeByte : UInt8) : EscapeInterpreter where
  escapeByte := escapeByte
  prefixHeld := false
  atLineStart := true

def literalEscapeSuffix (interpreter : EscapeInterpreter) : UInt8 :=
  if 1 ≤ interpreter.escapeByte ∧ interpreter.escapeByte ≤ 31 then interpreter.escapeByte + 64
  else if interpreter.escapeByte = 127 then 0x3f
  else interpreter.escapeByte

def forward (interpreter : EscapeInterpreter) (bytes : Bytes) : EscapeAction × EscapeInterpreter :=
  (.forward bytes,
    { interpreter with
      atLineStart := bytes.getLast?.any fun byte => byte == 0x0d || byte == 0x0a })

def input (interpreter : EscapeInterpreter) (bytes : Bytes) : EscapeAction × EscapeInterpreter :=
  if interpreter.prefixHeld = false then
    let printableEscape := isAsciiGraphic interpreter.escapeByte || interpreter.escapeByte == 0x20
    if bytes = [interpreter.escapeByte] ∧ (printableEscape = false ∨ interpreter.atLineStart = true)
    then (.hold, { interpreter with prefixHeld := true })
    else interpreter.forward bytes
  else
    let interpreter := { interpreter with prefixHeld := false }
    if bytes = [0x2e] then (.quit, interpreter)
    else if bytes = [0x3f] then (.help, interpreter)
    else if bytes = [0x1a] then (.suspend, interpreter)
    else if bytes = [interpreter.literalEscapeSuffix] then interpreter.forward [interpreter.escapeByte]
    else interpreter.forward (interpreter.escapeByte :: bytes)

def flush (interpreter : EscapeInterpreter) : Option Bytes × EscapeInterpreter :=
  if interpreter.prefixHeld then
    (some [interpreter.escapeByte], { interpreter with prefixHeld := false, atLineStart := false })
  else (none, interpreter)

/-- Why bytes are forwarded: they came without a prefix, they named the escape byte behind one, or
the prefix was no command and goes before them. -/
inductive Forwards (interpreter : EscapeInterpreter) (bytes : Bytes) : Bytes → Prop
  | plain (unheld : interpreter.prefixHeld = false) : Forwards interpreter bytes bytes
  | literal (held : interpreter.prefixHeld = true) (suffix : bytes = [interpreter.literalEscapeSuffix]) :
      Forwards interpreter bytes [interpreter.escapeByte]
  | prefixed (held : interpreter.prefixHeld = true)
      (other : bytes ≠ [interpreter.literalEscapeSuffix]) :
      Forwards interpreter bytes (interpreter.escapeByte :: bytes)

theorem input_forwards {interpreter : EscapeInterpreter} {bytes sent : Bytes}
    (forwards : (interpreter.input bytes).1 = .forward sent) : Forwards interpreter bytes sent := by
  unfold input forward at forwards
  cases held : interpreter.prefixHeld with
  | false =>
      simp only [held, if_true] at forwards
      split_ifs at forwards
      cases forwards
      exact .plain held
  | true =>
      simp only [held, Bool.true_eq_false, if_false] at forwards
      split_ifs at forwards with _ _ _ suffix
      · cases forwards
        exact .literal held suffix
      · cases forwards
        exact .prefixed held suffix

end EscapeInterpreter

end FerrumTty.Terminal
