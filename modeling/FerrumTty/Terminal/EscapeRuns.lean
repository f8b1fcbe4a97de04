import FerrumTty.Terminal.Keys

/-!
# What is typed behind the escape prefix

Every sequence of keys and interruptions reads as phrases: text, a local command behind the prefix,
the prefix itself, or a prefix that was no command. The interpreter sends the phrases' text, carries
out their commands and does nothing else.
-/

namespace FerrumTty.Terminal

set_option autoImplicit false

open Crypto Predict

/-- An encoded key, or an event of another kind that gives up a held prefix. -/
inductive Keystroke where
  | key (bytes : Bytes)
  | interruption
  deriving DecidableEq

namespace EscapeInterpreter

def take (interpreter : EscapeInterpreter) : Keystroke → List EscapeAction × EscapeInterpreter
  | .key bytes => ([(interpreter.input bytes).1], (interpreter.input bytes).2)
  | .interruption => (interpreter.flush.1.toList.map .forward, interpreter.flush.2)

def interpret (interpreter : EscapeInterpreter) :
    List Keystroke → List EscapeAction × EscapeInterpreter
  | [] => ([], interpreter)
  | keystroke :: rest =>
      let (actions, interpreter) := interpreter.take keystroke
      let (later, interpreter) := interpreter.interpret rest
      (actions ++ later, interpreter)

theorem interpret_append (interpreter : EscapeInterpreter) (first second : List Keystroke) :
    interpreter.interpret (first ++ second) =
      ((interpreter.interpret first).1 ++ ((interpreter.interpret first).2.interpret second).1,
        ((interpreter.interpret first).2.interpret second).2) := by
  induction first generalizing interpreter with
  | nil => rfl
  | cons keystroke rest induction =>
      simp only [List.cons_append, interpret, induction, List.append_assoc]

end EscapeInterpreter

inductive LocalCommand where
  | help
  | quit
  | suspend
  deriving DecidableEq

def LocalCommand.byte : LocalCommand → UInt8
  | .help => 0x3f
  | .quit => 0x2e
  | .suspend => 0x1a

def LocalCommand.action : LocalCommand → EscapeAction
  | .help => .help
  | .quit => .quit
  | .suspend => .suspend

/-- A piece of what is typed: text without a prefix, a command, the prefix named by its suffix, a
prefix before a key that is none of these, a prefix before an interruption, and an interruption. -/
inductive Phrase where
  | text (bytes : Bytes)
  | command (command : LocalCommand)
  | literal
  | prefixed (bytes : Bytes)
  | interrupted
  | interruption

section Phrases

variable (escapeByte : UInt8)

def literalSuffix : UInt8 := (EscapeInterpreter.new escapeByte).literalEscapeSuffix

def isPrintable : Bool := isAsciiGraphic escapeByte || escapeByte == 0x20

def endsLine (bytes : Bytes) : Bool := bytes.getLast?.any fun byte => byte == 0x0d || byte == 0x0a

/-- The prefix is taken as one: a control character anywhere, a printable one at the start of a line
as far as the pieces that were sent tell. -/
def takesPrefix (sent : List Bytes) : Prop :=
  isPrintable escapeByte = true → (sent.getLast?.map endsLine).getD true = true

namespace Phrase

def typed : Phrase → List Keystroke
  | text bytes => [.key bytes]
  | command asked => [.key [escapeByte], .key [asked.byte]]
  | literal => [.key [escapeByte], .key [literalSuffix escapeByte]]
  | prefixed bytes => [.key [escapeByte], .key bytes]
  | interrupted => [.key [escapeByte], .interruption]
  | interruption => [.interruption]

def actions : Phrase → List EscapeAction
  | text bytes => [.forward bytes]
  | command asked => [.hold, asked.action]
  | literal => [.hold, .forward [escapeByte]]
  | prefixed bytes => [.hold, .forward (escapeByte :: bytes)]
  | interrupted => [.hold, .forward [escapeByte]]
  | interruption => []

def sent : Phrase → List Bytes
  | text bytes => [bytes]
  | command _ => []
  | literal => [[escapeByte]]
  | prefixed bytes => [escapeByte :: bytes]
  | interrupted => [[escapeByte]]
  | interruption => []

/-- The phrase can stand behind the pieces that were sent. -/
def Fits (before : List Bytes) : Phrase → Prop
  | text bytes => ¬ (bytes = [escapeByte] ∧ takesPrefix escapeByte before)
  | command _ | interrupted => takesPrefix escapeByte before
  | literal => takesPrefix escapeByte before ∧ ∀ command : LocalCommand,
      literalSuffix escapeByte ≠ command.byte
  | prefixed bytes => takesPrefix escapeByte before ∧ bytes ≠ [literalSuffix escapeByte] ∧
      ∀ command : LocalCommand, bytes ≠ [command.byte]
  | interruption => True

end Phrase

/-- Each phrase fits behind what the phrases before it sent. -/
def Script : List Bytes → List Phrase → Prop
  | _, [] => True
  | before, phrase :: rest =>
      phrase.Fits escapeByte before ∧ Script (before ++ phrase.sent escapeByte) rest

theorem script_append (before : List Bytes) (first second : List Phrase) :
    Script escapeByte before (first ++ second) ↔
      Script escapeByte before first ∧
        Script escapeByte (before ++ first.flatMap (Phrase.sent escapeByte)) second := by
  induction first generalizing before with
  | nil => simp [Script]
  | cons phrase rest induction =>
      rw [List.cons_append, Script, Script, induction, List.flatMap_cons, and_assoc, List.append_assoc]

/-- The interpreter stands behind what was sent, a prefix held or not. -/
structure Behind (sent : List Bytes) (held : Bool) (interpreter : EscapeInterpreter) : Prop where
  escape : interpreter.escapeByte = escapeByte
  prefixHeld : interpreter.prefixHeld = held
  line : isPrintable escapeByte = true →
    interpreter.atLineStart = (sent.getLast?.map endsLine).getD true

end Phrases

section Steps

variable {escapeByte : UInt8} {sent : List Bytes} {interpreter : EscapeInterpreter}

theorem new_behind (escapeByte : UInt8) : Behind escapeByte [] false (.new escapeByte) :=
  ⟨rfl, rfl, fun _ => rfl⟩

theorem Behind.takes_prefix {held : Bool} (behind : Behind escapeByte sent held interpreter) :
    takesPrefix escapeByte sent ↔
      (isPrintable escapeByte = false ∨ interpreter.atLineStart = true) := by
  unfold takesPrefix
  cases printable : isPrintable escapeByte with
  | false => simp
  | true =>
      rw [behind.line printable]
      simp

theorem Behind.suffix {held : Bool} (behind : Behind escapeByte sent held interpreter) :
    interpreter.literalEscapeSuffix = literalSuffix escapeByte := by
  rw [literalSuffix, EscapeInterpreter.literalEscapeSuffix, EscapeInterpreter.literalEscapeSuffix,
    behind.escape]
  rfl

theorem Behind.forwarded {held : Bool} (behind : Behind escapeByte sent held interpreter)
    (bytes : Bytes) (unheld : interpreter.prefixHeld = false) :
    Behind escapeByte (sent ++ [bytes]) false (interpreter.forward bytes).2 := by
  refine ⟨behind.escape, unheld, ?_⟩
  intro _
  rw [List.getLast?_concat]
  rfl

theorem Behind.hold (behind : Behind escapeByte sent false interpreter)
    (takes : takesPrefix escapeByte sent) :
    (interpreter.take (.key [escapeByte])).1 = [.hold] ∧
      Behind escapeByte sent true (interpreter.take (.key [escapeByte])).2 := by
  have recognised : [escapeByte] = [interpreter.escapeByte] ∧
      ((isAsciiGraphic interpreter.escapeByte || interpreter.escapeByte == 0x20) = false ∨
        interpreter.atLineStart = true) := by
    rw [behind.escape]
    exact ⟨rfl, behind.takes_prefix.mp takes⟩
  have input : interpreter.input [escapeByte] = (.hold, { interpreter with prefixHeld := true }) := by
    unfold EscapeInterpreter.input
    dsimp only
    rw [if_pos behind.prefixHeld, if_pos recognised]
  unfold EscapeInterpreter.take
  dsimp only
  rw [input]
  exact ⟨rfl, behind.escape, rfl, behind.line⟩

theorem Behind.plain (behind : Behind escapeByte sent false interpreter) {bytes : Bytes}
    (fits : ¬ (bytes = [escapeByte] ∧ takesPrefix escapeByte sent)) :
    (interpreter.take (.key bytes)).1 = [.forward bytes] ∧
      Behind escapeByte (sent ++ [bytes]) false (interpreter.take (.key bytes)).2 := by
  have unrecognised : ¬ (bytes = [interpreter.escapeByte] ∧
      ((isAsciiGraphic interpreter.escapeByte || interpreter.escapeByte == 0x20) = false ∨
        interpreter.atLineStart = true)) := by
    rw [behind.escape]
    rintro ⟨same, recognised⟩
    exact fits ⟨same, behind.takes_prefix.mpr recognised⟩
  have input : interpreter.input bytes = interpreter.forward bytes := by
    unfold EscapeInterpreter.input
    dsimp only
    rw [if_pos behind.prefixHeld, if_neg unrecognised]
  unfold EscapeInterpreter.take
  dsimp only
  rw [input]
  exact ⟨rfl, behind.forwarded bytes behind.prefixHeld⟩

theorem Behind.free (behind : Behind escapeByte sent true interpreter) :
    Behind escapeByte sent false { interpreter with prefixHeld := false } :=
  ⟨behind.escape, rfl, behind.line⟩

theorem Behind.released (behind : Behind escapeByte sent true interpreter) (bytes : Bytes) :
    interpreter.input bytes =
      let free := { interpreter with prefixHeld := false }
      if bytes = [0x2e] then (.quit, free)
      else if bytes = [0x3f] then (.help, free)
      else if bytes = [0x1a] then (.suspend, free)
      else if bytes = [literalSuffix escapeByte] then free.forward [escapeByte]
      else free.forward (escapeByte :: bytes) := by
  have held : ¬ interpreter.prefixHeld = false := by
    rw [behind.prefixHeld]
    decide
  unfold EscapeInterpreter.input
  dsimp only
  rw [if_neg held, behind.free.suffix, behind.escape]

theorem printable_ends_no_line (printable : isPrintable escapeByte = true) :
    endsLine [escapeByte] = false := by
  rw [endsLine, List.getLast?_singleton, Option.any_some, Bool.or_eq_false_iff, beq_eq_false_iff_ne,
    beq_eq_false_iff_ne]
  constructor <;>
  · intro same
    rw [same] at printable
    exact absurd printable (by decide)

theorem Behind.gives_up (behind : Behind escapeByte sent true interpreter) :
    (interpreter.take .interruption).1 = [.forward [escapeByte]] ∧
      Behind escapeByte (sent ++ [[escapeByte]]) false (interpreter.take .interruption).2 := by
  have flushed : interpreter.flush = (some [escapeByte],
      { interpreter with prefixHeld := false, atLineStart := false }) := by
    rw [EscapeInterpreter.flush, if_pos behind.prefixHeld, behind.escape]
  unfold EscapeInterpreter.take
  dsimp only
  rw [flushed]
  refine ⟨rfl, behind.escape, rfl, ?_⟩
  intro printable
  rw [List.getLast?_concat]
  exact (printable_ends_no_line printable).symm

theorem Behind.undisturbed (behind : Behind escapeByte sent false interpreter) :
    interpreter.take .interruption = ([], interpreter) := by
  have unheld : ¬ interpreter.prefixHeld = true := by
    rw [behind.prefixHeld]
    decide
  unfold EscapeInterpreter.take EscapeInterpreter.flush
  dsimp only
  rw [if_neg unheld]
  rfl

theorem Behind.phrase (behind : Behind escapeByte sent false interpreter) {phrase : Phrase}
    (fits : phrase.Fits escapeByte sent) :
    (interpreter.interpret (phrase.typed escapeByte)).1 = phrase.actions escapeByte ∧
      Behind escapeByte (sent ++ phrase.sent escapeByte) false
        (interpreter.interpret (phrase.typed escapeByte)).2 := by
  have two (bytes : Bytes) (takes : takesPrefix escapeByte sent) {action : EscapeAction}
      {pieces : List Bytes}
      (behaves : ∀ held, Behind escapeByte sent true held → (held.input bytes).1 = action ∧
        Behind escapeByte (sent ++ pieces) false (held.input bytes).2) :
      (interpreter.interpret [.key [escapeByte], .key bytes]).1 = [.hold, action] ∧
        Behind escapeByte (sent ++ pieces) false
          (interpreter.interpret [.key [escapeByte], .key bytes]).2 := by
    obtain ⟨held, waiting⟩ := behind.hold takes
    obtain ⟨acts, after⟩ := behaves _ waiting
    simp only [EscapeInterpreter.interpret, held]
    exact ⟨by rw [EscapeInterpreter.take, acts]; rfl, after⟩
  have other {bytes : Bytes} (plain : ∀ asked : LocalCommand, bytes ≠ [asked.byte])
      (held : EscapeInterpreter) (waiting : Behind escapeByte sent true held) :
      held.input bytes =
        if bytes = [literalSuffix escapeByte] then
          { held with prefixHeld := false }.forward [escapeByte]
        else { held with prefixHeld := false }.forward (escapeByte :: bytes) := by
    rw [waiting.released]
    dsimp only
    have quits : ¬ bytes = [0x2e] := plain .quit
    have helps : ¬ bytes = [0x3f] := plain .help
    have suspends : ¬ bytes = [0x1a] := plain .suspend
    rw [if_neg quits, if_neg helps, if_neg suspends]
  cases phrase with
  | text bytes =>
      obtain ⟨acts, after⟩ := behind.plain fits
      simp only [Phrase.typed, EscapeInterpreter.interpret, acts]
      exact ⟨rfl, after⟩
  | command asked =>
      apply two [asked.byte] fits
      intro held waiting
      rw [waiting.released]
      cases asked <;> exact ⟨rfl, (List.append_nil sent).symm ▸ waiting.free⟩
  | literal =>
      obtain ⟨takes, plain⟩ := fits
      apply two [literalSuffix escapeByte] takes
      intro held waiting
      have plainer : ∀ asked : LocalCommand, [literalSuffix escapeByte] ≠ [asked.byte] :=
        fun asked same => plain asked (List.head_eq_of_cons_eq same)
      rw [other plainer held waiting, if_pos rfl]
      exact ⟨rfl, waiting.free.forwarded _ rfl⟩
  | prefixed bytes =>
      obtain ⟨takes, unnamed, plain⟩ := fits
      apply two bytes takes
      intro held waiting
      rw [other plain held waiting, if_neg unnamed]
      exact ⟨rfl, waiting.free.forwarded _ rfl⟩
  | interrupted =>
      obtain ⟨held, waiting⟩ := behind.hold fits
      obtain ⟨acts, after⟩ := waiting.gives_up
      simp only [Phrase.typed, EscapeInterpreter.interpret, held, acts]
      exact ⟨rfl, after⟩
  | interruption =>
      simp only [Phrase.typed, EscapeInterpreter.interpret, behind.undisturbed]
      exact ⟨rfl, (List.append_nil sent).symm ▸ behind⟩

theorem Behind.script (behind : Behind escapeByte sent false interpreter) {phrases : List Phrase}
    (script : Script escapeByte sent phrases) :
    (interpreter.interpret (phrases.flatMap (Phrase.typed escapeByte))).1 =
        phrases.flatMap (Phrase.actions escapeByte) ∧
      Behind escapeByte (sent ++ phrases.flatMap (Phrase.sent escapeByte)) false
        (interpreter.interpret (phrases.flatMap (Phrase.typed escapeByte))).2 := by
  induction phrases generalizing sent interpreter with
  | nil => exact ⟨rfl, (List.append_nil sent).symm ▸ behind⟩
  | cons phrase rest induction =>
      obtain ⟨fits, others⟩ := script
      obtain ⟨acts, middle⟩ := behind.phrase fits
      obtain ⟨later, after⟩ := induction middle others
      rw [List.flatMap_cons, List.flatMap_cons, List.flatMap_cons,
        EscapeInterpreter.interpret_append, acts, ← List.append_assoc]
      exact ⟨congrArg _ later, after⟩

end Steps

section Reading

variable {escapeByte : UInt8}

/-- What is typed so far reads as phrases, with a prefix held behind them or not. -/
inductive ReadAs (escapeByte : UInt8) (keystrokes : List Keystroke) : Prop
  | whole (phrases : List Phrase) (script : Script escapeByte [] phrases)
      (typed : keystrokes = phrases.flatMap (Phrase.typed escapeByte)) : ReadAs escapeByte keystrokes
  | held (phrases : List Phrase) (script : Script escapeByte [] phrases)
      (takes : takesPrefix escapeByte (phrases.flatMap (Phrase.sent escapeByte)))
      (typed : keystrokes = phrases.flatMap (Phrase.typed escapeByte) ++ [.key [escapeByte]]) :
      ReadAs escapeByte keystrokes

theorem script_concat {phrases : List Phrase} (script : Script escapeByte [] phrases) (phrase : Phrase)
    (fits : phrase.Fits escapeByte (phrases.flatMap (Phrase.sent escapeByte))) :
    Script escapeByte [] (phrases ++ [phrase]) := by
  rw [script_append, List.nil_append]
  exact ⟨script, fits, trivial⟩

theorem ends_phrase {before : List Bytes} (takes : takesPrefix escapeByte before)
    (keystroke : Keystroke) :
    ∃ phrase : Phrase, phrase.Fits escapeByte before ∧
      phrase.typed escapeByte = [.key [escapeByte], keystroke] := by
  cases keystroke with
  | interruption => exact ⟨.interrupted, takes, rfl⟩
  | key bytes =>
      by_cases asks : ∃ asked : LocalCommand, bytes = [asked.byte]
      · obtain ⟨asked, same⟩ := asks
        exact ⟨.command asked, takes, by rw [same]; rfl⟩
      · have plain : ∀ asked : LocalCommand, bytes ≠ [asked.byte] :=
          fun asked same => asks ⟨asked, same⟩
        by_cases named : bytes = [literalSuffix escapeByte]
        · refine ⟨.literal, ⟨takes, ?_⟩, by rw [named]; rfl⟩
          intro asked same
          exact plain asked (named.trans (congrArg (fun byte => [byte]) same))
        · exact ⟨.prefixed bytes, ⟨takes, named, plain⟩, rfl⟩

theorem reads_as (escapeByte : UInt8) (keystrokes : List Keystroke) : ReadAs escapeByte keystrokes := by
  induction keystrokes using List.reverseRecOn with
  | nil => exact .whole [] trivial rfl
  | append_singleton keystrokes keystroke induction =>
      cases induction with
      | held phrases script takes typed =>
          obtain ⟨phrase, fits, spelled⟩ := ends_phrase takes keystroke
          apply ReadAs.whole (phrases ++ [phrase]) (script_concat script phrase fits)
          rw [typed, List.flatMap_append, List.flatMap_singleton, spelled, List.append_assoc]
          rfl
      | whole phrases script typed =>
          cases keystroke with
          | interruption =>
              apply ReadAs.whole (phrases ++ [.interruption]) (script_concat script .interruption trivial)
              rw [typed, List.flatMap_append]
              rfl
          | key bytes =>
              by_cases starts : bytes = [escapeByte] ∧
                  takesPrefix escapeByte (phrases.flatMap (Phrase.sent escapeByte))
              · obtain ⟨same, takes⟩ := starts
                exact .held phrases script takes (by rw [typed, same])
              · apply ReadAs.whole (phrases ++ [.text bytes]) (script_concat script (.text bytes) starts)
                rw [typed, List.flatMap_append]
                rfl

end Reading

/-- Everything typed reads as fitting phrases, a prefix perhaps held behind them, and the interpreter
carries out the phrases: it sends their text, obeys their commands and does nothing else. -/
theorem typed_phrases_carried_out (escapeByte : UInt8) (keystrokes : List Keystroke) :
    ∃ phrases held, Script escapeByte [] phrases ∧
      keystrokes = phrases.flatMap (Phrase.typed escapeByte) ++ held ∧
      (held = [] ∧ ((EscapeInterpreter.new escapeByte).interpret keystrokes).1 =
          phrases.flatMap (Phrase.actions escapeByte) ∨
        held = [.key [escapeByte]] ∧
          takesPrefix escapeByte (phrases.flatMap (Phrase.sent escapeByte)) ∧
          ((EscapeInterpreter.new escapeByte).interpret keystrokes).1 =
            phrases.flatMap (Phrase.actions escapeByte) ++ [.hold]) := by
  cases reads_as escapeByte keystrokes with
  | whole phrases script typed =>
      have carried := ((new_behind escapeByte).script script).1
      rw [← typed] at carried
      exact ⟨phrases, [], script, by rw [typed, List.append_nil], Or.inl ⟨rfl, carried⟩⟩
  | held phrases script takes typed =>
      obtain ⟨carried, behind⟩ := (new_behind escapeByte).script script
      rw [List.nil_append] at behind
      have holding := (behind.hold takes).1
      refine ⟨phrases, [.key [escapeByte]], script, typed, Or.inr ⟨rfl, takes, ?_⟩⟩
      rw [typed, EscapeInterpreter.interpret_append, carried]
      simp only [EscapeInterpreter.interpret, holding]
      rfl

end FerrumTty.Terminal
