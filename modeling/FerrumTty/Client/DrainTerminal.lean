import FerrumTty.Runtime.SessionRuntime
import FerrumTty.Terminal.Keys

/-!
# The key loop of the client

`drain_terminal` of `ferrumtty-client` forwards the bytes of a key to the session and offers the
key to the predictor. The bytes pass through the escape interpreter and the prediction does not.
-/

namespace FerrumTty.Client

set_option autoImplicit false

open Crypto State FerrumTty.Runtime Predict FerrumTty.Terminal

def predictionAction (key : KeyEvent) : PredictionAction :=
  if key.modifiers.alt = false ∧ key.modifiers.control = false then
    match key.code with
    | .char character =>
        if isControl character then .barrier
        else if character.toNat < 0x80 then .printableAscii (UInt8.ofNat character.toNat)
        else .printableUtf8 character
    | .backspace => .backspace
    | .left => .left
    | .right => .right
    | _ => .barrier
  else .barrier

/-- The session, the predictor and the escape interpreter of the client. -/
structure KeyLoop (terminal : Terminal) where
  runtime : SessionRuntime terminal
  predictor : PredictionOverlay
  escape : EscapeInterpreter

/-- What became of a key: nothing, a local command, or bytes for the session with the action that
was offered for them and what it shows. -/
inductive KeyReport where
  | ignored
  | held
  | help
  | quit
  | suspended
  | forwarded (bytes : Bytes) (action : PredictionAction) (shown : Option Bytes)
  deriving DecidableEq, Repr

/-- The part of `drain_terminal` that takes a pressed or repeated key. -/
def drainKey {terminal : Terminal} (loop : KeyLoop terminal) (cursorKeyMode : CursorKeyMode)
    (context : PredictionContext) (now : MonotonicTime) (key : KeyEvent) :
    Except RuntimeError KeyReport × KeyLoop terminal :=
  match encodeKeyWithMode key cursorKeyMode with
  | none => (.ok .ignored, loop)
  | some bytes =>
      let (action, escape) := loop.escape.input bytes
      let loop := { loop with escape }
      match action with
      | .hold => (.ok .held, loop)
      | .help => (.ok .help, loop)
      | .quit => (.ok .quit, loop)
      | .suspend => (.ok .suspended, { loop with runtime := loop.runtime.resume now })
      | .forward bytes =>
          let predictionFrame := loop.runtime.predictionFrameId
          let (result, runtime) := loop.runtime.queueInput bytes
          match result with
          | .error error => (.error error, { loop with runtime })
          | .ok () =>
              let (shown, predictor) := loop.predictor.offerForFrameWithContext predictionFrame
                (predictionAction key) (some context)
              (.ok (.forwarded bytes (predictionAction key) shown),
                { loop with runtime, predictor })

/-- The action stands for the bytes. A barrier stands for any. -/
def Agrees (cursorKeyMode : CursorKeyMode) : PredictionAction → Bytes → Prop
  | .printableAscii byte, bytes => bytes = String.utf8EncodeChar (Char.ofNat byte.toNat)
  | .printableUtf8 character, bytes => bytes = String.utf8EncodeChar character
  | .backspace, bytes => bytes = [0x7f]
  | .left, bytes => bytes = encodeCursorKey 0x44 .NONE cursorKeyMode
  | .right, bytes => bytes = encodeCursorKey 0x43 .NONE cursorKeyMode
  | .barrier, _ => True

/-- The key edits the line, as far as its code and the modifiers Alt and Control say. -/
def Edits (key : KeyEvent) : Prop :=
  key.modifiers.alt = false ∧ key.modifiers.control = false ∧
    ((∃ character, key.code = .char character ∧ isControl character = false)
      ∨ key.code = .backspace ∨ key.code = .left ∨ key.code = .right)

/-- The prediction leaves something out: a prefix that is held and sent along, unless the key is the
escape byte itself, or the Shift of a cursor key. -/
structure LeavesOut (escape : EscapeInterpreter) (key : KeyEvent) : Prop where
  edits : Edits key
  leaves : escape.prefixHeld = true
        ∧ (∀ character, key.code = .char character →
          String.utf8EncodeChar character ≠ [escape.escapeByte])
    ∨ escape.prefixHeld = false ∧ key.modifiers.shift = true
        ∧ (key.code = .left ∨ key.code = .right)

/-- What an editing key stands for. -/
def plainBytes (cursorKeyMode : CursorKeyMode) : KeyCode → Bytes
  | .char character => String.utf8EncodeChar character
  | .backspace => [0x7f]
  | .left => encodeCursorKey 0x44 .NONE cursorKeyMode
  | .right => encodeCursorKey 0x43 .NONE cursorKeyMode
  | _ => []

section Keys

variable {cursorKeyMode : CursorKeyMode} {key : KeyEvent} {escape : EscapeInterpreter}
  {bytes sent : Bytes}

theorem plain_cursor (finalByte : UInt8) :
    (encodeCursorKey finalByte .NONE cursorKeyMode).length = 3 := by
  cases cursorKeyMode <;> rfl

theorem shifted_cursor {modifiers : KeyModifiers} (alt : modifiers.alt = false)
    (control : modifiers.control = false) (shift : modifiers.shift = true) (finalByte : UInt8) :
    (encodeCursorKey finalByte modifiers cursorKeyMode).length = 6 := by
  cases modifiers with
  | mk shiftFlag controlFlag altFlag =>
      cases alt
      cases control
      cases shift
      rfl

theorem unshifted_cursor {modifiers : KeyModifiers} (alt : modifiers.alt = false)
    (control : modifiers.control = false) (shift : modifiers.shift = false) (finalByte : UInt8) :
    encodeCursorKey finalByte modifiers cursorKeyMode =
      encodeCursorKey finalByte .NONE cursorKeyMode := by
  cases modifiers with
  | mk shiftFlag controlFlag altFlag =>
      cases alt
      cases control
      cases shift
      rfl

theorem plain_char (character : Char) :
    plainBytes cursorKeyMode (.char character) = String.utf8EncodeChar character := rfl

theorem plain_backspace : plainBytes cursorKeyMode .backspace = [0x7f] := rfl

theorem action_printable {character : Char} (alt : key.modifiers.alt = false)
    (control : key.modifiers.control = false) (code : key.code = .char character)
    (printable : isControl character = false) :
    predictionAction key = if character.toNat < 0x80 then .printableAscii (UInt8.ofNat character.toNat)
      else .printableUtf8 character := by
  have typed : ¬ isControl character = true := by simp [printable]
  rw [predictionAction, code]
  exact (if_pos ⟨alt, control⟩).trans (if_neg typed)

theorem barrier_of_not_edits (other : ¬ Edits key) : predictionAction key = .barrier := by
  unfold predictionAction
  split_ifs with unmodified
  · have unkind := fun kind => other ⟨unmodified.1, unmodified.2, kind⟩
    cases code : key.code with
    | char character =>
        cases printable : isControl character with
        | true => exact if_pos printable
        | false => exact absurd (Or.inl ⟨character, code, printable⟩) unkind
    | backspace => exact absurd (Or.inr (Or.inl code)) unkind
    | left => exact absurd (Or.inr (Or.inr (Or.inl code))) unkind
    | right => exact absurd (Or.inr (Or.inr (Or.inr code))) unkind
    | _ => rfl
  · rfl

theorem agrees_iff (edits : Edits key) :
    Agrees cursorKeyMode (predictionAction key) sent ↔ sent = plainBytes cursorKeyMode key.code := by
  rcases edits with ⟨alt, control, kind⟩
  rcases kind with ⟨character, code, printable⟩ | code | code | code
  · rw [action_printable alt control code printable, code, plain_char]
    split_ifs with ascii
    · have same : (UInt8.ofNat character.toNat).toNat = character.toNat :=
        UInt8.toNat_ofNat_of_lt' (Nat.lt_trans ascii (by decide))
      rw [Agrees, same, Char.ofNat_toNat]
    · rfl
  · rw [predictionAction, if_pos ⟨alt, control⟩, code]
    rfl
  · rw [predictionAction, if_pos ⟨alt, control⟩, code]
    rfl
  · rw [predictionAction, if_pos ⟨alt, control⟩, code]
    rfl

theorem encode_edits (edits : Edits key) (encoded : encodeKeyWithMode key cursorKeyMode = some bytes) :
    (bytes = plainBytes cursorKeyMode key.code ∧
        ¬ (key.modifiers.shift = true ∧ (key.code = .left ∨ key.code = .right))) ∨
      (bytes.length = 6 ∧ (plainBytes cursorKeyMode key.code).length = 3 ∧
        key.modifiers.shift = true ∧ (key.code = .left ∨ key.code = .right)) := by
  rcases edits with ⟨alt, control, kind⟩
  have cursor : ∀ finalByte,
      bytes = encodeCursorKey finalByte key.modifiers cursorKeyMode →
      (bytes = encodeCursorKey finalByte .NONE cursorKeyMode ∧ key.modifiers.shift = false) ∨
        (bytes.length = 6 ∧ key.modifiers.shift = true) := by
    intro finalByte same
    cases shift : key.modifiers.shift with
    | false => exact Or.inl ⟨same.trans (unshifted_cursor alt control shift finalByte), rfl⟩
    | true => exact Or.inr ⟨same ▸ shifted_cursor alt control shift finalByte, rfl⟩
  rcases kind with ⟨character, code, _⟩ | code | code | code
  · simp only [encodeKeyWithMode, code, control, alt] at encoded
    simp only [Bool.false_eq_true, if_false, List.nil_append, Option.some.injEq] at encoded
    exact Or.inl ⟨by rw [code, ← encoded]; rfl, by simp [code]⟩
  · simp only [encodeKeyWithMode, code, Option.some.injEq] at encoded
    exact Or.inl ⟨by rw [code, ← encoded]; rfl, by simp [code]⟩
  · simp only [encodeKeyWithMode, code, Option.some.injEq] at encoded
    rw [code]
    rcases cursor 0x44 encoded.symm with ⟨same, unshifted⟩ | ⟨long, shifted⟩
    · exact Or.inl ⟨same, by simp [unshifted]⟩
    · exact Or.inr ⟨long, plain_cursor 0x44, shifted, Or.inl rfl⟩
  · simp only [encodeKeyWithMode, code, Option.some.injEq] at encoded
    rw [code]
    rcases cursor 0x43 encoded.symm with ⟨same, unshifted⟩ | ⟨long, shifted⟩
    · exact Or.inl ⟨same, by simp [unshifted]⟩
    · exact Or.inr ⟨long, plain_cursor 0x43, shifted, Or.inr rfl⟩

theorem printable_suffix {character : Char} (printable : isControl character = false)
    (single : String.utf8EncodeChar character = [escape.escapeByte]) :
    escape.literalEscapeSuffix = escape.escapeByte := by
  have size : character.utf8Size = 1 := by
    rw [← String.length_utf8EncodeChar, single]
    rfl
  have small : character.toNat ≤ 127 := UInt32.le_iff_toNat_le.mp (Char.utf8Size_eq_one_iff.mp size)
  rw [String.utf8EncodeChar_eq_singleton size, List.cons.injEq] at single
  have same : escape.escapeByte.toNat = character.toNat := by
    rw [← single.1, UInt32.toNat_toUInt8]
    exact Nat.mod_eq_of_lt (Nat.lt_of_le_of_lt small (by decide))
  simp only [isControl, Bool.or_eq_false_iff, Bool.and_eq_false_iff, decide_eq_false_iff_not]
    at printable
  have visible : 32 ≤ escape.escapeByte.toNat ∧ escape.escapeByte.toNat < 127 := by omega
  unfold EscapeInterpreter.literalEscapeSuffix
  rw [if_neg, if_neg]
  · intro deleted
    rw [deleted] at visible
    exact absurd visible.2 (by decide)
  · rintro ⟨_, control⟩
    have bound := UInt8.le_iff_toNat_le.mp control
    exact absurd (Nat.le_trans visible.1 bound) (by decide)

theorem Edits.printable {character : Char} (edits : Edits key) (code : key.code = .char character) :
    isControl character = false := by
  rcases edits.2.2 with ⟨other, same, printable⟩ | same | same | same
  · rw [code, KeyCode.char.injEq] at same
    rw [same]
    exact printable
  · rw [code] at same
    cases same
  · rw [code] at same
    cases same
  · rw [code] at same
    cases same

/-- Behind a prefix the suffix names the escape byte, which is the typed character only if the
escape byte is printable. -/
theorem literal_agrees_iff (edits : Edits key) (held : escape.prefixHeld = true)
    (suffix : [escape.literalEscapeSuffix] = plainBytes cursorKeyMode key.code) :
    [escape.escapeByte] = plainBytes cursorKeyMode key.code ↔ ¬ LeavesOut escape key := by
  have unheld : ¬ escape.prefixHeld = false := by simp [held]
  have long : ∀ finalByte, [escape.literalEscapeSuffix] ≠
      encodeCursorKey finalByte .NONE cursorKeyMode := by
    intro finalByte same
    have length := congrArg List.length same
    rw [plain_cursor] at length
    cases length
  rcases edits.2.2 with ⟨character, code, printable⟩ | code | code | code
  · rw [code, plain_char] at suffix ⊢
    constructor
    · rintro same ⟨_, ⟨_, differs⟩ | ⟨wrong, _⟩⟩
      · exact differs character code same.symm
      · exact unheld wrong
    · intro whole
      by_contra differs
      refine whole ⟨edits, Or.inl ⟨held, ?_⟩⟩
      intro other same single
      rw [code, KeyCode.char.injEq] at same
      exact differs (single.symm.trans (by rw [same]))
  · rw [code, plain_backspace, List.cons.injEq] at suffix ⊢
    apply iff_of_false
    · rintro ⟨deleted, _⟩
      rw [EscapeInterpreter.literalEscapeSuffix, deleted] at suffix
      exact absurd suffix.1 (by decide)
    · refine fun whole => whole ⟨edits, Or.inl ⟨held, ?_⟩⟩
      intro character same
      rw [code] at same
      cases same
  · rw [code] at suffix
    exact absurd suffix (long _)
  · rw [code] at suffix
    exact absurd suffix (long _)

/-- What is forwarded for a key agrees with its action, exactly unless the action leaves out a
part of it. -/
theorem forwarded_agrees_iff (encoded : encodeKeyWithMode key cursorKeyMode = some bytes)
    (forwards : EscapeInterpreter.Forwards escape bytes sent) :
    Agrees cursorKeyMode (predictionAction key) sent ↔ ¬ LeavesOut escape key := by
  by_cases edits : Edits key
  · rw [agrees_iff edits]
    have typed := encode_edits edits encoded
    cases forwards with
    | plain unheld =>
        rcases typed with ⟨same, unshifted⟩ | ⟨long, short, shifted⟩
        · apply iff_of_true same
          rintro ⟨_, ⟨held, _⟩ | ⟨_, cursor⟩⟩
          · rw [unheld] at held
            cases held
          · exact unshifted cursor
        · apply iff_of_false
          · intro same
            rw [same] at long
            omega
          · exact fun whole => whole ⟨edits, Or.inr ⟨unheld, shifted⟩⟩
    | literal held suffix =>
        rcases typed with ⟨plain, _⟩ | ⟨long, _⟩
        · exact literal_agrees_iff edits held (suffix.symm.trans plain)
        · rw [suffix] at long
          cases long
    | prefixed held other =>
        apply iff_of_false
        · intro same
          have length := congrArg List.length same
          rw [List.length_cons] at length
          rcases typed with ⟨plain, _⟩ | ⟨long, short, _⟩
          · rw [plain] at length
            omega
          · omega
        · refine fun whole => whole ⟨edits, Or.inl ⟨held, ?_⟩⟩
          intro character code single
          rcases typed with ⟨plain, _⟩ | ⟨_, _, _, left | right⟩
          · rw [code, plain_char, single] at plain
            exact other (plain.trans (by rw [printable_suffix (edits.printable code) single]))
          · rw [code] at left
            cases left
          · rw [code] at right
            cases right
  · rw [barrier_of_not_edits edits]
    exact iff_of_true trivial fun leaves => edits leaves.edits

/-- What a forwarded key offers agrees with what it sends, exactly unless it leaves out a held prefix
or the Shift of a cursor key. -/
theorem predicted_is_sent_iff {terminal : Terminal} (loop : KeyLoop terminal)
    (cursorKeyMode : CursorKeyMode) (context : PredictionContext) (now : MonotonicTime)
    (key : KeyEvent) (sent : Bytes) (action : PredictionAction) (shown : Option Bytes)
    (forwarded : (drainKey loop cursorKeyMode context now key).1 =
      .ok (.forwarded sent action shown)) :
    Agrees cursorKeyMode action sent ↔ ¬ LeavesOut loop.escape key := by
  unfold drainKey at forwarded
  cases encoded : encodeKeyWithMode key cursorKeyMode with
  | none => simp [encoded] at forwarded
  | some bytes =>
      cases interpreted : loop.escape.input bytes with
      | mk outcome escape =>
          rw [encoded] at forwarded
          simp only [interpreted] at forwarded
          cases outcome with
          | forward output =>
              have forwards := EscapeInterpreter.input_forwards (congrArg Prod.fst interpreted)
              dsimp only at forwarded
              split at forwarded
              · cases forwarded
              · cases forwarded
                exact forwarded_agrees_iff encoded forwards
          | _ => simp at forwarded

end Keys

/-- A client with a display that always shows predictions, behind the escape byte. -/
def prefixedLoop : KeyLoop lineTerminal where
  runtime := .new lineTerminal zeroKey ⟨0⟩
  predictor := .new .always false
  escape := ((EscapeInterpreter.new DEFAULT_ESCAPE_BYTE).input [DEFAULT_ESCAPE_BYTE]).2

/-- A cursor at the start of an empty line. -/
def lineStart : PredictionContext where
  row := 0
  column := 0
  columns := 80
  attributes := []
  cursorState := []

def letterKey : KeyEvent := { code := .char 'a', modifiers := .NONE }

/-- The held prefix goes before the letter, and the letter alone is offered and shown. -/
theorem prefixed_letter_differs :
    ∃ shown, (drainKey prefixedLoop .normal lineStart ⟨0⟩ letterKey).1 =
        .ok (.forwarded [0x1e, 0x61] (.printableAscii 0x61) (some shown)) ∧
      ¬ Agrees .normal (.printableAscii 0x61) [0x1e, 0x61] := by
  refine ⟨INSERT_CHARACTER ++ UNDERLINE_RENDITION ++ [0x61], by decide +kernel, ?_⟩
  rw [Agrees]
  decide

/-- Without a prefix the letter is sent as it is offered. -/
theorem plain_letter_agrees :
    Agrees .normal (.printableAscii 0x61) [0x61] ↔
      ¬ LeavesOut (EscapeInterpreter.new DEFAULT_ESCAPE_BYTE) letterKey :=
  predicted_is_sent_iff
    { prefixedLoop with escape := EscapeInterpreter.new DEFAULT_ESCAPE_BYTE } .normal lineStart ⟨0⟩
    letterKey [0x61] (.printableAscii 0x61)
    (some (INSERT_CHARACTER ++ UNDERLINE_RENDITION ++ [0x61])) (by decide +kernel)

end FerrumTty.Client
