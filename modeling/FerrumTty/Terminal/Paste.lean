import FerrumTty.Library.Delimited
import FerrumTty.Terminal.Keys

/-!
# Pasted text and focus changes

`encode_paste_with_mode` and `encode_focus_with_mode` of `ferrumtty-terminal`, and the reading of a
bracketed paste that the remote application does.
-/

namespace FerrumTty.Terminal

set_option autoImplicit false

open Crypto Delimited

def PASTE_START : Bytes := [0x1b, 0x5b, 0x32, 0x30, 0x30, 0x7e]
def PASTE_END : Bytes := [0x1b, 0x5b, 0x32, 0x30, 0x31, 0x7e]

/-- `str::as_bytes`. -/
def asBytes (contents : String) : Bytes := contents.toByteArray.data.toList

def encodePasteWithMode (contents : String) (bracketedPaste : Bool) : Bytes :=
  if bracketedPaste = false then asBytes contents
  else PASTE_START ++ asBytes contents ++ PASTE_END

def encodePaste (contents : String) : Bytes := encodePasteWithMode contents true

def encodeFocus (focused : Bool) : Bytes :=
  if focused then [0x1b, 0x5b, 0x49] else [0x1b, 0x5b, 0x4f]

def encodeFocusWithMode (focused focusReporting : Bool) : Option Bytes :=
  if focusReporting then some (encodeFocus focused) else none

/-- The pasted bytes at the front of the input, and what follows them. -/
def readPaste (input : Bytes) : Option (Bytes × Bytes) :=
  if PASTE_START <+: input then splitAtFirst PASTE_END (input.drop PASTE_START.length) else none

/-- The application reads a bracketed paste as exactly the pasted text, whatever is sent behind
it, unless the text has the closing delimiter inside. -/
theorem paste_read_back_iff (contents : String) (rest : Bytes) :
    readPaste (encodePasteWithMode contents true ++ rest) = some (asBytes contents, rest) ↔
      ¬ PASTE_END <:+: asBytes contents := by
  have opened : PASTE_START <+: encodePasteWithMode contents true ++ rest := by
    refine ⟨asBytes contents ++ PASTE_END ++ rest, ?_⟩
    simp only [encodePasteWithMode, Bool.true_eq_false, if_false, List.append_assoc]
  have body : (encodePasteWithMode contents true ++ rest).drop PASTE_START.length =
      asBytes contents ++ PASTE_END ++ rest := by
    simp only [encodePasteWithMode, Bool.true_eq_false, if_false, List.append_assoc,
      List.drop_left]
  have fresh : (0x1b : UInt8) ∉ PASTE_END.tail := by decide
  rw [readPaste, if_pos opened, body]
  exact split_content_iff fresh

example : readPaste (encodePaste "ls\x1b[201~rm" ++ [0x0d]) ≠
    some (asBytes "ls\x1b[201~rm", [0x0d]) := by decide +kernel

end FerrumTty.Terminal
