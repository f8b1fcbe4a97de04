import FerrumTty.Terminal.TitleFilter
import Mathlib.Data.List.Infix

/-!
# Bytes outside titles

Outside titles the filter only delays: what it has put out and what it holds back are
together what it has read. One byte keeps this in every state, and so does a stream.
-/

namespace FerrumTty.Terminal

set_option autoImplicit false

open Crypto Runs

namespace TitleFilterState

/-- The bytes read that are held back: a pending ESC, or a header with its pending ESC. -/
def held : TitleFilterState → Bytes
  | .ground => []
  | .escape => [0x1b]
  | .oscHeader bytes escapePending => bytes ++ if escapePending then [0x1b] else []
  | .title _ _ _ => []
  | .passthroughOsc _ => []
  | .discardTitle _ => []

def inTitle : TitleFilterState → Bool
  | .title _ _ _ => true
  | .discardTitle _ => true
  | _ => false

end TitleFilterState

open TitleFilterState

theorem header_byte_conserves (bytes : Bytes) (byte : UInt8)
    (after : (headerByte bytes byte).2.inTitle = false) :
    (headerByte bytes byte).1 ++ (headerByte bytes byte).2.held = bytes ++ [byte] := by
  unfold headerByte at after ⊢
  split_ifs at after ⊢ with ends escape separator long
  · exact List.append_nil _
  · rw [escape]
    rfl
  · cases command : titleCommand bytes with
    | some command =>
        rw [command] at after
        cases after
    | none => exact List.append_nil _
  · exact List.append_nil _
  · exact List.append_nil _

theorem osc_header_byte_conserves (bytes : Bytes) (escapePending : Bool) (byte : UInt8)
    (after : (oscHeaderByte bytes escapePending byte).2.inTitle = false) :
    (oscHeaderByte bytes escapePending byte).1 ++ (oscHeaderByte bytes escapePending byte).2.held =
      (oscHeader bytes escapePending).held ++ [byte] := by
  unfold oscHeaderByte at after ⊢
  split_ifs at after ⊢ with pending terminator
  · rw [terminator, pending]
    change bytes ++ [0x1b, 0x5c] ++ [] = bytes ++ [0x1b] ++ [0x5c]
    rw [List.append_nil, List.append_assoc]
    rfl
  · rw [held, if_pos pending]
    exact header_byte_conserves _ byte after
  · rw [held, if_neg pending, List.append_nil]
    exact header_byte_conserves bytes byte after

theorem passthrough_byte_conserves (escapePending : Bool) (byte : UInt8) :
    (passthroughByte escapePending byte).1 = [byte] ∧
      (passthroughByte escapePending byte).2.held = [] ∧
      (passthroughByte escapePending byte).2.inTitle = false := by
  unfold passthroughByte
  split_ifs
  · exact ⟨rfl, rfl, rfl⟩
  · exact ⟨rfl, rfl, rfl⟩
  · exact ⟨rfl, rfl, rfl⟩
  · exact ⟨rfl, rfl, rfl⟩

namespace TitleOutputFilter

theorem process_byte_conserves {filter : TitleOutputFilter} {byte : UInt8}
    (before : filter.state.inTitle = false)
    (after : (filter.processByte byte).2.state.inTitle = false) :
    (filter.processByte byte).1 ++ (filter.processByte byte).2.state.held =
      filter.state.held ++ [byte] := by
  unfold processByte at after ⊢
  cases state : filter.state with
  | ground =>
      dsimp only
      split_ifs with escape introducer
      · rw [escape]
        rfl
      · rfl
      · rw [state]
        exact List.append_nil _
  | escape =>
      dsimp only
      split_ifs with introducer
      · rw [introducer]
        rfl
      · exact List.append_nil _
  | oscHeader bytes escapePending =>
      rw [state] at after
      exact osc_header_byte_conserves bytes escapePending byte after
  | passthroughOsc escapePending =>
      obtain ⟨output, nothing, _⟩ := passthrough_byte_conserves escapePending byte
      dsimp only
      rw [output, nothing]
      rfl
  | title command bytes escapePending =>
      rw [state] at before
      cases before
  | discardTitle escapePending =>
      rw [state] at before
      cases before

theorem stream_conserves {filter : TitleOutputFilter} {stream : Bytes}
    (outside : ∀ earlier, earlier <+: stream →
      (final processByte filter earlier).state.inTitle = false) :
    (outputs processByte filter stream).flatten ++ (final processByte filter stream).state.held =
      filter.state.held ++ stream := by
  induction stream generalizing filter with
  | nil => exact (List.append_nil _).symm
  | cons byte rest induction =>
      have step := @process_byte_conserves filter byte (outside [] List.nil_prefix)
        (outside [byte] (List.cons_prefix_cons.mpr ⟨rfl, List.nil_prefix⟩))
      have later := induction fun earlier inside =>
        outside (byte :: earlier) (List.cons_prefix_cons.mpr ⟨rfl, inside⟩)
      rw [outputs_cons, List.flatten_cons, final_cons, List.append_assoc, later,
        ← List.append_assoc, step, List.append_assoc]
      rfl

/-- Outside titles every byte of a stream is forwarded in order, once, or held back. -/
theorem bytes_conserved {filter : TitleOutputFilter} (mosh : filter.policy = .moshPrefix)
    (start : filter.state = .ground) {stream : Bytes}
    (outside : ∀ earlier, earlier <+: stream → (filter.process earlier).2.state.inTitle = false)
    {read : Bytes} (prefixed : read <+: stream) :
    (filter.process read).1 ++ (filter.process read).2.state.held = read := by
  have kept := @stream_conserves filter read fun earlier inside => by
    have never := outside earlier (inside.trans prefixed)
    rwa [process_eq mosh] at never
  rw [start] at kept
  rw [process_eq mosh]
  exact kept

/-- A hyperlink, with its terminator held back for a byte. -/
theorem hyperlink_conserved :
    ((new .moshPrefix).process [0x1b, 0x5d, 0x38, 0x3b, 0x3b, 0x61, 0x1b, 0x5c, 0x1b]).1 ++ [0x1b] =
      [0x1b, 0x5d, 0x38, 0x3b, 0x3b, 0x61, 0x1b, 0x5c, 0x1b] := by
  have outside : ∀ earlier ∈ [0x1b, 0x5d, 0x38, 0x3b, 0x3b, 0x61, 0x1b, 0x5c, 0x1b].inits,
      ((new .moshPrefix).process earlier).2.state.inTitle = false := by decide
  exact @bytes_conserved (new .moshPrefix) rfl rfl _
    (fun earlier inside => outside earlier ((List.mem_inits _ _).mpr inside)) _ (List.prefix_refl _)

end TitleOutputFilter

end FerrumTty.Terminal
