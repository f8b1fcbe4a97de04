import FerrumTty.Terminal.TitleConservation
import Mathlib.Data.Set.Basic

/-!
# Storage of the title filter

The length of a header is tested where a byte of its command is taken, not where an ESC
settles the ESC before it. So a header grows by one byte for each ESC that comes directly
behind another, and by no more than the bound for anything else.
-/

namespace FerrumTty.Terminal

set_option autoImplicit false

open Crypto Runs TitleFilterState

/-- An OSC buffer: an introducer of either form and a command. -/
structure HeaderForm (bytes body : Bytes) : Prop where
  introduced : bytes = [0x1b, 0x5d] ++ body ∨ bytes = [0x9d] ++ body

theorem HeaderForm.introducer_length {bytes body : Bytes} (form : HeaderForm bytes body) :
    bytes.length = introducerLength bytes + body.length ∧
      bytes.drop (introducerLength bytes) = body ∧ introducerLength bytes ≤ 2 := by
  rcases form.introduced with rfl | rfl
  · refine ⟨?_, rfl, Nat.le_refl 2⟩
    change body.length + 1 + 1 = 2 + body.length
    omega
  · refine ⟨?_, rfl, (by decide : 1 ≤ 2)⟩
    change body.length + 1 = 1 + body.length
    omega

theorem HeaderForm.command_length {bytes body : Bytes} (form : HeaderForm bytes body) :
    oscCommandLength bytes = body.length := by
  rw [oscCommandLength, form.introducer_length.1, Nat.add_sub_cancel_left]

theorem HeaderForm.append {bytes body : Bytes} (form : HeaderForm bytes body) (more : Bytes) :
    HeaderForm (bytes ++ more) (body ++ more) := by
  rcases form.introduced with rfl | rfl
  · exact ⟨Or.inl (List.append_assoc _ _ _)⟩
  · exact ⟨Or.inr (List.append_assoc _ _ _)⟩

namespace TitleFilterState

def buffered : TitleFilterState → Nat
  | .oscHeader bytes _ => bytes.length
  | .title _ bytes _ => bytes.length
  | _ => 0

def headerOpen : TitleFilterState → Bool
  | .oscHeader _ _ => true
  | _ => false

def WithinLimits : TitleFilterState → Prop
  | .oscHeader bytes _ => bytes.length ≤ 2 + MAX_OSC_COMMAND_BYTES
  | .title _ bytes _ => bytes.length ≤ MAX_REMOTE_TITLE_BYTES
  | _ => True

/-- The ESCs in the current header that settled a pending ESC, after one byte more. -/
def nextDoubles (state : TitleFilterState) (count : Nat) (byte : UInt8) : Nat :=
  match state with
  | .oscHeader _ true => if byte = 0x1b then count + 1 else count
  | .oscHeader _ false => count
  | _ => 0

/-- What bounds the buffers: a title by its own limit, a header by its limit and the
doubled ESCs in it. -/
def Contained (state : TitleFilterState) (doubles : Nat) : Prop :=
  match state with
  | .oscHeader bytes _ => ∃ body, HeaderForm bytes body ∧
      doubles ≤ body.length ∧ body.length ≤ MAX_OSC_COMMAND_BYTES + doubles
  | .title _ bytes _ => bytes.length ≤ MAX_REMOTE_TITLE_BYTES
  | _ => True

end TitleFilterState

theorem header_byte_contained {bytes body : Bytes} {byte : UInt8} {doubles : Nat}
    (form : HeaderForm bytes body) (fewer : doubles ≤ body.length)
    (bound : byte = 0x1b → body.length ≤ MAX_OSC_COMMAND_BYTES + doubles) :
    (headerByte bytes byte).2.Contained doubles := by
  unfold headerByte
  split_ifs with ends escape separator long
  · trivial
  · exact ⟨body, form, fewer, bound escape⟩
  · cases titleCommand bytes with
    | some command => exact Nat.zero_le _
    | none => trivial
  · trivial
  · have grown := form.append [byte]
    rw [grown.command_length] at long
    refine ⟨_, grown, ?_, ?_⟩
    · rw [List.length_append]
      exact Nat.le_trans fewer (Nat.le_add_right _ _)
    · exact Nat.le_trans (Nat.le_of_not_lt long) (Nat.le_add_right _ _)

theorem osc_header_byte_contained {bytes : Bytes} {escapePending : Bool} {byte : UInt8}
    {doubles : Nat} (contained : (oscHeader bytes escapePending).Contained doubles) :
    (oscHeaderByte bytes escapePending byte).2.Contained
      ((oscHeader bytes escapePending).nextDoubles doubles byte) := by
  obtain ⟨body, form, fewer, bound⟩ := contained
  unfold oscHeaderByte
  cases escapePending with
  | false =>
      rw [if_neg Bool.false_ne_true]
      exact header_byte_contained form fewer fun _ => bound
  | true =>
      rw [if_pos rfl, nextDoubles]
      split_ifs with terminator doubled doubled
      · trivial
      · trivial
      · have grown : (body ++ [0x1b]).length = body.length + 1 := List.length_append
        apply header_byte_contained (form.append [0x1b])
        · omega
        · intro _
          omega
      · have grown : (body ++ [0x1b]).length = body.length + 1 := List.length_append
        apply header_byte_contained (form.append [0x1b])
        · omega
        · intro escape
          exact absurd escape doubled

namespace TitleOutputFilter

theorem completed_state (filter : TitleOutputFilter) (command : OscTitleCommand) (bytes : Bytes) :
    ({ filter with state := .ground }.setRemoteTitle command bytes).emitTitles.2.state = .ground := by
  rw [(emit_titles_fields _).2.1, set_remote_title_state]

theorem pended_title_byte_contained {filter : TitleOutputFilter} {command : OscTitleCommand}
    {bytes : Bytes} {capacityReached : Bool} {byte : UInt8} (doubles : Nat)
    (bound : bytes.length ≤ MAX_REMOTE_TITLE_BYTES) :
    (filter.pendedTitleByte command bytes capacityReached byte).2.state.Contained doubles := by
  unfold pendedTitleByte
  split_ifs with ends cancels escape full
  · rw [completed_state]
    trivial
  · trivial
  · exact bound
  · trivial
  · have room : bytes.length ≠ MAX_REMOTE_TITLE_BYTES := by
      intro same
      apply full
      rw [same]
      simp
    change (bytes ++ [byte]).length ≤ MAX_REMOTE_TITLE_BYTES
    rw [List.length_append, List.length_singleton]
    omega

theorem process_byte_contained {filter : TitleOutputFilter} {doubles : Nat} (byte : UInt8)
    (contained : filter.state.Contained doubles) :
    (filter.processByte byte).2.state.Contained (filter.state.nextDoubles doubles byte) := by
  unfold processByte
  cases state : filter.state with
  | ground =>
      dsimp only
      split_ifs with escape introducer
      · trivial
      · exact ⟨[], ⟨Or.inr (by rw [introducer]; rfl)⟩, Nat.le_refl 0, Nat.zero_le _⟩
      · rw [state]
        trivial
  | escape =>
      dsimp only
      split_ifs with introducer
      · exact ⟨[], ⟨Or.inl rfl⟩, Nat.le_refl 0, Nat.zero_le _⟩
      · trivial
  | oscHeader bytes escapePending =>
      rw [state] at contained
      exact osc_header_byte_contained contained
  | title command bytes escapePending =>
      rw [state] at contained
      have bound : bytes.length ≤ MAX_REMOTE_TITLE_BYTES := contained
      dsimp only
      unfold titleByte
      split_ifs with pending terminator room
      · rw [completed_state]
        trivial
      · apply pended_title_byte_contained
        rw [List.length_append]
        exact room
      · exact pended_title_byte_contained _ bound
      · exact pended_title_byte_contained _ bound
  | passthroughOsc escapePending =>
      dsimp only
      unfold passthroughByte
      split_ifs <;> trivial
  | discardTitle escapePending =>
      dsimp only
      unfold discardByte
      split_ifs <;> trivial

/-- The doubled ESCs in the current header after a stream. -/
def doubledEscapes (filter : TitleOutputFilter) (doubles : Nat) : Bytes → Nat
  | [] => doubles
  | byte :: rest =>
      (filter.processByte byte).2.doubledEscapes (filter.state.nextDoubles doubles byte) rest

theorem stream_contained {filter : TitleOutputFilter} {doubles : Nat}
    (contained : filter.state.Contained doubles) (stream : Bytes) :
    (final processByte filter stream).state.Contained (filter.doubledEscapes doubles stream) := by
  induction stream generalizing filter doubles with
  | nil => exact contained
  | cons byte rest induction => exact induction (process_byte_contained byte contained)

/-- No ESC of the stream comes while an OSC header has an ESC pending. -/
def Undoubled (filter : TitleOutputFilter) (stream : Bytes) : Prop :=
  ∀ earlier, earlier ++ [0x1b] <+: stream →
    ∀ bytes, (final processByte filter earlier).state ≠ .oscHeader bytes true

theorem Undoubled.front {filter : TitleOutputFilter} {stream read : Bytes}
    (undoubled : filter.Undoubled stream) (prefixed : read <+: stream) : filter.Undoubled read :=
  fun earlier inside => undoubled earlier (inside.trans prefixed)

theorem Undoubled.next_doubles {filter : TitleOutputFilter} {byte : UInt8} {rest : Bytes}
    (undoubled : filter.Undoubled (byte :: rest)) : filter.state.nextDoubles 0 byte = 0 := by
  unfold nextDoubles
  split
  · rename_i bytes state
    split_ifs with doubled
    · have first : [] ++ [0x1b] <+: byte :: rest := by
        rw [doubled]
        exact List.cons_prefix_cons.mpr ⟨rfl, List.nil_prefix⟩
      exact absurd state (undoubled [] first bytes)
    · rfl
  · rfl
  · rfl

theorem Undoubled.doubled_escapes {filter : TitleOutputFilter} {stream : Bytes}
    (undoubled : filter.Undoubled stream) : filter.doubledEscapes 0 stream = 0 := by
  induction stream generalizing filter with
  | nil => rfl
  | cons byte rest induction =>
      rw [doubledEscapes, undoubled.next_doubles]
      apply induction
      intro earlier inside bytes
      exact undoubled (byte :: earlier) (List.cons_prefix_cons.mpr ⟨rfl, inside⟩) bytes

/-- A buffer is no longer than its limit and the doubled ESCs in it. -/
theorem buffered_le {state : TitleFilterState} {doubles : Nat} (contained : state.Contained doubles) :
    state.buffered ≤
      MAX_REMOTE_TITLE_BYTES + if state.headerOpen = true then doubles else 0 := by
  have limits : 2 + MAX_OSC_COMMAND_BYTES ≤ MAX_REMOTE_TITLE_BYTES := by decide
  cases state with
  | oscHeader bytes escapePending =>
      obtain ⟨body, form, _, bound⟩ := contained
      obtain ⟨length, _, introducer⟩ := form.introducer_length
      change bytes.length ≤ MAX_REMOTE_TITLE_BYTES + doubles
      omega
  | title command bytes escapePending => exact contained
  | ground => exact Nat.zero_le _
  | escape => exact Nat.zero_le _
  | passthroughOsc escapePending => exact Nat.zero_le _
  | discardTitle escapePending => exact Nat.zero_le _

theorem doubles_le_buffered {state : TitleFilterState} {doubles : Nat}
    (contained : state.Contained doubles) (header : state.headerOpen = true) :
    doubles ≤ state.buffered := by
  cases state with
  | oscHeader bytes escapePending =>
      obtain ⟨body, form, fewer, _⟩ := contained
      have length := form.introducer_length.1
      change doubles ≤ bytes.length
      omega
  | title command bytes escapePending => cases header
  | ground => cases header
  | escape => cases header
  | passthroughOsc escapePending => cases header
  | discardTitle escapePending => cases header

theorem within_limits {state : TitleFilterState} (contained : state.Contained 0) :
    state.WithinLimits := by
  cases state with
  | oscHeader bytes escapePending =>
      obtain ⟨body, form, _, bound⟩ := contained
      obtain ⟨length, _, introducer⟩ := form.introducer_length
      change bytes.length ≤ 2 + MAX_OSC_COMMAND_BYTES
      omega
  | title command bytes escapePending => exact contained
  | ground => trivial
  | escape => trivial
  | passthroughOsc escapePending => trivial
  | discardTitle escapePending => trivial

/-- The buffers are bounded over a family of streams exactly when the doubled ESCs in an
unfinished header are, and without doubled ESCs the limits hold throughout. -/
theorem title_storage_bounded_iff (family : Set Bytes) :
    ((∃ bound, ∀ stream ∈ family, ((new .moshPrefix).process stream).2.state.buffered ≤ bound) ↔
      ∃ bound, ∀ stream ∈ family,
        ((new .moshPrefix).process stream).2.state.headerOpen = true →
          (new .moshPrefix).doubledEscapes 0 stream ≤ bound) ∧
    (∀ stream : Bytes, (new .moshPrefix).Undoubled stream → ∀ read, read <+: stream →
      ((new .moshPrefix).process read).2.state.WithinLimits) := by
  have reached (stream : Bytes) : ((new .moshPrefix).process stream).2.state.Contained
      ((new .moshPrefix).doubledEscapes 0 stream) := by
    rw [process_eq rfl]
    exact @stream_contained (new .moshPrefix) 0 trivial stream
  constructor
  · constructor
    · intro bounded
      obtain ⟨bound, within⟩ := bounded
      refine ⟨bound, ?_⟩
      intro stream member header
      exact Nat.le_trans (doubles_le_buffered (reached stream) header) (within stream member)
    · intro bounded
      obtain ⟨bound, within⟩ := bounded
      refine ⟨MAX_REMOTE_TITLE_BYTES + bound, ?_⟩
      intro stream member
      apply Nat.le_trans (buffered_le (reached stream))
      split_ifs with header
      · exact Nat.add_le_add_left (within stream member header) _
      · omega
  · intro stream undoubled read prefixed
    have contained := reached read
    rw [(undoubled.front prefixed).doubled_escapes] at contained
    exact within_limits contained

theorem escaped_header_state (bytes : Bytes) (count : Nat) {filter : TitleOutputFilter}
    (header : filter.state = .oscHeader bytes true) :
    (final processByte filter (List.replicate count 0x1b)).state =
      .oscHeader (bytes ++ List.replicate count 0x1b) true := by
  induction count generalizing bytes filter with
  | zero => rw [List.replicate_zero, List.append_nil]; exact header
  | succ count induction =>
      have step : (filter.processByte 0x1b).2.state = .oscHeader (bytes ++ [0x1b]) true := by
        unfold processByte
        rw [header]
        rfl
      rw [List.replicate_succ, final_cons, induction _ step, List.append_assoc]
      rfl

/-- A header of ESCs is held back for good. -/
theorem escaped_header_unbounded :
    ¬ ∃ bound, ∀ stream : Bytes, ((new .moshPrefix).process stream).2.state.buffered ≤ bound := by
  intro bounded
  obtain ⟨bound, within⟩ := bounded
  let opened := (final processByte (new .moshPrefix) [0x1b, 0x5d, 0x1b])
  have state := @escaped_header_state [0x1b, 0x5d] bound opened rfl
  have stored := within ([0x1b, 0x5d, 0x1b] ++ List.replicate bound 0x1b)
  rw [process_eq rfl, final_append, state] at stored
  change ([0x1b, 0x5d] ++ List.replicate bound 0x1b : Bytes).length ≤ bound at stored
  rw [List.length_append, List.length_replicate] at stored
  change 2 + bound ≤ bound at stored
  omega

end TitleOutputFilter

end FerrumTty.Terminal
