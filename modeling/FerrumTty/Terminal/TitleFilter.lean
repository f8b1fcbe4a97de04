import FerrumTty.Crypto.SecureChannel
import FerrumTty.Library.Runs

/-!
# The title filter

`ferrumtty-terminal`: the filter between the remote output and the local terminal that
takes window titles out of the byte stream and writes them again with the marker in front.
It holds an unfinished control back across calls.
-/

namespace FerrumTty.Terminal

set_option autoImplicit false

open Crypto Runs

def MOSH_TITLE_PREFIX : Bytes := [0x5b, 0x6d, 0x6f, 0x73, 0x68, 0x5d, 0x20]
def MAX_OSC_COMMAND_BYTES : Nat := 16
def MAX_REMOTE_TITLE_BYTES : Nat := 1024

inductive TitlePolicy where
  | preserveRemote
  | moshPrefix
  deriving DecidableEq, Repr

inductive OscTitleCommand where
  | iconAndWindow
  | icon
  | window
  deriving DecidableEq, Repr

inductive TitleFilterState where
  | ground
  | escape
  | oscHeader (bytes : Bytes) (escapePending : Bool)
  | title (command : OscTitleCommand) (bytes : Bytes) (escapePending : Bool)
  | passthroughOsc (escapePending : Bool)
  | discardTitle (escapePending : Bool)
  deriving DecidableEq, Repr

structure RemoteTitles where
  initialized : Bool
  icon : Bytes
  window : Bytes
  deriving DecidableEq, Repr

structure TitleOutputFilter where
  policy : TitlePolicy
  state : TitleFilterState
  remote : RemoteTitles
  prefixActive : Bool
  displayed : Option (Bytes × Bytes)
  deriving DecidableEq, Repr

/-- BEL and the string terminator in its 8-bit form. -/
def completesOsc (byte : UInt8) : Bool := byte = 0x07 || byte = 0x9c

def cancelsOsc (byte : UInt8) : Bool := byte = 0x18 || byte = 0x1a

/-- The length of the introducer that an OSC buffer begins with. -/
def introducerLength (bytes : Bytes) : Nat := if [0x1b, 0x5d].isPrefixOf bytes then 2 else 1

def oscCommandLength (bytes : Bytes) : Nat := bytes.length - introducerLength bytes

/-- An OSC buffer that is shorter than its introducer has no command. -/
def titleCommand (bytes : Bytes) : Option OscTitleCommand :=
  if bytes.length < introducerLength bytes then none
  else
    match bytes.drop (introducerLength bytes) with
    | [] => some .iconAndWindow
    | [0x30] => some .iconAndWindow
    | [0x31] => some .icon
    | [0x32] => some .window
    | _ => none

/-- `\x1b]0;…\x07`, or `\x1b]1;…\x07` and `\x1b]2;…\x07` -/
def encodeTitles (icon window : Bytes) : Bytes :=
  if icon = window then [0x1b, 0x5d, 0x30, 0x3b] ++ window ++ [0x07]
  else
    [0x1b, 0x5d, 0x31, 0x3b] ++ icon ++ [0x07, 0x1b, 0x5d, 0x32, 0x3b] ++ window ++ [0x07]

/-- An OSC header after its pending ESC is settled. -/
def headerByte (bytes : Bytes) (byte : UInt8) : Bytes × TitleFilterState :=
  if completesOsc byte || cancelsOsc byte then (bytes ++ [byte], .ground)
  else if byte = 0x1b then ([], .oscHeader bytes true)
  else if byte = 0x3b then
    match titleCommand bytes with
    | some command => ([], .title command [] false)
    | none => (bytes ++ [byte], .passthroughOsc false)
  else if oscCommandLength (bytes ++ [byte]) > MAX_OSC_COMMAND_BYTES then
    (bytes ++ [byte], .passthroughOsc false)
  else ([], .oscHeader (bytes ++ [byte]) false)

def oscHeaderByte (bytes : Bytes) (escapePending : Bool) (byte : UInt8) :
    Bytes × TitleFilterState :=
  if escapePending then
    if byte = 0x5c then (bytes ++ [0x1b, 0x5c], .ground) else headerByte (bytes ++ [0x1b]) byte
  else headerByte bytes byte

def passthroughByte (escapePending : Bool) (byte : UInt8) : Bytes × TitleFilterState :=
  if escapePending && byte = 0x5c then ([byte], .ground)
  else if completesOsc byte || cancelsOsc byte then ([byte], .ground)
  else if byte = 0x1b then ([byte], .passthroughOsc true)
  else ([byte], .passthroughOsc false)

def discardByte (escapePending : Bool) (byte : UInt8) : TitleFilterState :=
  if escapePending && byte = 0x5c then .ground
  else if completesOsc byte || cancelsOsc byte then .ground
  else if byte = 0x1b then .discardTitle true
  else .discardTitle false

namespace TitleOutputFilter

def new (policy : TitlePolicy) : TitleOutputFilter where
  policy := policy
  state := .ground
  remote := { initialized := false, icon := [], window := [] }
  prefixActive := policy = .moshPrefix
  displayed := none

def setRemoteTitle (filter : TitleOutputFilter) (command : OscTitleCommand) (bytes : Bytes) :
    TitleOutputFilter :=
  match command with
  | .iconAndWindow => { filter with remote := { initialized := true, icon := bytes, window := bytes } }
  | .icon => { filter with remote := { filter.remote with initialized := true, icon := bytes } }
  | .window => { filter with remote := { filter.remote with initialized := true, window := bytes } }

def emittedWindow (filter : TitleOutputFilter) : Bytes :=
  (if filter.prefixActive then MOSH_TITLE_PREFIX else []) ++ filter.remote.window

def emittedIcon (filter : TitleOutputFilter) : Bytes :=
  if filter.prefixActive && filter.remote.icon = filter.remote.window then filter.emittedWindow
  else filter.remote.icon

def emitTitles (filter : TitleOutputFilter) : Bytes × TitleOutputFilter :=
  if !filter.remote.initialized then ([], filter)
  else if filter.displayed = some (filter.emittedIcon, filter.emittedWindow) then ([], filter)
  else
    (encodeTitles filter.emittedIcon filter.emittedWindow,
      { filter with displayed := some (filter.emittedIcon, filter.emittedWindow) })

/-- A title after its pending ESC is settled. -/
def pendedTitleByte (filter : TitleOutputFilter) (command : OscTitleCommand) (bytes : Bytes)
    (capacityReached : Bool) (byte : UInt8) : Bytes × TitleOutputFilter :=
  if completesOsc byte then ({ filter with state := .ground }.setRemoteTitle command bytes).emitTitles
  else if cancelsOsc byte then ([], { filter with state := .ground })
  else if byte = 0x1b then ([], { filter with state := .title command bytes true })
  else if capacityReached || bytes.length = MAX_REMOTE_TITLE_BYTES then
    ([], { filter with state := .discardTitle false })
  else ([], { filter with state := .title command (bytes ++ [byte]) false })

def titleByte (filter : TitleOutputFilter) (command : OscTitleCommand) (bytes : Bytes)
    (escapePending : Bool) (byte : UInt8) : Bytes × TitleOutputFilter :=
  if escapePending then
    if byte = 0x5c then ({ filter with state := .ground }.setRemoteTitle command bytes).emitTitles
    else if bytes.length < MAX_REMOTE_TITLE_BYTES then
      filter.pendedTitleByte command (bytes ++ [0x1b]) false byte
    else filter.pendedTitleByte command bytes true byte
  else filter.pendedTitleByte command bytes false byte

/-- The bytes that one byte of input adds to the output. -/
def processByte (filter : TitleOutputFilter) (byte : UInt8) : Bytes × TitleOutputFilter :=
  match filter.state with
  | .ground =>
      if byte = 0x1b then ([], { filter with state := .escape })
      else if byte = 0x9d then ([], { filter with state := .oscHeader [byte] false })
      else ([byte], filter)
  | .escape =>
      if byte = 0x5d then ([], { filter with state := .oscHeader [0x1b, 0x5d] false })
      else ([0x1b, byte], { filter with state := .ground })
  | .oscHeader bytes escapePending =>
      let (output, state) := oscHeaderByte bytes escapePending byte
      (output, { filter with state })
  | .title command bytes escapePending => filter.titleByte command bytes escapePending byte
  | .passthroughOsc escapePending =>
      let (output, state) := passthroughByte escapePending byte
      (output, { filter with state })
  | .discardTitle escapePending => ([], { filter with state := discardByte escapePending byte })

def processBytes (filter : TitleOutputFilter) : Bytes → Bytes × TitleOutputFilter
  | [] => ([], filter)
  | byte :: rest =>
      let (output, next) := filter.processByte byte
      let (more, last) := next.processBytes rest
      (output ++ more, last)

def process (filter : TitleOutputFilter) (bytes : Bytes) : Bytes × TitleOutputFilter :=
  if filter.policy = .preserveRemote then (bytes, filter) else filter.processBytes bytes

def restoreRemoteTitle (filter : TitleOutputFilter) : Bytes × TitleOutputFilter :=
  if filter.policy ≠ .moshPrefix || !filter.prefixActive then ([], filter)
  else { filter with prefixActive := false }.emitTitles

def reapplyPolicy (filter : TitleOutputFilter) : Bytes × TitleOutputFilter :=
  if filter.policy ≠ .moshPrefix || filter.prefixActive then ([], filter)
  else { filter with prefixActive := true }.emitTitles

theorem process_bytes_eq (filter : TitleOutputFilter) (bytes : Bytes) :
    filter.processBytes bytes =
      ((outputs processByte filter bytes).flatten, final processByte filter bytes) := by
  induction bytes generalizing filter with
  | nil => rfl
  | cons byte rest induction =>
      have later := induction (filter.processByte byte).2
      change ((filter.processByte byte).1 ++ ((filter.processByte byte).2.processBytes rest).1,
        ((filter.processByte byte).2.processBytes rest).2) = _
      rw [later]
      rfl

theorem process_eq {filter : TitleOutputFilter} (mosh : filter.policy = .moshPrefix)
    (bytes : Bytes) :
    filter.process bytes =
      ((outputs processByte filter bytes).flatten, final processByte filter bytes) := by
  rw [process, mosh, if_neg (by decide), process_bytes_eq]

theorem emit_titles_fields (filter : TitleOutputFilter) :
    filter.emitTitles.2.policy = filter.policy ∧ filter.emitTitles.2.state = filter.state ∧
      filter.emitTitles.2.remote = filter.remote ∧
      filter.emitTitles.2.prefixActive = filter.prefixActive := by
  unfold emitTitles
  split_ifs
  · exact ⟨rfl, rfl, rfl, rfl⟩
  · exact ⟨rfl, rfl, rfl, rfl⟩
  · exact ⟨rfl, rfl, rfl, rfl⟩

theorem emit_titles_output (filter : TitleOutputFilter) :
    filter.emitTitles.1 = [] ∨
      filter.emitTitles.1 = encodeTitles filter.emittedIcon filter.emittedWindow := by
  unfold emitTitles
  split_ifs
  · exact Or.inl rfl
  · exact Or.inl rfl
  · exact Or.inr rfl

@[simp] theorem set_remote_title_state (filter : TitleOutputFilter) (command : OscTitleCommand)
    (bytes : Bytes) : (filter.setRemoteTitle command bytes).state = filter.state := by
  cases command <;> rfl

@[simp] theorem set_remote_title_policy (filter : TitleOutputFilter) (command : OscTitleCommand)
    (bytes : Bytes) : (filter.setRemoteTitle command bytes).policy = filter.policy := by
  cases command <;> rfl

@[simp] theorem set_remote_title_prefix_active (filter : TitleOutputFilter)
    (command : OscTitleCommand) (bytes : Bytes) :
    (filter.setRemoteTitle command bytes).prefixActive = filter.prefixActive := by
  cases command <;> rfl

theorem process_byte_fields (filter : TitleOutputFilter) (byte : UInt8) :
    (filter.processByte byte).2.policy = filter.policy ∧
      (filter.processByte byte).2.prefixActive = filter.prefixActive := by
  have completed (command : OscTitleCommand) (bytes : Bytes) :
      ({ filter with state := .ground }.setRemoteTitle command bytes).emitTitles.2.policy =
          filter.policy ∧
        ({ filter with state := .ground }.setRemoteTitle command bytes).emitTitles.2.prefixActive =
          filter.prefixActive := by
    obtain ⟨policy, _, _, active⟩ :=
      ({ filter with state := .ground }.setRemoteTitle command bytes).emit_titles_fields
    rw [policy, active, set_remote_title_policy, set_remote_title_prefix_active]
    exact ⟨rfl, rfl⟩
  have pended (command : OscTitleCommand) (bytes : Bytes) (capacityReached : Bool) :
      (filter.pendedTitleByte command bytes capacityReached byte).2.policy = filter.policy ∧
        (filter.pendedTitleByte command bytes capacityReached byte).2.prefixActive =
          filter.prefixActive := by
    unfold pendedTitleByte
    split_ifs
    · exact completed command bytes
    · exact ⟨rfl, rfl⟩
    · exact ⟨rfl, rfl⟩
    · exact ⟨rfl, rfl⟩
    · exact ⟨rfl, rfl⟩
  unfold processByte
  cases filter.state with
  | ground =>
      dsimp only
      split_ifs
      · exact ⟨rfl, rfl⟩
      · exact ⟨rfl, rfl⟩
      · exact ⟨rfl, rfl⟩
  | escape =>
      dsimp only
      split_ifs
      · exact ⟨rfl, rfl⟩
      · exact ⟨rfl, rfl⟩
  | oscHeader bytes escapePending => exact ⟨rfl, rfl⟩
  | title command bytes escapePending =>
      dsimp only
      unfold titleByte
      split_ifs
      · exact completed command bytes
      · exact pended command _ false
      · exact pended command _ true
      · exact pended command _ false
  | passthroughOsc escapePending => exact ⟨rfl, rfl⟩
  | discardTitle escapePending => exact ⟨rfl, rfl⟩

end TitleOutputFilter

/-- What the client asks of the filter. -/
inductive FilterOperation where
  | process (bytes : Bytes)
  | restoreRemoteTitle
  | reapplyPolicy

namespace TitleOutputFilter

def perform (filter : TitleOutputFilter) : FilterOperation → Bytes × TitleOutputFilter
  | .process bytes => filter.process bytes
  | .restoreRemoteTitle => filter.restoreRemoteTitle
  | .reapplyPolicy => filter.reapplyPolicy

end TitleOutputFilter

end FerrumTty.Terminal
