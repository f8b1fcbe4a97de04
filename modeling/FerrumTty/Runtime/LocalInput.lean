import FerrumTty.Library.StateSync
import FerrumTty.Runtime.Ledger
import FerrumTty.Session.Transport

/-!
# Local input

The ledger of a whole run read as a specification: local input is transmitted exactly once
and in order, whatever the network does with the datagrams.
-/

namespace FerrumTty.Runtime

set_option autoImplicit false

open Crypto Wire State Session Runs

namespace SessionRuntime

variable {lib : Libraries}

/-- An update as a difference between two numbered states. -/
def differenceOf (update : StateUpdate) (batch : InstructionBatch) :
    StateSync.Difference UInt64 Instruction where
  base := update.baseState
  target := update.targetState
  delta := batch.instructions

/-- The contents account for everything that was sent: every message leads from the content of
its base to the content of its target, contents are prefixes of the log, and the newest state
and the queue behind it are the log. -/
structure Accounts (key : SessionKey) (sent : List (List Bytes)) (runtime : SessionRuntime lib.terminal)
    (log : List Instruction) (content : UInt64 → List Instruction) : Prop where
  origin : content 0 = []
  carried : ∀ packets ∈ sent, ∃ update batch, ClientProtocol.Carries lib key packets update batch
  respects : ∀ packets ∈ sent, ∀ update batch,
    ClientProtocol.Carries lib key packets update batch → (differenceOf update batch).Respects content
  within : ∀ number, content number <+: log
  newest : content runtime.protocol.latestLocalState ++ runtime.queuedInstructions = log

/-- A difference that some message of the run carries. -/
def Emitted (lib : Libraries) (key : SessionKey) (sent : List (List Bytes))
    (difference : StateSync.Difference UInt64 Instruction) : Prop :=
  ∃ packets ∈ sent, ∃ update batch, ClientProtocol.Carries lib key packets update batch ∧
    difference = differenceOf update batch

theorem Advance.accounts (lawful : LawfulCodec lib.codec) {key : SessionKey}
    {before after : SessionRuntime lib.terminal} {content next : UInt64 → List Instruction}
    {sent : List (List Bytes)} {log : InputLog}
    (advance : Advance lib key before after content sent log next) :
    Accounts key sent after log.entries next where
  origin := advance.ledger.outbox.origin
  carried := by
    intro packets member
    obtain ⟨update, batch, carries, _⟩ := advance.explained packets member
    exact ⟨update, batch, carries⟩
  respects := by
    intro packets member update batch carries
    obtain ⟨known, knownBatch, carried, explained⟩ := advance.explained packets member
    obtain ⟨same, sameBatch⟩ := carries.unique lawful carried
    rw [same, sameBatch]
    exact explained.respects
  within := by
    intro number
    exact (advance.ledger.outbox.within number).trans (List.prefix_append _ _)
  newest := by
    rw [advance.ledger.outbox.latest, advance.ledger.queue]
    rfl

/-- A receiver that applies an update iff it knows the base and not the target holds prefixes of
the log, whatever selection of the messages reaches it in whatever order. -/
theorem Accounts.receiver {key : SessionKey} {sent : List (List Bytes)}
    {runtime : SessionRuntime lib.terminal} {log : List Instruction}
    {content : UInt64 → List Instruction} (accounts : Accounts key sent runtime log content)
    {selection : List (StateSync.Difference UInt64 Instruction)}
    (emitted : ∀ difference ∈ selection, Emitted lib key sent difference) {number : UInt64}
    {held : List Instruction}
    (found : selection.foldl StateSync.receive (StateSync.initial 0) number = some held) :
    held = content number ∧ held <+: log := by
  apply StateSync.holds_prefixes accounts.origin accounts.within _ found
  intro difference member
  obtain ⟨packets, listed, update, batch, carries, same⟩ := emitted difference member
  rw [same]
  exact accounts.respects packets listed update batch carries

/-- Local input is transmitted exactly once and in order. -/
theorem local_input_exactly_once (lawful : LawfulLibraries lib) (key : SessionKey)
    (start : MonotonicTime) (operations : List SessionOperation) (kept : .cancel ∉ operations)
    (succeed : PollsSucceed (trace (perform lib) (new lib.terminal key start) operations)) :
    ∃ content : UInt64 → List Instruction,
      Accounts key (sentMessages (trace (perform lib) (new lib.terminal key start) operations))
        (final (perform lib) (new lib.terminal key start) operations)
        (logOf ⟨[], []⟩ (trace (perform lib) (new lib.terminal key start) operations)).entries
        content ∧
      ∀ selection : List (StateSync.Difference UInt64 Instruction),
        (∀ difference ∈ selection, Emitted lib key (sentMessages (trace (perform lib)
          (new lib.terminal key start) operations)) difference) →
        ∀ number held,
          selection.foldl StateSync.receive (StateSync.initial 0) number = some held →
          held = content number ∧
            held <+: (logOf ⟨[], []⟩ (trace (perform lib) (new lib.terminal key start)
              operations)).entries := by
  obtain ⟨content, advance⟩ := run_advance lawful.aead (new_ledger lib key start) kept succeed
  have accounts := advance.accounts lawful.codec
  refine ⟨content, accounts, ?_⟩
  intro selection emitted number held found
  exact accounts.receiver emitted found

/-- Two inputs with a server update between them that acknowledges the first. -/
def typedRun : List SessionOperation :=
  [.queueResize 80 24, .queueInput [0x6c], .poll ⟨0⟩, .queueInput [0x73], .poll ⟨1000⟩] ++
    (plainPackets [{ hostBytesUpdate 0 1 [0x24] with
      acknowledgedState := 1 }]).map (.receiveDatagram · ⟨1100⟩) ++
    [.poll ⟨1100⟩, .poll ⟨2100⟩]

theorem typed_run_exactly_once :
    (sentMessages (trace (perform plainLibraries) (new lineTerminal zeroKey ⟨0⟩) typedRun)).length = 5 ∧
    (logOf ⟨[], []⟩ (trace (perform plainLibraries) (new lineTerminal zeroKey ⟨0⟩) typedRun)).entries =
      [resizeInstruction ⟨80, 24⟩, bytesInstruction [0x6c], bytesInstruction [0x73]] ∧
    ∃ content : UInt64 → List Instruction,
      Accounts zeroKey
        (sentMessages (trace (perform plainLibraries) (new lineTerminal zeroKey ⟨0⟩) typedRun))
        (final (perform plainLibraries) (new lineTerminal zeroKey ⟨0⟩) typedRun)
        (logOf ⟨[], []⟩ (trace (perform plainLibraries) (new lineTerminal zeroKey ⟨0⟩)
          typedRun)).entries content := by
  refine ⟨by decide +kernel, by decide +kernel, ?_⟩
  obtain ⟨content, accounts, _⟩ := local_input_exactly_once
    lawful_plain_libraries zeroKey ⟨0⟩ typedRun (by decide +kernel) (by decide +kernel)
  exact ⟨content, accounts⟩

end SessionRuntime

end FerrumTty.Runtime
