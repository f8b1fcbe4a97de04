import FerrumTty.Library.Insertions
import FerrumTty.Runtime.Operations
import FerrumTty.Session.Replay
import FerrumTty.Session.Transport

/-!
# Rejected packets

A packet that does not open, or whose counter the replay window rejects, leaves the whole
runtime as it is, so a run with such packets inserted is the run without them.
-/

namespace FerrumTty.Runtime

set_option autoImplicit false

open Crypto Wire State Session Runs Insertions

namespace SessionRuntime

section Rejection

variable {lib : Libraries} {runtime : SessionRuntime lib.terminal} {packet : Bytes}

/-- A rejected packet is an error and leaves the runtime unchanged, paused or running. -/
theorem receive_datagram_rejected (rejected : runtime.protocol.rejects lib packet = true)
    (now : MonotonicTime) :
    ∃ error, runtime.receiveDatagram lib packet now = (.error error, runtime) := by
  rw [receiveDatagram]
  cases running : runtime.ensureRunning with
  | error error => exact ⟨error, rfl⟩
  | ok ready =>
      obtain ⟨error, ingested⟩ := ClientProtocol.ingest_packet_rejected rejected
      refine ⟨.session error, ?_⟩
      dsimp only
      rw [ingested]

end Rejection

/-- Calls of the public methods with datagrams inserted between them. -/
abbrev InsertedCall := SessionOperation ⊕ (Bytes × MonotonicTime)

def performInserted (lib : Libraries) :
    SessionRuntime lib.terminal → InsertedCall → SessionOutput × SessionRuntime lib.terminal :=
  withInserted (perform lib) fun datagram => .receiveDatagram datagram.1 datagram.2

/-- Every inserted datagram is one that the session it arrives at rejects. -/
def InsertionsRejected {lib : Libraries}
    (events : List (Step (SessionRuntime lib.terminal) InsertedCall SessionOutput)) : Prop :=
  ∀ event ∈ events, ∀ datagram ∈ event.input.getRight?,
    event.before.protocol.rejects lib datagram.1 = true

instance {lib : Libraries}
    (events : List (Step (SessionRuntime lib.terminal) InsertedCall SessionOutput)) :
    Decidable (InsertionsRejected events) :=
  inferInstanceAs (Decidable (∀ _ ∈ _, _))

section Run

variable {lib : Libraries} {runtime : SessionRuntime lib.terminal} {calls : List InsertedCall}

theorem inserted_step_rejected
    (rejected : InsertionsRejected (trace (performInserted lib) runtime calls))
    {event : Step (SessionRuntime lib.terminal) InsertedCall SessionOutput}
    (member : event ∈ trace (performInserted lib) runtime calls)
    (inserted : event.input.isRight = true) :
    event.after = event.before ∧ event.output.isError = true := by
  have step := step_of_mem _ member
  cases call : event.input with
  | inl operation =>
      rw [call] at inserted
      cases inserted
  | inr datagram =>
      have refused : event.before.protocol.rejects lib datagram.1 = true := by
        apply rejected event member datagram
        rw [call]
        rfl
      rcases receive_datagram_rejected refused datagram.2 with ⟨error, received⟩
      rw [call] at step
      change perform lib event.before (.receiveDatagram datagram.1 datagram.2) = _ at step
      rw [perform, received] at step
      have output : SessionOutput.acted (.error error) = event.output := congrArg Prod.fst step
      have after : event.before = event.after := congrArg Prod.snd step
      constructor
      · exact after.symm
      · rw [← output]
        rfl

end Run

/-- Inserted datagrams that the session rejects return errors, and every other call starts and
ends in the state, and returns the value, that it has in the run without them. -/
theorem rejected_packets_unobservable (lib : Libraries) (runtime : SessionRuntime lib.terminal)
    (calls : List InsertedCall)
    (rejected : InsertionsRejected (trace (performInserted lib) runtime calls)) :
    keptSteps (trace (performInserted lib) runtime calls) =
        trace (perform lib) runtime (keptInputs calls) ∧
      final (performInserted lib) runtime calls = final (perform lib) runtime (keptInputs calls) ∧
      ∀ event ∈ trace (performInserted lib) runtime calls,
        event.input.isRight = true → event.output.isError = true := by
  have idle : Idle (trace (performInserted lib) runtime calls) :=
    fun _ member inserted => (inserted_step_rejected rejected member inserted).1
  have kept := run_kept idle
  refine ⟨kept.1, kept.2, ?_⟩
  intro event member inserted
  exact (inserted_step_rejected rejected member inserted).2

/-- A server state that arrives twice, with an empty datagram before it and a poll after it. -/
def duplicatedCalls : List InsertedCall :=
  let packets := plainPackets [hostBytesUpdate 0 1 [0x61]]
  .inr ([], ⟨3⟩) :: packets.map (fun packet => .inl (.receiveDatagram packet ⟨5⟩)) ++
    packets.map (fun packet => .inr (packet, ⟨7⟩)) ++ [.inl (.poll ⟨9⟩)]

theorem duplicated_state_unobservable :
    keptSteps (trace (performInserted plainLibraries) (new lineTerminal zeroKey ⟨0⟩) duplicatedCalls) =
      trace (perform plainLibraries) (new lineTerminal zeroKey ⟨0⟩) (keptInputs duplicatedCalls) :=
  (rejected_packets_unobservable plainLibraries (new lineTerminal zeroKey ⟨0⟩) duplicatedCalls
    (by decide +kernel)).1

end SessionRuntime

end FerrumTty.Runtime
