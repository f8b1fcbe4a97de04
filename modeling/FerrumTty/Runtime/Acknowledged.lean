import FerrumTty.Runtime.LocalInput
import FerrumTty.Runtime.LocalShutdown

/-!
# The handshake of a local shutdown

A local shutdown ends once, within a bounded number of transmissions. One that ends as
acknowledged leaves nothing behind: the server has confirmed the shutdown state, and that state
is all the input that was accepted before the request.
-/

namespace FerrumTty.Runtime

set_option autoImplicit false

open Crypto Wire State Session Runs

namespace SessionRuntime

variable {lib : Libraries}

structure AcknowledgedRun (lib : Libraries) (key : SessionKey) (start : MonotonicTime)
    (operations : List SessionOperation) : Prop where
  confirmed : ∃ event ∈ trace (perform lib) (new lib.terminal key start) operations,
    ReceivesAcknowledgement event MAXIMUM_STATE
  states : (final (perform lib) (new lib.terminal key start) operations).protocol.sentStates =
    [⟨MAXIMUM_STATE, 0⟩]
  unacknowledged :
    (final (perform lib) (new lib.terminal key start) operations).protocol.localInstructions = []
  unqueued :
    (final (perform lib) (new lib.terminal key start) operations).queuedInstructions = []
  complete : ∃ earlier now between content, operations = earlier ++ .requestShutdown now :: between ∧
    (final (perform lib) (new lib.terminal key start) earlier).lifecycle = .running ∧
    (final (perform lib) (new lib.terminal key start) earlier).shutdown = .open ∧
    Accounts key (sentMessages (trace (perform lib) (new lib.terminal key start) operations))
      (final (perform lib) (new lib.terminal key start) operations)
      (logOf ⟨[], []⟩ (trace (perform lib) (new lib.terminal key start) operations)).entries
      content ∧
    content MAXIMUM_STATE =
      (logOf ⟨[], []⟩ (trace (perform lib) (new lib.terminal key start) earlier)).entries

section Run

variable {key : SessionKey} {start : MonotonicTime} {operations : List SessionOperation}

theorem requested_entries (lawful : LawfulAead lib.aead) {earlier between : List SessionOperation}
    {now : MonotonicTime}
    (succeed : PollsSucceed (trace (perform lib) (new lib.terminal key start)
      (earlier ++ .requestShutdown now :: between)))
    (running : (final (perform lib) (new lib.terminal key start) earlier).lifecycle = .running)
    (opened : (final (perform lib) (new lib.terminal key start) earlier).shutdown = .open) :
    (logOf ⟨[], []⟩ (trace (perform lib) (new lib.terminal key start)
      (earlier ++ .requestShutdown now :: between))).entries =
      (logOf ⟨[], []⟩ (trace (perform lib) (new lib.terminal key start) earlier)).entries := by
  have steps : HandshakeSteps (trace (perform lib) (new lib.terminal key start)
      (earlier ++ .requestShutdown now :: between)) :=
    fun event member => event_handshake lawful succeed member
  rw [trace_append] at steps ⊢
  generalize final (perform lib) (new lib.terminal key start) earlier = reached at *
  have granted : reached.ensureRunning = .ok () := by
    rw [ensureRunning, running]
  have requested : (perform lib reached (.requestShutdown now)).2.shutdown = .localRequested now 0 := by
    simp only [perform, requestShutdown, granted, if_pos opened]
  rw [logOf, List.foldl_append]
  change (logOf (logStep (logOf ⟨[], []⟩ _) (stepAt (perform lib) reached (.requestShutdown now)))
    (trace (perform lib) (perform lib reached (.requestShutdown now)).2 between)).entries = _
  rw [closed_run_entries (by rw [requested]; simp) fun event member =>
    steps event (List.mem_append_right _ (List.mem_cons_of_mem _ member))]
  rfl

theorem poll_acknowledged (lawful : LawfulLibraries lib)
    (succeed : PollsSucceed (trace (perform lib) (new lib.terminal key start) operations))
    {now : MonotonicTime} {actions : List SessionAction} {after : SessionRuntime lib.terminal}
    (polled : PollOutcome lib (final (perform lib) (new lib.terminal key start) operations) now
      (.ok actions, after))
    (completes : .shutdownComplete .acknowledged ∈ actions) :
    AcknowledgedRun lib key start operations := by
  rcases polled.completion completes with
    other | ⟨_, running, incomplete, opening, middle, association, ends⟩
  · cases other
  · obtain ⟨shutdown, due, ⟨channel, protocol⟩, _⟩ := association.handshake_fields
    rcases ends_cases middle ends with ⟨undue, ⟨_, acknowledged⟩ | ⟨timedOut, _⟩⟩
    · rw [due] at undue
      rw [protocol] at acknowledged
      have kept : .cancel ∉ operations := by
        intro member
        have cancelled := @cancelled_of_mem lib (new lib.terminal key start) _ member
        rw [running] at cancelled
        cases cancelled
      obtain ⟨content, advance⟩ := run_advance lawful.aead (new_ledger lib key start) kept succeed
      obtain ⟨states, pending, all⟩ := acknowledged_settled advance.ledger.outbox acknowledged
      have sent := sent_of_acknowledged advance.ledger.outbox acknowledged
      obtain ⟨unqueued, closed⟩ := advance.ledger.closed sent
      have handshake := run_handshake lawful.aead succeed
      have requested : ∃ startedAt transmissions,
          (final (perform lib) (new lib.terminal key start) operations).shutdown =
            .localRequested startedAt transmissions := by
        cases state : (final (perform lib) (new lib.terminal key start) operations).shutdown with
        | «open» => exact absurd state closed
        | localRequested startedAt transmissions => exact ⟨startedAt, transmissions, rfl⟩
        | peerRequested =>
            rw [handshake.asked state] at undue
            cases undue
        | complete outcome => simp [shutdownIsComplete, state] at incomplete
      obtain ⟨earlier, requestedAt, between, split, ran, opened⟩ :=
        requested_split lawful.aead succeed requested
      constructor
      · rcases run_confirms lawful.aead succeed with blank | ⟨event, member, state, receives, named⟩
        · rw [confirmedState, states] at blank
          cases blank
        · rw [confirmedState, states] at named
          cases named
          exact ⟨event, member, receives⟩
      · exact states
      · exact pending
      · exact unqueued
      · refine ⟨earlier, requestedAt, between, content, split, ran, opened,
          advance.accounts lawful.codec, ?_⟩
        have drained : content MAXIMUM_STATE =
            (logOf ⟨[], []⟩ (trace (perform lib) (new lib.terminal key start) operations)).entries := by
          rw [all, InputLog.entries, ← advance.ledger.queue, unqueued, List.append_nil]
        rw [drained]
        rw [split] at succeed ⊢
        exact requested_entries lawful.aead succeed ran opened
    · cases timedOut

theorem accepted_request_closes {runtime : SessionRuntime lib.terminal} {now : MonotonicTime}
    (accepted : (perform lib runtime (.requestShutdown now)).1.isError = false) :
    (perform lib runtime (.requestShutdown now)).2.shutdown ≠ .open := by
  simp only [perform, requestShutdown] at accepted ⊢
  cases ready : runtime.ensureRunning with
  | error error =>
      rw [ready] at accepted
      cases accepted
  | ok granted =>
      dsimp only
      split_ifs with opened
      · simp
      · exact opened

theorem transmission_answers (lawful : LawfulAead lib.aead)
    (succeed : PollsSucceed (trace (perform lib) (new lib.terminal key start) operations))
    {event : RuntimeStep lib}
    (member : event ∈ trace (perform lib) (new lib.terminal key start) operations)
    (transmits : TransmitsState lib key event) {outcome : ShutdownOutcome}
    (ends : .shutdownComplete outcome ∈ event.output.actions) : outcome = .peerRequested := by
  have step := (event_handshake lawful succeed member).2
  obtain ⟨packets, listed, _⟩ := transmits
  cases input : event.input with
  | poll now =>
      have fine := succeed event member (by rw [input]; rfl)
      obtain ⟨actions, output, polled⟩ := event_poll member input fine
      rw [output] at ends listed
      rcases polled.completion ends with answered | ⟨silent, _⟩
      · exact answered
      · change packets ∈ messages actions at listed
        rw [silent] at listed
        cases listed
  | _ =>
      have plain := step.quiet (by rw [input]; rfl)
      rw [plain.silent.messages] at listed
      cases listed

end Run

/-- The shutdown handshake of a run: it ends once and moves in one direction, few polls transmit
a state behind the request, and an acknowledged end leaves nothing behind. -/
structure SoundHandshake (lib : Libraries) (key : SessionKey) (start : MonotonicTime)
    (operations : List SessionOperation) : Prop where
  endsOnce :
    EndsOnce (allActions (trace (perform lib) (new lib.terminal key start) operations))
  moves : ∀ event ∈ trace (perform lib) (new lib.terminal key start) operations,
    ShutdownMove event.before.shutdown event.after.shutdown
  bounded : ∀ earlier now later, operations = earlier ++ .requestShutdown now :: later →
    (perform lib (final (perform lib) (new lib.terminal key start) earlier)
      (.requestShutdown now)).1.isError = false →
    ∀ polls : List (RuntimeStep lib), List.Sublist polls (trace (perform lib) (perform lib
        (final (perform lib) (new lib.terminal key start) earlier) (.requestShutdown now)).2 later) →
      (∀ event ∈ polls, TransmitsState lib key event) →
      ((∀ event ∈ polls, completes event = false) → polls.length ≤ SHUTDOWN_RETRY_LIMIT.toNat) ∧
        ((∀ event ∈ polls, completes event = true) → polls.length ≤ 1)
  answers : ∀ event ∈ trace (perform lib) (new lib.terminal key start) operations,
    TransmitsState lib key event → ∀ outcome,
      .shutdownComplete outcome ∈ event.output.actions → outcome = .peerRequested
  acknowledged : ∀ earlier operation later, operations = earlier ++ operation :: later →
    .shutdownComplete .acknowledged ∈ (perform lib
      (final (perform lib) (new lib.terminal key start) earlier) operation).1.actions →
    AcknowledgedRun lib key start earlier

/-- In every run without a failing poll the local shutdown is a sound one-way handshake. -/
theorem local_shutdown_handshake (lawful : LawfulLibraries lib) (key : SessionKey)
    (start : MonotonicTime) (operations : List SessionOperation)
    (succeed : PollsSucceed (trace (perform lib) (new lib.terminal key start) operations)) :
    SoundHandshake lib key start operations := by
  have steps : HandshakeSteps (trace (perform lib) (new lib.terminal key start) operations) :=
    fun event member => event_handshake lawful.aead succeed member
  constructor
  · exact run_ends_once steps
  · intro event member
    exact (steps event member).2.move
  · intro earlier now later split accepted polls among transmit
    have closed := accepted_request_closes accepted
    have whole : operations = (earlier ++ [.requestShutdown now]) ++ later := by
      rw [split, List.append_assoc]
      rfl
    rw [← final_concat] at closed among
    rw [whole] at succeed
    have bounded := transmissions_bounded lawful succeed closed among
    constructor
    · intro ongoing
      exact bounded.1 fun event member => ⟨transmit event member, ongoing event member⟩
    · exact bounded.2
  · intro event member transmits outcome ends
    exact transmission_answers lawful.aead succeed member transmits ends
  · intro earlier operation later split ends
    have member : stepAt (perform lib) (final (perform lib) (new lib.terminal key start) earlier)
        operation ∈ trace (perform lib) (new lib.terminal key start) operations :=
      (mem_trace_iff _ _ _ _).mpr ⟨earlier, operation, later, split, rfl⟩
    have whole : PollsSucceed
        (trace (perform lib) (new lib.terminal key start) (earlier ++ operation :: later)) := split ▸ succeed
    cases input : operation with
    | poll now =>
        rw [input] at ends member
        obtain ⟨actions, output, polled⟩ := event_poll member rfl (succeed _ member rfl)
        apply poll_acknowledged lawful (polls_succeed_append whole).1 polled
        change .shutdownComplete .acknowledged ∈ (stepAt (perform lib)
          (final (perform lib) (new lib.terminal key start) earlier) (.poll now)).output.actions at ends
        rw [output] at ends
        exact ends
    | _ =>
        rw [input] at ends member
        have report := ((steps _ member).2.quiet rfl _ ends).2
        cases report

/-- Two server updates, of which the first acknowledges the input and the second the shutdown. -/
def partingPackets : List Bytes :=
  plainPackets [{ hostBytesUpdate 0 1 [0x24] with acknowledgedState := 1 },
    { hostBytesUpdate 1 2 [0x24] with acknowledgedState := MAXIMUM_STATE }]

/-- The shutdown is requested while one state is in flight and more input is queued. -/
def partingRun : List SessionOperation :=
  [.queueInput [0x6c], .poll ⟨0⟩, .queueInput [0x73], .requestShutdown ⟨100⟩, .poll ⟨1000⟩] ++
    (partingPackets.take 1).map (.receiveDatagram · ⟨1100⟩) ++ [.poll ⟨1200⟩] ++
    (partingPackets.drop 1).map (.receiveDatagram · ⟨1300⟩) ++ [.poll ⟨1300⟩]

theorem parting_run_acknowledged :
    .shutdownComplete .acknowledged ∈ allActions
      (trace (perform plainLibraries) (new lineTerminal zeroKey ⟨0⟩) partingRun) ∧
    SoundHandshake plainLibraries zeroKey ⟨0⟩ partingRun := by
  constructor
  · decide +kernel
  · exact local_shutdown_handshake lawful_plain_libraries zeroKey ⟨0⟩ partingRun (by decide +kernel)

end SessionRuntime

end FerrumTty.Runtime
