import FerrumTty.Client.Quitting
import FerrumTty.Runtime.Acknowledged

/-!
# What a clean exit means

The result of the event loop tells how the session ended. An end that the server has acknowledged
leaves nothing behind: the shutdown state that the server names holds everything that was typed.
-/

namespace FerrumTty.Runtime

set_option autoImplicit false

open Crypto Wire State Session Runs

namespace SessionRuntime

section Completed

variable {lib : Libraries} {key : SessionKey} {start : MonotonicTime}
  {operations : List SessionOperation}

theorem completed_by_poll (lawful : LawfulAead lib.aead)
    (succeed : PollsSucceed (trace (perform lib) (new lib.terminal key start) operations))
    {outcome : ShutdownOutcome}
    (complete : (final (perform lib) (new lib.terminal key start) operations).shutdown =
      .complete outcome) :
    ∃ earlier now later actions after, operations = earlier ++ .poll now :: later ∧
      PollOutcome lib (final (perform lib) (new lib.terminal key start) earlier) now
        (.ok actions, after) ∧ .shutdownComplete outcome ∈ actions := by
  induction operations using List.reverseRecOn with
  | nil => cases complete
  | append_singleton operations operation induction =>
      have member : stepAt (perform lib) (final (perform lib) (new lib.terminal key start) operations)
          operation ∈ trace (perform lib) (new lib.terminal key start) (operations ++ [operation]) :=
        (mem_trace_iff _ _ _ _).mpr ⟨operations, operation, [], rfl, rfl⟩
      have step := (event_handshake lawful succeed member).2
      rw [final_concat] at complete
      rcases step.ends outcome complete with before | reported
      · obtain ⟨earlier, now, later, actions, after, split, polled, reported⟩ :=
          induction (polls_succeed_append succeed).1 before
        refine ⟨earlier, now, later ++ [operation], actions, after, ?_, polled, reported⟩
        rw [split, List.append_assoc]
        rfl
      · cases input : operation with
        | poll now =>
            rw [input] at member reported succeed
            obtain ⟨actions, output, polled⟩ := event_poll member rfl (succeed _ member rfl)
            rw [output] at reported
            exact ⟨operations, now, [], actions, _, rfl, polled, reported⟩
        | _ =>
            have plain := step.quiet (by change operation.isPoll = false; rw [input]; rfl)
            have quiet := (plain _ reported).2
            cases quiet

theorem shutdown_stays_sent (lawful : LawfulAead lib.aead) {later : List SessionOperation}
    (kept : .cancel ∉ operations ++ later)
    (succeed : PollsSucceed (trace (perform lib) (new lib.terminal key start) (operations ++ later)))
    (sent : (final (perform lib) (new lib.terminal key start)
      operations).protocol.localShutdownSent = true) :
    (final (perform lib) (new lib.terminal key start)
      (operations ++ later)).protocol.localShutdownSent = true := by
  rw [List.mem_append, not_or] at kept
  obtain ⟨first, second⟩ := polls_succeed_append succeed
  obtain ⟨content, advance⟩ := run_advance lawful (new_ledger lib key start) kept.1 first
  obtain ⟨next, onward⟩ := run_advance lawful advance.ledger kept.2 second
  rw [final_append]
  rcases onward.issued MAXIMUM_STATE (Or.inr ⟨rfl, sent⟩) with below | ⟨_, still⟩
  · exact absurd below (UInt64.not_lt.mpr (ClientProtocol.le_maximum_state _))
  · exact still

theorem acknowledged_end (lawful : LawfulLibraries lib) (kept : .cancel ∉ operations)
    (succeed : PollsSucceed (trace (perform lib) (new lib.terminal key start) operations))
    (complete : (final (perform lib) (new lib.terminal key start) operations).shutdown =
      .complete .acknowledged) :
    (∃ event ∈ trace (perform lib) (new lib.terminal key start) operations,
      ReceivesAcknowledgement event MAXIMUM_STATE) ∧
      (final (perform lib) (new lib.terminal key start) operations).protocol.localShutdownSent =
        true := by
  obtain ⟨earlier, now, later, actions, after, split, polled, reported⟩ :=
    completed_by_poll lawful.aead succeed complete
  subst split
  have run := poll_acknowledged lawful (polls_succeed_append succeed).1 polled reported
  constructor
  · obtain ⟨event, member, receives⟩ := run.confirmed
    refine ⟨event, ?_, receives⟩
    rw [trace_append]
    exact List.mem_append_left _ member
  · apply shutdown_stays_sent lawful.aead kept succeed
    rw [ClientProtocol.localShutdownSent, run.states]
    rfl

end Completed

end SessionRuntime

end FerrumTty.Runtime

namespace FerrumTty.Client

open Crypto Wire State Session Runs FerrumTty.Runtime FerrumTty.Terminal SessionRuntime

namespace EventLoop

variable {lib : Libraries} (queries : ScreenQueries lib.terminal) (language : String)

/-- How the session stands when the loop ends without an error. -/
inductive Ended (turns : List Turn) (clean : Bool) (runtime : SessionRuntime lib.terminal) : Prop
  | completed (outcome : ShutdownOutcome) (reached : runtime.shutdownOutcome = some outcome)
      (told : clean = (outcome != .timedOut))
  | refused (told : clean = true) (received : runtime.receivedServerState = true) (turn : Turn)
      (member : turn ∈ turns) (kind : turn.receiveEnding.kind = .connectionRefused)

theorem receiving_refused {loop next : EventLoop lib} {now : MonotonicTime} {ending : IoError}
    {payloads : List Bytes}
    (refused : loop.receiving queries language now ending payloads = (.ok true, next)) :
    ending.kind = .connectionRefused ∧ next.runtime.receivedServerState = true := by
  induction payloads generalizing loop with
  | nil =>
      have result := congrArg Prod.fst refused
      have same : loop.runtime = next.runtime := congrArg (fun outcome => outcome.2.runtime) refused
      rw [← same]
      change receiveResult language loop.runtime.receivedServerState ending = .ok true at result
      unfold receiveResult at result
      by_cases waits : ending.kind = .wouldBlock
      · rw [if_pos waits] at result
        cases result
      · rw [if_neg waits] at result
        by_contra other
        rw [if_neg other] at result
        cases result
  | cons payload rest induction =>
      rw [receiving_cons] at refused
      obtain ⟨_, middle, _, later⟩ := Outcome.andThen_ok refused
      exact induction later

theorem turn_ended {loop next : EventLoop lib} {turn : Turn} {clean : Bool}
    (ended : loop.turnOnce queries language turn = (.ok (some clean), next)) :
    Ended [turn] clean next.runtime := by
  unfold turnOnce at ended
  obtain ⟨_, asked, _, ended⟩ := Outcome.andThen_ok ended
  obtain ⟨refused, drained, received, ended⟩ := Outcome.andThen_ok ended
  cases refused with
  | true =>
      obtain ⟨kind, known⟩ := receiving_refused queries language received
      cases ended
      exact .refused rfl known turn List.mem_cons_self kind
  | false =>
      obtain ⟨_, typed, _, ended⟩ := Outcome.andThen_ok ended
      obtain ⟨_, last, _, ended⟩ := Outcome.andThen_ok ended
      have same : last = next := congrArg Prod.snd ended
      have told := congrArg Prod.fst ended
      subst same
      cases reached : last.runtime.shutdownOutcome with
      | none => simp [reached] at told
      | some outcome =>
          rw [reached] at told
          exact .completed outcome reached (by simpa using told.symm)

theorem finish_runtime (loop : EventLoop lib) (result : Except String Bool) :
    (loop.finish queries language result).2.runtime = loop.runtime := by
  unfold finish Outcome.andThen reconcilePrediction
  dsimp only
  cases (Client.reconcilePrediction (localHost queries) language loop.host).1 <;> rfl

theorem run_ended {loop : EventLoop lib} {turns : List Turn} {clean : Bool}
    (ended : (run queries language loop turns).1 = some (.ok clean)) :
    Ended turns clean (run queries language loop turns).2.runtime := by
  induction turns generalizing loop with
  | nil => cases ended
  | cons turn rest induction =>
      have further {runtime : SessionRuntime lib.terminal} {among : List Turn}
          (within : among.Sublist (turn :: rest)) (told : Ended among clean runtime) :
          Ended (turn :: rest) clean runtime := by
        cases told with
        | completed outcome reached told => exact .completed outcome reached told
        | refused told received last member kind =>
            exact .refused told received last (within.subset member) kind
      rw [run] at ended ⊢
      rcases once : loop.turnOnce queries language turn with ⟨result, next⟩
      rw [once] at ended
      rcases result with message | broke
      · have failed := Option.some.inj ended
        rcases next.finish_result queries language (.error message) with same | ⟨error, other⟩
        · rw [same] at failed
          cases failed
        · rw [other] at failed
          cases failed
      · cases broke with
        | none => exact further (List.sublist_cons_self turn rest) (induction ended)
        | some broke =>
            have told := Option.some.inj ended
            dsimp only
            rw [finish_runtime]
            rcases next.finish_result queries language (.ok broke) with same | ⟨error, other⟩
            · rw [same] at told
              cases told
              exact further (List.singleton_sublist.mpr List.mem_cons_self) (turn_ended queries language once)
            · rw [other] at told
              cases told

/-- The server has acknowledged the shutdown state. The socket has got the messages of the session,
each the fragments of one update, and whoever holds the shutdown state from a selection of them
holds everything that was typed. -/
structure Confirmed (key : SessionKey) (started : MonotonicTime) (socket : Socket) (typed : List Bytes)
    (loop : EventLoop lib) (operations : List SessionOperation) (sent : List (List Bytes)) : Prop where
  reached : loop.runtime = final (perform lib) (new lib.terminal key started) operations
  messages : sent = sentMessages (trace (perform lib) (new lib.terminal key started) operations)
  attempted : loop.host.socket.attempted = socket.attempted ++ sent.flatten
  carried : ∀ packets ∈ sent, ∃ update batch, ClientProtocol.Carries lib key packets update batch
  acknowledged : ∃ event ∈ trace (perform lib) (new lib.terminal key started) operations,
    ReceivesAcknowledgement event MAXIMUM_STATE
  whole : ∀ selection : List (StateSync.Difference UInt64 Instruction),
    (∀ difference ∈ selection, Emitted lib key sent difference) → ∀ held,
      selection.foldl StateSync.receive (StateSync.initial 0) MAXIMUM_STATE = some held →
      typedBytes held = typed

theorem latest_of_sent {terminal : Terminal} {protocol : ClientProtocol terminal}
    (sent : protocol.localShutdownSent = true) : protocol.latestLocalState = MAXIMUM_STATE := by
  obtain ⟨last, newest, maximum⟩ := (Option.any_eq_true _ _).mp sent
  rw [ClientProtocol.latestLocalState, newest]
  exact of_decide_eq_true maximum

/-- A loop that ends without an error tells how its session has ended, and an end that was
acknowledged means that everything typed has arrived. -/
theorem exit_tells_delivery (lawful : LawfulLibraries lib) (queries : ScreenQueries lib.terminal)
    (language : String) (key : SessionKey) (started : MonotonicTime) (columns rows : UInt16)
    (socket : Socket) (guard : TerminalGuard lib.terminal IoError)
    (predictionDisplay : Predict.PredictionDisplay) (predictionOverwrite : Bool) (escapeByte : UInt8)
    (turns : List Turn) (clean : Bool) :
    let begun := start key started columns rows socket guard predictionDisplay predictionOverwrite
      escapeByte
    let ran := run queries language begun turns
    ran.1 = some (.ok clean) →
      Ended turns clean ran.2.runtime ∧
        (ran.2.runtime.shutdownOutcome = some .acknowledged →
          ∃ operations sent, Confirmed key started socket (typed queries language begun turns) ran.2
            operations sent) := by
  dsimp only
  set begun := start key started columns rows socket guard predictionDisplay predictionOverwrite
    escapeByte
  intro done
  refine ⟨run_ended queries language done, fun reached => ?_⟩
  obtain ⟨operations, exchange⟩ : Converses (fun _ => True) begun
      (ended (run queries language begun turns)) (typed queries language begun turns) :=
    begun.run_converses queries language fun _ _ _ _ => trivial
  have fine : (ended (run queries language begun turns)).1 = .ok (some clean) := by
    rw [ended, done]
    rfl
  obtain ⟨runtime, whole, took⟩ := exchange.goesOn (some clean) fine
  have kept : SessionOperation.cancel ∉ operations := fun member =>
    absurd (exchange.asked _ member) (by decide)
  have polls : PollsSucceed (trace (perform lib) begun.runtime operations) :=
    fun event member _ => exchange.succeed event member
  -- The session of the loop is a fresh one that was told its size.
  have sized : (run queries language begun turns).2.runtime =
      final (perform lib) (new lib.terminal key started) (.queueResize columns rows :: operations) :=
    runtime
  have sizedKept : SessionOperation.cancel ∉ .queueResize columns rows :: operations := by
    simpa using kept
  have sizedPolls : PollsSucceed (trace (perform lib) (new lib.terminal key started)
      (.queueResize columns rows :: operations)) := by
    intro event member isPoll
    rcases List.mem_cons.mp member with first | later
    · rw [first] at isPoll
      cases isPoll
    · exact polls event later isPoll
  have complete : (final (perform lib) (new lib.terminal key started)
      (.queueResize columns rows :: operations)).shutdown = .complete .acknowledged := by
    rw [← sized]
    unfold shutdownOutcome at reached
    split at reached
    · rename_i outcome state
      rw [state, Option.some.inj reached]
    · cases reached
  obtain ⟨acknowledged, sent⟩ := acknowledged_end lawful sizedKept sizedPolls complete
  obtain ⟨log, silent, ledger⟩ : ∃ log, typedBytes log.entries = [] ∧
      Ledger key begun.runtime log fun _ => [] := start_ledger lib key started columns rows
  obtain ⟨content, advance⟩ := run_advance lawful.aead ledger kept polls
  have accounts := advance.accounts lawful.codec
  have logged := run_typed begun.runtime exchange.asked log exchange.succeed
  rw [silent, List.nil_append, whole] at logged
  have flat := sent_flatten (trace (perform lib) begun.runtime operations)
  refine ⟨.queueResize columns rows :: operations,
    sentMessages (trace (perform lib) begun.runtime operations), sized, rfl, ?_, accounts.carried,
    acknowledged, ?_⟩
  · rw [flat]
    exact took.sent
  · intro selection emitted held found
    have newest := accounts.newest
    have last : (final (perform lib) begun.runtime operations).protocol.latestLocalState =
      MAXIMUM_STATE := latest_of_sent sent
    rw [(advance.ledger.closed sent).1, List.append_nil, last] at newest
    rw [(accounts.receiver emitted found).1, newest, logged]

/-- A letter, the command to quit, and a server that acknowledges both. -/
def partingTurns : List Turn :=
  [typingTurn 0 [.key { code := .char 'l', modifiers := .NONE } .press], typingTurn 100 [],
    { typingTurn 1100 [
        .key { code := .char '6', modifiers := { KeyModifiers.NONE with control := true } } .press,
        .key { code := .char '.', modifiers := .NONE } .press] with
      payloads := plainPackets [{ hostBytesUpdate 0 1 [0x24] with acknowledgedState := 1 }] },
    typingTurn 1400 [],
    { typingTurn 1500 [] with
      payloads := (plainPackets [hostBytesUpdate 0 1 [0x24],
        { hostBytesUpdate 1 2 [0x24] with acknowledgedState := MAXIMUM_STATE }]).drop 1 }]

theorem parting_turns_tell :
    (run lineQueries "en" plainClient partingTurns).1 = some (.ok true) ∧
      typed lineQueries "en" plainClient partingTurns = [[0x6c]] ∧
      ∃ operations sent, Confirmed zeroKey ⟨0⟩ ⟨fun _ _ => none, []⟩
        (typed lineQueries "en" plainClient partingTurns)
        (run lineQueries "en" plainClient partingTurns).2 operations sent := by
  have done : (run lineQueries "en" plainClient partingTurns).1 = some (.ok true) := by decide +kernel
  have told := exit_tells_delivery lawful_plain_libraries lineQueries "en" zeroKey ⟨0⟩ 80 24
    plainClient.host.socket plainClient.host.guard .adaptive false 0x1e partingTurns true done
  exact ⟨done, by decide +kernel, told.2 (by decide +kernel)⟩

end EventLoop

end FerrumTty.Client
