import FerrumTty.Client.Typing

/-!
# From the keyboard to the server

The event loop joined to the ledger of its session: whatever becomes of the datagrams, a server
that applies what reaches it holds a prefix of what was typed.
-/

namespace FerrumTty.Client

set_option autoImplicit false

open Crypto Wire State Session Runs FerrumTty.Runtime FerrumTty.Terminal SessionRuntime

/-- The bytes that instructions carry, one input after the other. -/
def typedBytes (instructions : List Instruction) : List Bytes :=
  instructions.filterMap fun instruction => instruction.bytes.map ByteRun.value

theorem typed_bytes_append (first second : List Instruction) :
    typedBytes (first ++ second) = typedBytes first ++ typedBytes second := List.filterMap_append

theorem typed_bytes_prefix {first second : List Instruction} (among : first <+: second) :
    typedBytes first <+: typedBytes second := by
  obtain ⟨rest, same⟩ := among
  exact ⟨typedBytes rest, by rw [← typed_bytes_append, same]⟩

theorem messages_flatten (actions : List SessionAction) :
    (messages actions).flatten = actions.filterMap datagramOf := by
  induction actions with
  | nil => rfl
  | cons action rest induction =>
      cases action with
      | sendDatagram packet =>
          have split : (SessionAction.sendDatagram packet :: rest).filterMap datagramOf =
              packet :: rest.filterMap datagramOf := rfl
          rw [split, ← induction]
          cases rest with
          | nil => rfl
          | cons next others =>
              cases next with
              | sendDatagram following =>
                  rw [messages]
                  rcases messages (.sendDatagram following :: others) with _ | ⟨group, groups⟩
                  · rfl
                  · rfl
              | _ => rfl
      | _ => exact induction

section Logs

variable {lib : Libraries}

/-- A resize takes the place of a resize, which carries no bytes. -/
theorem resize_typed (log : InputLog) (viewport : ViewportSize) :
    typedBytes (log.resize viewport).entries = typedBytes log.entries := by
  unfold InputLog.resize
  split_ifs with resized
  · obtain ⟨last, newest, resize⟩ := (Option.any_eq_true _ _).mp resized
    have silent : typedBytes [last] = [] := by
      obtain ⟨bytes, view, marker, control⟩ := last
      cases bytes with
      | none => rfl
      | some run => simp [isResize] at resize
    have queued : log.queued = log.queued.dropLast ++ [last] :=
      (List.dropLast_append_getLast? last newest).symm
    have same : typedBytes log.queued = typedBytes log.queued.dropLast := by
      rw [queued, typed_bytes_append, silent, List.append_nil, List.dropLast_concat]
    simp only [InputLog.entries, typed_bytes_append, same]
    exact congrArg (typedBytes log.drained ++ ·) (List.append_nil _)
  · simp [InputLog.push, InputLog.entries, typedBytes, resizeInstruction]

theorem drain_typed (log : InputLog) : log.drain.entries = log.entries := List.append_nil _

theorem call_typed (runtime : SessionRuntime lib.terminal) {operation : SessionOperation}
    (asked : fromClient operation = true) (log : InputLog)
    (succeeds : (perform lib runtime operation).1.isError = false) :
    typedBytes (logStep log (stepAt (perform lib) runtime operation)).entries =
      typedBytes log.entries ++ (inputOf operation).toList := by
  cases operation with
  | queueInput bytes =>
      have step : logStep log (stepAt (perform lib) runtime (.queueInput bytes)) =
          log.push (bytesInstruction bytes) := by
        refine if_neg fun fails => ?_
        rw [stepAt, succeeds] at fails
        cases fails
      rw [step]
      simp [InputLog.push, InputLog.entries, typedBytes, bytesInstruction, inputOf]
  | queueResize columns rows =>
      change typedBytes (if _ then log.resize _ else log).entries = typedBytes log.entries ++ []
      rw [List.append_nil]
      split_ifs
      · exact resize_typed log _
      · rfl
  | poll now =>
      change typedBytes (if _ then log.drain else log).entries = typedBytes log.entries ++ []
      rw [List.append_nil]
      split_ifs
      · rw [drain_typed]
      · rfl
  | requestShutdown now => exact (List.append_nil _).symm
  | resume now => exact (List.append_nil _).symm
  | receiveDatagram packet now => exact (List.append_nil _).symm
  | _ => cases asked

theorem run_typed (runtime : SessionRuntime lib.terminal) {operations : List SessionOperation}
    (asked : ∀ operation ∈ operations, fromClient operation = true) (log : InputLog)
    (succeed : Succeed (trace (perform lib) runtime operations)) :
    typedBytes (logOf log (trace (perform lib) runtime operations)).entries =
      typedBytes log.entries ++ operations.filterMap inputOf := by
  induction operations generalizing runtime log with
  | nil => exact (List.append_nil _).symm
  | cons operation rest induction =>
      have here := call_typed runtime (asked operation List.mem_cons_self) log
        (succeed _ List.mem_cons_self)
      have later := induction (perform lib runtime operation).2
        (fun other member => asked other (List.mem_cons_of_mem _ member))
        (logStep log (stepAt (perform lib) runtime operation))
        (fun event member => succeed event (List.mem_cons_of_mem _ member))
      have split : (operation :: rest).filterMap inputOf =
          (inputOf operation).toList ++ rest.filterMap inputOf := by
        cases input : inputOf operation <;> simp [input]
      rw [trace, split, ← List.append_assoc, ← here]
      exact later

end Logs

namespace EventLoop

variable {lib : Libraries}

/-- The messages of a session tell what was typed. The datagrams that the socket has got are those
of the messages, each once and in order. A server that is brought any selection of the messages in
any order holds a prefix of what was typed. -/
structure Delivery (key : SessionKey) (socket : Socket) (typed : List Bytes)
    (ran : Option (Except String Bool) × EventLoop lib) (sent : List (List Bytes)) : Prop where
  attempted : ∃ packets, packets <+: sent.flatten ∧
    ran.2.host.socket.attempted = socket.attempted ++ packets
  carried : ∀ packets ∈ sent, ∃ update batch, ClientProtocol.Carries lib key packets update batch
  received : ∀ selection : List (StateSync.Difference UInt64 Instruction),
    (∀ difference ∈ selection, Emitted lib key sent difference) → ∀ number held,
      selection.foldl StateSync.receive (StateSync.initial 0) number = some held →
      typedBytes held <+: typed
  whole : (∀ message, ran.1 ≠ some (.error message)) →
    ran.2.host.socket.attempted = socket.attempted ++ sent.flatten ∧
    ∀ selection : List (StateSync.Difference UInt64 Instruction),
      (∀ difference ∈ selection, Emitted lib key sent difference) → ∀ held,
        selection.foldl StateSync.receive (StateSync.initial 0)
          ran.2.runtime.protocol.latestLocalState = some held →
        typedBytes held ++ typedBytes ran.2.runtime.queuedInstructions = typed

/-- The size of the terminal is what the session starts with. -/
theorem start_ledger (lib : Libraries) (key : SessionKey) (started : MonotonicTime)
    (columns rows : UInt16) : ∃ log, typedBytes log.entries = [] ∧
      Ledger key ((new lib.terminal key started).queueResize columns rows) log fun _ => [] := by
  have advance := (new_ledger lib key started).queue_resize columns rows
  refine ⟨_, ?_, advance.ledger⟩
  split_ifs
  · exact resize_typed ⟨[], []⟩ _
  · rfl

theorem sent_flatten (events : List (RuntimeStep lib)) :
    (sentMessages events).flatten = (actionsOf events).filterMap datagramOf := by
  induction events with
  | nil => rfl
  | cons event rest induction =>
      rw [sentMessages, List.flatMap_cons, List.flatten_append, messages_flatten, actionsOf,
        List.flatMap_cons, List.filterMap_append]
      exact congrArg _ induction

theorem ended_ok {ran : Option (Except String Bool) × EventLoop lib}
    (fine : ∀ message, ran.1 ≠ some (.error message)) : ∃ value, (ended ran).1 = .ok value := by
  rcases ran with ⟨result, loop⟩
  rcases result with _ | result
  · exact ⟨none, rfl⟩
  · cases result with
    | error message => exact absurd rfl (fine message)
    | ok clean => exact ⟨some clean, rfl⟩

/-- The loop calls the session by its public methods, all of which succeed, and its host takes the
actions that they return, each once and in order: their datagrams reach the socket, their output
the screen and their events the log. A host that fails has taken a first part of them. -/
theorem session_actions_taken (queries : ScreenQueries lib.terminal) (language : String)
    (loop : EventLoop lib) (turns : List Turn) :
    ∃ operations : List SessionOperation,
      (∀ operation ∈ operations, fromClient operation = true) ∧
      Succeed (trace (perform lib) loop.runtime operations) ∧
      (∃ taken, taken <+: actionsOf (trace (perform lib) loop.runtime operations) ∧
        Took loop.host (run queries language loop turns).2.host taken) ∧
      ((∀ message, (run queries language loop turns).1 ≠ some (.error message)) →
        (run queries language loop turns).2.runtime = final (perform lib) loop.runtime operations ∧
        Took loop.host (run queries language loop turns).2.host
          (actionsOf (trace (perform lib) loop.runtime operations))) := by
  obtain ⟨operations, exchange⟩ : Converses (fun _ => True) loop (ended (run queries language loop turns))
      (typed queries language loop turns) :=
    loop.run_converses queries language fun _ _ _ _ => trivial
  refine ⟨operations, exchange.asked, exchange.succeed, exchange.took, ?_⟩
  intro fine
  obtain ⟨value, done⟩ := ended_ok fine
  obtain ⟨runtime, _, took⟩ := exchange.goesOn value done
  exact ⟨runtime, took⟩

/-- What is typed at the terminal reaches the server in order, each input at most once. -/
theorem typed_input_delivered (lawful : LawfulLibraries lib) (queries : ScreenQueries lib.terminal)
    (language : String) (key : SessionKey) (started : MonotonicTime) (columns rows : UInt16)
    (socket : Socket) (guard : TerminalGuard lib.terminal IoError)
    (predictionDisplay : Predict.PredictionDisplay) (predictionOverwrite : Bool) (escapeByte : UInt8)
    (turns : List Turn) :
    let begun := start key started columns rows socket guard predictionDisplay predictionOverwrite
      escapeByte
    ∃ sent, Delivery key socket (typed queries language begun turns)
      (run queries language begun turns) sent := by
  dsimp only
  set begun := start key started columns rows socket guard predictionDisplay predictionOverwrite
    escapeByte
  obtain ⟨operations, exchange⟩ : Converses (fun _ => True) begun
      (ended (run queries language begun turns)) (typed queries language begun turns) :=
    begun.run_converses queries language fun _ _ _ _ => trivial
  obtain ⟨log, silent, ledger⟩ : ∃ log, typedBytes log.entries = [] ∧
      Ledger key begun.runtime log fun _ => [] := start_ledger lib key started columns rows
  have kept : SessionOperation.cancel ∉ operations := fun member =>
    absurd (exchange.asked _ member) (by decide)
  have polls : PollsSucceed (trace (perform lib) begun.runtime operations) :=
    fun event member _ => exchange.succeed event member
  obtain ⟨content, advance⟩ := run_advance lawful.aead ledger kept polls
  have accounts := advance.accounts lawful.codec
  have logged := run_typed begun.runtime exchange.asked log exchange.succeed
  rw [silent, List.nil_append] at logged
  have flat := sent_flatten (trace (perform lib) begun.runtime operations)
  refine ⟨sentMessages (trace (perform lib) begun.runtime operations), ?_, accounts.carried, ?_, ?_⟩
  · rw [flat]
    obtain ⟨taken, among, took⟩ := exchange.took
    exact ⟨taken.filterMap datagramOf, among.filterMap datagramOf, took.sent⟩
  · intro selection emitted number held found
    have within := typed_bytes_prefix (accounts.receiver emitted found).2
    rw [logged] at within
    exact within.trans exchange.input
  · intro fine
    obtain ⟨value, done⟩ := ended_ok fine
    obtain ⟨runtime, whole, took⟩ := exchange.goesOn value done
    refine ⟨flat ▸ took.sent, ?_⟩
    intro selection emitted held found
    have reached : (run queries language begun turns).2.runtime =
        final (perform lib) begun.runtime operations := runtime
    rw [reached] at found ⊢
    rw [(accounts.receiver emitted found).1, ← typed_bytes_append, accounts.newest, logged, whole]

/-- A client whose socket and terminal take everything. -/
def plainClient : EventLoop plainLibraries :=
  start zeroKey ⟨0⟩ 80 24 ⟨fun _ _ => none, []⟩
    { output := ⟨fun _ _ => none, []⟩
      authoritative := .new 80 24
      titleOutput := .new .moshPrefix
      alternateScreenActive := true
      sessionTerminalActive := true
      localNoticeActive := false } .adaptive false 0x1e

def typingTurn (milliseconds : UInt64) (events : List Event) : Turn where
  now := ⟨milliseconds⟩
  terminationRequested := false
  payloads := []
  receiveEnding := ⟨.wouldBlock, ""⟩
  events := events.map fun event => (event, ⟨milliseconds⟩)
  inputEnding := none
  quitAt := ⟨milliseconds⟩

/-- A key, a prefix that is held, and a focus event that lets it go. -/
def typedTurns : List Turn :=
  [typingTurn 0 [.key { code := .char 'l', modifiers := .NONE } .press],
    typingTurn 1000 [.key { code := .char '6', modifiers := { KeyModifiers.NONE with control := true } }
      .press, .focusLost], typingTurn 2000 []]

theorem typed_turns_delivered :
    typed lineQueries "en" plainClient typedTurns = [[0x6c], [0x1e]] ∧
      (run lineQueries "en" plainClient typedTurns).1 = none ∧
      (run lineQueries "en" plainClient typedTurns).2.host.socket.attempted.length = 4 ∧
      ∃ sent, Delivery zeroKey ⟨fun _ _ => none, []⟩ (typed lineQueries "en" plainClient typedTurns)
        (run lineQueries "en" plainClient typedTurns) sent :=
  ⟨by decide +kernel, by decide +kernel, by decide +kernel,
    typed_input_delivered lawful_plain_libraries lineQueries "en" zeroKey ⟨0⟩ 80 24 _ _ _ _ _ _⟩

end EventLoop

end FerrumTty.Client
