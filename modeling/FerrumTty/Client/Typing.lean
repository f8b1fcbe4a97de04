import FerrumTty.Client.Conversation

/-!
# What is typed

The keyboard as a specification: what a list of terminal events comes to, from the escape
interpreter and the modes in force alone. Every run of the event loop queues a prefix of what was
typed, and all of it unless it ends with an error.
-/

namespace FerrumTty.Client

set_option autoImplicit false

open Crypto Wire State Session FerrumTty.Runtime FerrumTty.Terminal

/-- What an event comes to: the inputs, whether it asks to quit, and the escape interpreter. -/
structure Stroke where
  typed : List Bytes
  quit : Bool
  escape : EscapeInterpreter
  deriving DecidableEq, Repr

def strikeKey (escape : EscapeInterpreter) (modes : RemoteTerminalModes) (key : KeyEvent) : Stroke :=
  match encodeKeyWithMode key modes.cursorKey with
  | none => ⟨[], false, escape⟩
  | some bytes =>
      match escape.input bytes with
      | (.forward bytes, escape) => ⟨[bytes], false, escape⟩
      | (.quit, escape) => ⟨[], true, escape⟩
      | (_, escape) => ⟨[], false, escape⟩

/-- Everything but a key lets a held prefix go first. -/
def strike (escape : EscapeInterpreter) (modes : RemoteTerminalModes) : Event → Stroke
  | .key key .press => strikeKey escape modes key
  | .key key .repeated => strikeKey escape modes key
  | .key _ .release => ⟨[], false, escape⟩
  | event =>
      ⟨escape.flush.1.toList ++ (EventLoop.encodeEvent modes event).toList, false, escape.flush.2⟩

section Screens

variable {terminal : Terminal}

/-- Of all events only a resize changes the screen. -/
def screenAfter (screen : AuthoritativeScreen terminal) : Event → AuthoritativeScreen terminal
  | .resize columns rows => screen.resize columns rows
  | _ => screen

/-- What events type, up to the one that quits. -/
def typing (queries : ScreenQueries terminal) (escape : EscapeInterpreter)
    (screen : AuthoritativeScreen terminal) : List Event → List Bytes
  | [] => []
  | event :: rest =>
      let stroke := strike escape (screen.remoteModes queries) event
      stroke.typed ++
        if stroke.quit then [] else typing queries stroke.escape (screenAfter screen event) rest

end Screens

namespace EventLoop

variable {lib : Libraries} (queries : ScreenQueries lib.terminal) (language : String)
  (loop : EventLoop lib)

/-- The loop as a turn finds it when it comes to the terminal. -/
def listening (turn : Turn) : Option (EventLoop lib) :=
  match loop.terminate queries language turn with
  | (.error _, _) => none
  | (.ok (), loop) =>
      match (loop.noteSleep turn).drainSocket queries language turn with
      | (.ok false, loop) => some loop
      | _ => none

/-- A session that shuts down listens to nothing. -/
def heard (turn : Turn) : List Bytes :=
  if loop.runtime.shutdownInProgress then []
  else typing queries loop.escape loop.host.guard.authoritative (turn.events.map Prod.fst)

def typedIn (turn : Turn) : List Bytes :=
  (loop.listening queries language turn).elim [] fun loop => loop.heard queries turn

/-- What is typed over the turns of a run. -/
def typed (loop : EventLoop lib) : List Turn → List Bytes
  | [] => []
  | turn :: rest =>
      loop.typedIn queries language turn ++
        match loop.turnOnce queries language turn with
        | (.ok none, loop) => typed loop rest
        | _ => []

end EventLoop

/-- A part of the loop that types what is given, answers with the value and leaves the given escape
interpreter and screen. -/
structure Types {lib : Libraries} {Value : Type} (clocks : MonotonicTime → Prop) (before : EventLoop lib)
    (outcome : Outcome lib Value) (answer : Value) (typed : List Bytes) (escape : EscapeInterpreter)
    (screen : AuthoritativeScreen lib.terminal) : Prop where
  converses : Converses clocks before outcome typed
  answers : ∀ value, outcome.1 = .ok value → value = answer
  escapes : ∀ value, outcome.1 = .ok value → outcome.2.escape = escape
  shows : ∀ value, outcome.1 = .ok value → outcome.2.host.guard.authoritative = screen

section Parts

variable {lib : Libraries} {First Second : Type} {clocks : MonotonicTime → Prop}
  {before : EventLoop lib} {answer : First}
  {reply : Second} {typed later : List Bytes} {escape last : EscapeInterpreter}
  {screen shown : AuthoritativeScreen lib.terminal}

theorem Types.andThen {called : Outcome lib First}
    {next : First → EventLoop lib → Outcome lib Second}
    (first : Types clocks before called answer typed escape screen)
    (second : ∀ loop : EventLoop lib, loop.escape = escape → loop.host.guard.authoritative = screen →
      Types clocks loop (next answer loop) reply later last shown) :
    Types clocks before (called.andThen next) reply (typed ++ later) last shown := by
  have conversed : Converses clocks before (called.andThen next) (typed ++ later) := by
    refine first.converses.andThen fun value loop done => ?_
    rw [first.answers value (by rw [done])]
    exact (second loop (by simpa [done] using first.escapes value)
      (by simpa [done] using first.shows value)).converses
  rcases called with ⟨result, loop⟩
  cases result with
  | error message =>
      refine ⟨conversed, ?_, ?_, ?_⟩ <;>
      · intro value done
        cases done
  | ok value =>
      have answered := first.answers value rfl
      subst answered
      have onward := second loop (first.escapes value rfl) (first.shows value rfl)
      exact ⟨conversed, onward.answers, onward.escapes, onward.shows⟩

theorem Types.andThen_quiet {called : Outcome lib First}
    {next : First → EventLoop lib → Outcome lib Second}
    (first : Types clocks before called answer typed escape screen)
    (second : ∀ loop : EventLoop lib, loop.escape = escape → loop.host.guard.authoritative = screen →
      Types clocks loop (next answer loop) reply [] last shown) :
    Types clocks before (called.andThen next) reply typed last shown := by
  have both := first.andThen second
  rwa [List.append_nil] at both

theorem Types.behind {outcome : Outcome lib First} {earlier : EventLoop lib}
    (types : Types clocks before outcome answer typed escape screen)
    (runtime : before.runtime = earlier.runtime) (took : Took earlier.host before.host []) :
    Types clocks earlier outcome answer typed escape screen :=
  ⟨types.converses.behind runtime took, types.answers, types.escapes, types.shows⟩

theorem Types.leaving {outcome : Outcome lib First}
    (types : Types clocks before outcome answer typed escape screen) (kept : escape = last)
    (same : screen = shown) : Types clocks before outcome answer typed last shown := by
  subst kept
  subst same
  exact types

theorem Types.quiet (loop : EventLoop lib) {result : Except String First}
    (answers : ∀ value, result = .ok value → value = answer)
    (runtime : loop.runtime = before.runtime) (took : Took before.host loop.host []) :
    Types clocks before (result, loop) answer [] loop.escape loop.host.guard.authoritative :=
  ⟨.quiet runtime took, answers, fun _ _ => rfl, fun _ _ => rfl⟩

theorem Types.done (value : First) :
    Types clocks before ((.ok value, before) : Outcome lib First) value [] before.escape
      before.host.guard.authoritative :=
  .quiet before (fun _ done => (Except.ok.inj done).symm) rfl (host_still _)

end Parts

namespace Turn

variable (turn : Turn)

def clocks : List MonotonicTime := turn.now :: turn.quitAt :: turn.events.map Prod.snd

theorem now_read : turn.now ∈ turn.clocks := List.mem_cons_self

theorem quit_read : turn.quitAt ∈ turn.clocks := List.mem_cons_of_mem _ List.mem_cons_self

theorem event_read {event : Event × MonotonicTime} (member : event ∈ turn.events) :
    event.2 ∈ turn.clocks :=
  List.mem_cons_of_mem _ (List.mem_cons_of_mem _ (List.mem_map_of_mem member))

end Turn

namespace EventLoop

variable {lib : Libraries} (queries : ScreenQueries lib.terminal) (language : String)
  (loop : EventLoop lib)

section Terminal

variable {clocks : MonotonicTime → Prop}

theorem call_guard_types {explain : String → String}
    {called : Except IoError Unit × TerminalGuard lib.terminal IoError}
    (same : called.2.authoritative = loop.host.guard.authoritative) :
    Types clocks loop (loop.callGuard explain called) () [] loop.escape loop.host.guard.authoritative :=
  same ▸ Types.quiet (loop.callGuard explain called).2 (fun _ _ => rfl) rfl (.still rfl rfl same)

theorem writing_types {called : Except IoError Unit × TerminalGuard lib.terminal IoError}
    (same : called.2.authoritative = loop.host.guard.authoritative) :
    Types clocks loop (loop.writing language called) () [] loop.escape loop.host.guard.authoritative :=
  loop.call_guard_types same

theorem reconcile_authoritative (state : LocalHost lib.terminal) :
    (Client.reconcilePrediction (localHost queries) language state).2.guard.authoritative =
      state.guard.authoritative := by
  unfold Client.reconcilePrediction localHost
  dsimp only
  cases state.predictor.takeReconciliation.1 <;> rfl

theorem reconcile_types : Types clocks loop (loop.reconcilePrediction queries language) () [] loop.escape
    loop.host.guard.authoritative := by
  have took := reconcile_took queries language loop.host
  have screen := reconcile_authoritative queries language loop.host
  exact screen ▸ Types.quiet (loop.reconcilePrediction queries language).2 (fun _ _ => rfl) rfl took

theorem queue_input_types (bytes : Bytes) : Types clocks loop (loop.queueInput language bytes) () [bytes]
    loop.escape loop.host.guard.authoritative :=
  ⟨loop.queue_input_converses language bytes, fun _ _ => rfl, fun _ _ => rfl, fun _ _ => rfl⟩

theorem flush_types : Types clocks loop (loop.flushEscape language) () loop.escape.flush.1.toList
    loop.escape.flush.2 loop.host.guard.authoritative := by
  unfold flushEscape
  rcases loop.escape.flush with ⟨held, escape⟩
  cases held with
  | none => exact .quiet { loop with escape } (fun _ _ => rfl) rfl (host_still _)
  | some bytes => exact ({ loop with escape }.queue_input_types language bytes).behind rfl (host_still _)

/-- What follows the raised signal is done whatever came of it. -/
theorem suspend_types : Types clocks loop (loop.suspendClient queries language) () [] loop.escape
    loop.host.guard.authoritative := by
  unfold suspendClient
  have left := leave_authoritative loop.host.guard
  refine (loop.call_guard_types left).andThen_quiet fun next escape screen => ?_
  dsimp only
  have resumed := resume_authoritative queries
    { next.host.guard with output := (next.host.guard.output.issue .raiseSuspend).2 }
  rw [← escape, ← screen]
  exact ⟨.quiet rfl (.still rfl rfl resumed), fun _ _ => rfl, fun _ _ => rfl, fun _ _ => resumed⟩

theorem resume_types {Value : Type} (value : Value) {now : MonotonicTime} (read : clocks now) :
    Types clocks loop ((.ok value, { loop with runtime := loop.runtime.resume now }) : Outcome lib Value)
      value [] loop.escape loop.host.guard.authoritative :=
  ⟨loop.resume_converses value read, fun _ done => (Except.ok.inj done).symm, fun _ _ => rfl,
    fun _ _ => rfl⟩

theorem forward_types (key : KeyEvent) (bytes : Bytes) :
    Types clocks loop (loop.forwardKey queries language key bytes) () [bytes] loop.escape
      loop.host.guard.authoritative := by
  unfold forwardKey
  dsimp only
  refine (loop.queue_input_types language bytes).andThen_quiet fun next escape screen => ?_
  rw [← escape, ← screen]
  rcases next.host.predictor.offerForFrameWithContext loop.runtime.predictionFrameId
    (predictionAction key) (some (next.host.guard.authoritative.predictionCursorContext queries))
    with ⟨prediction, predictor⟩
  cases prediction with
  | none => exact .quiet { next with host := { next.host with predictor } } (fun _ _ => rfl) rfl (.still rfl rfl rfl)
  | some overlay =>
      exact ({ next with host := { next.host with predictor } }.writing_types language rfl).behind
        rfl (.still rfl rfl rfl)

theorem unpredicted_types (bytes : Bytes) :
    Types clocks loop (loop.queueUnpredicted language bytes) () [bytes] loop.escape
      loop.host.guard.authoritative := by
  unfold queueUnpredicted
  refine (loop.queue_input_types language bytes).andThen_quiet fun next escape screen => ?_
  rw [← escape, ← screen]
  exact .quiet (next.offerBarrier loop.runtime.predictionFrameId) (fun _ _ => rfl) rfl (.still rfl rfl rfl)

theorem key_press_types (key : KeyEvent) {now : MonotonicTime} (read : clocks now) :
    let stroke := strikeKey loop.escape (loop.host.guard.authoritative.remoteModes queries) key
    Types clocks loop (loop.drainKeyPress queries language key now) stroke.quit stroke.typed stroke.escape
      loop.host.guard.authoritative := by
  dsimp only
  unfold drainKeyPress strikeKey
  rcases encodeKeyWithMode key (loop.host.guard.authoritative.remoteModes queries).cursorKey with
    _ | bytes
  · exact .done false
  · dsimp only
    rcases loop.escape.input bytes with ⟨action, escape⟩
    cases action with
    | hold => exact .quiet { loop with escape } (fun _ done => (Except.ok.inj done).symm) rfl (host_still _)
    | quit => exact .quiet { loop with escape } (fun _ done => (Except.ok.inj done).symm) rfl (host_still _)
    | help =>
        have noticed := notice_authoritative queries loop.host.guard
          (asBytes (loopText language .localCommandHelp))
        have written := @writing_types _ language { loop with escape } clocks _ noticed
        exact (written.andThen_quiet fun next kept same =>
          (Types.done false).leaving kept same).behind rfl (host_still _)
    | suspend =>
        have suspended := @suspend_types _ queries language { loop with escape } clocks
        exact (suspended.andThen_quiet fun next kept same =>
          (next.resume_types false read).leaving kept same).behind rfl (host_still _)
    | forward bytes =>
        have forwarded := @forward_types _ queries language { loop with escape } clocks key bytes
        exact (forwarded.andThen_quiet fun next kept same =>
          (Types.done false).leaving kept same).behind rfl (host_still _)

theorem unpredicted_event_types (event : Event) :
    Types clocks loop (loop.drainUnpredicted queries language event) false
      (loop.escape.flush.1.toList ++
        (encodeEvent (loop.host.guard.authoritative.remoteModes queries) event).toList)
      loop.escape.flush.2 loop.host.guard.authoritative := by
  unfold drainUnpredicted
  refine (loop.flush_types language).andThen fun next escape screen => ?_
  rw [← escape, ← screen]
  rcases encodeEvent (next.host.guard.authoritative.remoteModes queries) event with _ | bytes
  · exact .done false
  · exact (next.unpredicted_types language bytes).andThen_quiet fun last kept same =>
      (Types.done false).leaving kept same

theorem resize_types (columns rows : UInt16) :
    Types clocks loop (loop.drainResize queries language columns rows) false
      loop.escape.flush.1.toList loop.escape.flush.2
      (loop.host.guard.authoritative.resize columns rows) := by
  unfold drainResize
  refine (loop.flush_types language).andThen_quiet fun next escape screen => ?_
  refine (next.reconcile_types queries language).andThen_quiet fun last kept same => ?_
  have resized : Converses clocks last
      ((.ok false,
        { last with
          host := { last.host with guard := last.host.guard.resizeModel columns rows }
          runtime := last.runtime.queueResize columns rows }) : Outcome lib Bool) [] :=
    Converses.call (.queueResize columns rows) .nothing rfl (by simp [SessionOperation.clock])
      rfl rfl rfl rfl
      (.resized columns rows rfl rfl rfl)
  refine ⟨resized, fun _ done => (Except.ok.inj done).symm, fun _ _ => kept.trans escape,
    fun _ _ => ?_⟩
  change last.host.guard.authoritative.resize columns rows = _
  rw [same, screen]

theorem event_types (event : Event) {now : MonotonicTime} (read : clocks now) :
    let stroke := strike loop.escape (loop.host.guard.authoritative.remoteModes queries) event
    Types clocks loop (loop.drainEvent queries language event now) stroke.quit stroke.typed stroke.escape
      (screenAfter loop.host.guard.authoritative event) := by
  cases event with
  | key key kind =>
      cases kind with
      | press => exact loop.key_press_types queries language key read
      | repeated => exact loop.key_press_types queries language key read
      | release => exact .done false
  | resize columns rows =>
      have resized := @resize_types _ queries language loop clocks columns rows
      rw [← List.append_nil loop.escape.flush.1.toList] at resized
      exact resized
  | paste contents => exact loop.unpredicted_event_types queries language (.paste contents)
  | mouse event => exact loop.unpredicted_event_types queries language (.mouse event)
  | focusGained => exact loop.unpredicted_event_types queries language .focusGained
  | focusLost => exact loop.unpredicted_event_types queries language .focusLost

theorem drain_terminal_converses (ending : Option IoError) {events : List (Event × MonotonicTime)}
    (read : ∀ event ∈ events, clocks event.2) :
    Converses clocks loop (drainTerminal queries language ending loop events)
      (typing queries loop.escape loop.host.guard.authoritative (events.map Prod.fst)) := by
  induction events generalizing loop with
  | nil =>
      unfold drainTerminal
      cases ending with
      | none => exact .quiet rfl (host_still _)
      | some error => exact .quiet rfl (host_still _)
  | cons first rest induction =>
      rcases first with ⟨event, now⟩
      rw [drainTerminal, List.map_cons, typing]
      have cleared := clear_authoritative queries loop.host.guard
      have opened := (@writing_types _ language loop clocks _ cleared).converses
      rw [← List.nil_append (_ ++ _)]
      refine opened.andThen fun value next done => ?_
      have escape := (@writing_types _ language loop clocks _ cleared).escapes value (by rw [done])
      have screen := (@writing_types _ language loop clocks _ cleared).shows value (by rw [done])
      rw [done] at escape screen
      dsimp only at escape screen
      rw [← escape, ← screen]
      have struck := next.event_types queries language event (read _ List.mem_cons_self)
      dsimp only at struck
      refine struck.converses.andThen fun quit last ended => ?_
      have answered := struck.answers quit (by rw [ended])
      have kept := struck.escapes quit (by rw [ended])
      have shown := struck.shows quit (by rw [ended])
      rw [ended] at kept shown
      dsimp only at kept shown
      rw [← answered]
      cases quit with
      | true => exact .quiet rfl (host_still _)
      | false =>
          rw [← kept, ← shown]
          exact induction last fun other member => read other (List.mem_cons_of_mem _ member)

end Terminal

section Turns

variable {clocks : MonotonicTime → Prop} {turn : Turn} (read : ∀ now ∈ turn.clocks, clocks now)

include read

theorem terminate_converses : Converses clocks loop (loop.terminate queries language turn) [] := by
  unfold terminate
  split_ifs
  · exact loop.request_shutdown_converses queries language (read _ turn.now_read)
  · exact .quiet rfl (host_still _)

theorem note_sleep_converses :
    Converses clocks loop ((.ok (), loop.noteSleep turn) : Outcome lib Unit) [] := by
  by_cases slept : turn.now.elapsedSince loop.previousPoll ≥ SUSPEND_DETECTION_MILLISECONDS
  · have resumed : (loop.noteSleep turn).runtime = loop.runtime.resume turn.now := if_pos slept
    exact Converses.call (.resume turn.now) .nothing rfl
      (fun _ same => Option.some.inj same ▸ read _ turn.now_read) rfl rfl rfl resumed (host_still _)
  · exact .quiet (if_neg slept) (host_still _)

theorem drain_socket_converses :
    Converses clocks loop ((loop.noteSleep turn).drainSocket queries language turn) [] := by
  have drained := (loop.noteSleep turn).receiving_converses queries language (read _ turn.now_read)
    turn.receiveEnding turn.payloads
  change Converses clocks loop (Outcome.andThen ((.ok (), loop.noteSleep turn) : Outcome lib Unit)
    fun _ next => next.drainSocket queries language turn) []
  refine (loop.note_sleep_converses read).andThen_quiet fun value next done => ?_
  cases done
  exact drained

theorem drain_input_converses :
    Converses clocks loop (loop.drainInput queries language turn) (loop.heard queries turn) := by
  unfold drainInput heard
  split_ifs
  · exact .quiet rfl (host_still _)
  · refine (loop.drain_terminal_converses queries language turn.inputEnding
      fun event member => read _ (turn.event_read member)).andThen_quiet
      fun quit next _ => ?_
    cases quit with
    | true => exact next.request_shutdown_converses queries language (read _ turn.quit_read)
    | false => exact .quiet rfl (host_still _)

theorem turn_converses :
    Converses clocks loop (loop.turnOnce queries language turn) (loop.typedIn queries language turn) := by
  unfold turnOnce
  refine (loop.terminate_converses queries language read).quiet_andThen fun value next terminated => ?_
  refine (next.drain_socket_converses queries language read).quiet_andThen fun refused last drained => ?_
  unfold typedIn listening
  rw [terminated]
  dsimp only
  rw [drained]
  cases refused with
  | true => exact .quiet rfl (host_still _)
  | false =>
      have input : Converses clocks last (last.noteRoundTrip.drainInput queries language turn)
          (last.heard queries turn) :=
        (last.noteRoundTrip.drain_input_converses queries language read).behind rfl
          (.still rfl rfl rfl)
      refine input.andThen_quiet fun _ polled _ => ?_
      exact (polled.poll_session_converses queries language (read _ turn.now_read)).andThen_quiet
        fun _ final _ => .quiet rfl (host_still _)

end Turns

variable {clocks : MonotonicTime → Prop}

/-- What the loop came to, with what it broke with. -/
def ended (ran : Option (Except String Bool) × EventLoop lib) : Outcome lib (Option Bool) :=
  (ran.1.elim (.ok none) (Except.map some), ran.2)

theorem finish_took (result : Except String Bool) :
    Took loop.host (loop.finish queries language result).2.host [] := by
  have reconciled := reconcile_took queries language loop.host
  unfold finish Outcome.andThen reconcilePrediction
  dsimp only
  cases (Client.reconcilePrediction (localHost queries) language loop.host).1 <;> exact reconciled

/-- Only a prediction that cannot be taken back changes the result. -/
theorem finish_result (result : Except String Bool) :
    (loop.finish queries language result).1 = result ∨
      ∃ message, (loop.finish queries language result).1 = .error message := by
  unfold finish Outcome.andThen
  rcases loop.reconcilePrediction queries language with ⟨reconciled, next⟩
  cases reconciled with
  | error message => exact Or.inr ⟨message, rfl⟩
  | ok done => exact Or.inl rfl

theorem finish_converses (clean : Bool) :
    Converses clocks loop (loop.finish queries language (.ok clean)) [] :=
  (loop.reconcile_types queries language).converses.andThen_quiet fun _ _ _ => .quiet rfl (host_still _)

theorem failed_converses {earlier : EventLoop lib} {message : String} {typed : List Bytes}
    (failed : Converses clocks earlier ((.error message, loop) : Outcome lib (Option Bool)) typed) :
    Converses clocks earlier (ended (some (loop.finish queries language (.error message)).1,
      (loop.finish queries language (.error message)).2)) typed := by
  obtain ⟨operations, exchange⟩ := failed
  obtain ⟨taken, among, took⟩ := exchange.took
  refine ⟨operations, exchange.asked, exchange.timed, exchange.succeed, exchange.input, ⟨taken, among, ?_⟩, ?_⟩
  · have finished := took.trans (loop.finish_took queries language (.error message))
    rwa [List.append_nil] at finished
  · intro value done
    unfold ended finish Outcome.andThen at done
    rcases reconciled : loop.reconcilePrediction queries language with ⟨result, next⟩
    rw [reconciled] at done
    cases result <;> cases done

theorem run_converses {turns : List Turn}
    (read : ∀ turn ∈ turns, ∀ now ∈ turn.clocks, clocks now) :
    Converses clocks loop (ended (run queries language loop turns)) (typed queries language loop turns) := by
  induction turns generalizing loop with
  | nil => exact .quiet rfl (host_still _)
  | cons turn rest induction =>
      have turned := loop.turn_converses queries language (read _ List.mem_cons_self)
      unfold run typed
      rcases once : loop.turnOnce queries language turn with ⟨result, next⟩
      rw [once] at turned
      rcases result with message | clean
      · rw [List.append_nil]
        exact next.failed_converses queries language turned
      · rcases clean with _ | clean
        · change Converses clocks loop (Outcome.andThen ((.ok (none : Option Bool), next) : Outcome lib _)
            fun _ next => ended (run queries language next rest)) _
          refine turned.andThen fun _ last same => ?_
          cases same
          exact induction next fun other member => read other (List.mem_cons_of_mem _ member)
        · have finished := (@finish_converses _ queries language next clocks clean).map some
          rw [List.append_nil]
          change Converses clocks loop (Outcome.andThen ((.ok (some clean), next) : Outcome lib (Option Bool))
            fun _ next => ended (some (next.finish queries language (.ok clean)).1,
              (next.finish queries language (.ok clean)).2)) _
          refine turned.andThen_quiet fun _ last same => ?_
          cases same
          exact finished

end EventLoop

end FerrumTty.Client
