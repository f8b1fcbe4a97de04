import FerrumTty.Client.Program
import FerrumTty.Client.Typing
import FerrumTty.Terminal.GivenBack

/-!
# The terminal over a run of the client

Every part of the event loop leaves the terminal with the session, or fails. So the terminal is the
session's between any two turns, and behind the exit of the client it is the user's again.
-/

namespace FerrumTty.Client

set_option autoImplicit false

open Crypto State Session FerrumTty.Runtime FerrumTty.Terminal TerminalGuard

structure Holding {terminal : Terminal} (alternate : Bool) (guard : TerminalGuard terminal IoError) :
    Prop where
  held : Held False guard
  active : guard.sessionTerminalActive = true
  screen : guard.alternateScreenActive = alternate

/-- A part of the loop that leaves the terminal with the session, and otherwise fails. -/
structure Keeps {lib : Libraries} {Value : Type} (alternate : Bool) (outcome : Outcome lib Value) :
    Prop where
  goesOn : ∀ value, outcome.1 = .ok value → Holding alternate outcome.2.host.guard
  fails : Held True outcome.2.host.guard

section Guards

variable {terminal : Terminal} {alternate : Bool} {guard after : TerminalGuard terminal IoError}

theorem Holding.untouched (holding : Holding alternate guard) (untouched : Untouched guard after) :
    Holding alternate after where
  held := untouched.held holding.held
  active := untouched.active.trans holding.active
  screen := untouched.alternate.trans holding.screen

theorem Holding.modes (holding : Holding alternate guard) : guard.output.modes =
    { raw := true, alternateScreen := alternate, bracketedPaste := true } := by
  rw [holding.held.taken holding.active, holding.screen]

theorem resume_takes (queries : ScreenQueries terminal)
    (resumed : (guard.resumeAfterSuspend queries).1 = .ok ()) :
    (guard.resumeAfterSuspend queries).2.sessionTerminalActive = true := by
  have resumption := guard.resume_cases queries
  generalize guard.resumeAfterSuspend queries = outcome at resumed resumption ⊢
  rcases outcome with ⟨result, after⟩
  cases resumption with
  | active active => exact active
  | unraw failure output _ _ => cases resumed
  | unset failure raw output _ _ _ => cases resumed
  | taken raw output _ _ _ drawn => exact drawn.active

end Guards

section Parts

variable {lib : Libraries} {First Second : Type} {alternate : Bool} {loop : EventLoop lib}

theorem Holding.keeps {outcome : Outcome lib First} (holding : Holding alternate outcome.2.host.guard) :
    Keeps alternate outcome :=
  ⟨fun _ _ => holding, holding.held.weaken False.elim⟩

theorem Keeps.andThen {called : Outcome lib First} {next : First → EventLoop lib → Outcome lib Second}
    (first : Keeps alternate called)
    (second : ∀ value loop, Holding alternate loop.host.guard → Keeps alternate (next value loop)) :
    Keeps alternate (called.andThen next) := by
  rcases called with ⟨result, loop⟩
  cases result with
  | error message =>
      refine ⟨?_, first.fails⟩
      intro value done
      cases done
  | ok value => exact second value loop (first.goesOn value rfl)

end Parts

section Applying

variable {terminal : Terminal} (queries : ScreenQueries terminal) (language : String)
  (state : LocalHost terminal)

theorem reconcile_untouched :
    Untouched state.guard (reconcilePrediction (localHost queries) language state).2.guard := by
  unfold reconcilePrediction localHost onGuard mapIoError
  dsimp only
  cases state.predictor.takeReconciliation.1 with
  | none => exact .refl _
  | «local» bytes => exact state.guard.write_bytes_untouched bytes
  | redraw => exact state.guard.redraw_untouched

theorem apply_action_untouched (action : SessionAction) :
    Untouched state.guard (applyAction (localHost queries) language state action).2.guard := by
  cases action with
  | writeTerminal bytes =>
      have reconciled := reconcile_untouched queries language state
      rw [applyAction]
      rcases reconcile : reconcilePrediction (localHost queries) language state with ⟨result, next⟩
      rw [reconcile] at reconciled
      cases result with
      | error message => exact reconciled
      | ok done => exact reconciled.trans (next.guard.write_server_untouched bytes)
  | _ => exact .refl _

theorem apply_actions_untouched (actions : List SessionAction) :
    Untouched state.guard (applyActions (localHost queries) language state actions).state.guard := by
  induction actions generalizing state with
  | nil => exact .refl _
  | cons action rest induction =>
      have first := apply_action_untouched queries language state action
      rw [applyActions]
      rcases applied : applyAction (localHost queries) language state action with ⟨result, next⟩
      rw [applied] at first
      cases result with
      | error message => exact first
      | ok done => exact first.trans (induction next)

end Applying

namespace EventLoop

variable {lib : Libraries} (queries : ScreenQueries lib.terminal) (language : String)
  {alternate : Bool} {loop : EventLoop lib}

theorem apply_actions_keeps (holding : Holding alternate loop.host.guard)
    (actions : List SessionAction) : Keeps alternate (loop.applyActions queries language actions) :=
  (holding.untouched (apply_actions_untouched queries language loop.host actions)).keeps

theorem writing_keeps (holding : Holding alternate loop.host.guard)
    {called : Except IoError Unit × TerminalGuard lib.terminal IoError}
    (untouched : Untouched loop.host.guard called.2) : Keeps alternate (loop.writing language called) :=
  @Holding.keeps _ _ _ (loop.writing language called) (holding.untouched untouched)

theorem reconcile_keeps (holding : Holding alternate loop.host.guard) :
    Keeps alternate (loop.reconcilePrediction queries language) :=
  (holding.untouched (reconcile_untouched queries language loop.host)).keeps

theorem queue_input_keeps (holding : Holding alternate loop.host.guard) (bytes : Bytes) :
    Keeps alternate (loop.queueInput language bytes) := holding.keeps

theorem flush_keeps (holding : Holding alternate loop.host.guard) :
    Keeps alternate (loop.flushEscape language) := by
  unfold flushEscape
  rcases loop.escape.flush with ⟨held, escape⟩
  have kept : Holding alternate { loop with escape }.host.guard := holding
  cases held with
  | none => exact kept.keeps
  | some bytes => exact queue_input_keeps language kept bytes

theorem request_keeps (holding : Holding alternate loop.host.guard) (now : MonotonicTime) :
    Keeps alternate (loop.requestShutdown queries language now) := by
  unfold requestShutdown
  rcases loop.runtime.requestShutdown now with ⟨result, runtime⟩
  have kept : Holding alternate { loop with runtime }.host.guard := holding
  cases result with
  | error error => exact kept.keeps
  | ok actions => exact apply_actions_keeps queries language kept actions

/-- The terminal is given back for the time of the stop. Where it cannot be taken again, the
client ends. -/
theorem suspend_keeps (holding : Holding alternate loop.host.guard) :
    Keeps alternate (loop.suspendClient queries language) := by
  have quiet : Held False { loop.host.guard with localNoticeActive := false } :=
    ⟨holding.held.plain, holding.held.taken, holding.held.cooked, holding.held.given⟩
  have left : Held False loop.host.guard.leaveForSuspend.2 := quiet.deactivated
  have screen : loop.host.guard.leaveForSuspend.2.alternateScreenActive = alternate :=
    (deactivate_same_screen _).trans holding.screen
  unfold suspendClient callGuard
  rcases leaving : loop.host.guard.leaveForSuspend with ⟨result, given⟩
  rw [leaving] at left screen
  cases result with
  | error failure =>
      refine ⟨?_, left.weaken False.elim⟩
      intro value done
      cases done
  | ok done =>
      have modes := given.output.issue_modes .raiseSuspend
      have extended := given.output.issue_extends .raiseSuspend
      rw [after_neutral rfl, ite_self] at modes
      dsimp only [Outcome.andThen, Except.mapError]
      generalize given.output.issue .raiseSuspend = raised at modes extended ⊢
      rcases raised with ⟨signal, output⟩
      have untouched : Untouched given { given with output } := ⟨rfl, rfl, modes, extended⟩
      have stopped := untouched.held left
      have resumed := (stopped.resumed queries).1
      refine ⟨?_, resumed.weaken fun _ => trivial⟩
      intro value fine
      have taken : (resumeAfterSuspend queries { given with output }).1 = .ok () := by
        cases signal with
        | error failure => cases fine
        | ok done =>
            dsimp only at fine
            cases outcome : (resumeAfterSuspend queries { given with output }).1 with
            | error failure =>
                rw [outcome] at fine
                cases fine
            | ok done => rfl
      have active := resume_takes queries taken
      refine ⟨resumed.weaken ?_, active, (resume_same_screen queries _).trans screen⟩
      rintro (wrong | inactive)
      · exact wrong
      · rw [active] at inactive
        cases inactive

theorem unpredicted_keeps (holding : Holding alternate loop.host.guard) (bytes : Bytes) :
    Keeps alternate (loop.queueUnpredicted language bytes) := by
  unfold queueUnpredicted
  apply (queue_input_keeps language holding bytes).andThen
  intro _ next kept
  have offered : Holding alternate (next.offerBarrier loop.runtime.predictionFrameId).host.guard := kept
  exact offered.keeps

theorem forward_keeps (holding : Holding alternate loop.host.guard) (key : KeyEvent) (bytes : Bytes) :
    Keeps alternate (loop.forwardKey queries language key bytes) := by
  unfold forwardKey
  apply (queue_input_keeps language holding bytes).andThen
  intro _ next kept
  rcases next.host.predictor.offerForFrameWithContext loop.runtime.predictionFrameId
    (predictionAction key) (some (loop.host.guard.authoritative.predictionCursorContext queries))
    with ⟨prediction, predictor⟩
  have offered : Holding alternate { next with host := { next.host with predictor } }.host.guard := kept
  cases prediction with
  | none => exact offered.keeps
  | some overlay => exact writing_keeps language offered (next.host.guard.write_bytes_untouched overlay)

theorem key_press_keeps (holding : Holding alternate loop.host.guard) (key : KeyEvent)
    (now : MonotonicTime) : Keeps alternate (loop.drainKeyPress queries language key now) := by
  unfold drainKeyPress
  rcases encodeKeyWithMode key (loop.host.guard.authoritative.remoteModes queries).cursorKey with
    _ | bytes
  · exact holding.keeps
  · dsimp only
    rcases loop.escape.input bytes with ⟨action, escape⟩
    have read : Holding alternate { loop with escape }.host.guard := holding
    cases action with
    | hold => exact read.keeps
    | quit => exact read.keeps
    | help =>
        apply (writing_keeps language read (write_notice_untouched _ _)).andThen
        intro _ next kept
        exact kept.keeps
    | suspend =>
        apply (suspend_keeps queries language read).andThen
        intro _ next kept
        have resumed : Holding alternate { next with runtime := next.runtime.resume now }.host.guard :=
          kept
        exact resumed.keeps
    | forward bytes =>
        apply (forward_keeps queries language read key bytes).andThen
        intro _ next kept
        exact kept.keeps

theorem unpredicted_event_keeps (holding : Holding alternate loop.host.guard) (event : Event) :
    Keeps alternate (loop.drainUnpredicted queries language event) := by
  unfold drainUnpredicted
  apply (flush_keeps language holding).andThen
  intro _ next kept
  rcases encodeEvent (next.host.guard.authoritative.remoteModes queries) event with _ | bytes
  · exact kept.keeps
  · apply (unpredicted_keeps language kept bytes).andThen
    intro _ last reached
    exact reached.keeps

theorem resize_keeps (holding : Holding alternate loop.host.guard) (columns rows : UInt16) :
    Keeps alternate (loop.drainResize queries language columns rows) := by
  unfold drainResize
  apply (flush_keeps language holding).andThen
  intro _ next kept
  apply (reconcile_keeps queries language kept).andThen
  intro _ last reached
  have resized : Untouched last.host.guard (last.host.guard.resizeModel columns rows) :=
    ⟨rfl, rfl, rfl, List.prefix_refl _⟩
  exact Holding.keeps (reached.untouched resized)

theorem event_keeps (holding : Holding alternate loop.host.guard) (event : Event)
    (now : MonotonicTime) : Keeps alternate (loop.drainEvent queries language event now) := by
  cases event with
  | key key kind =>
      cases kind with
      | press => exact key_press_keeps queries language holding key now
      | repeated => exact key_press_keeps queries language holding key now
      | release => exact holding.keeps
  | resize columns rows => exact resize_keeps queries language holding columns rows
  | paste contents => exact unpredicted_event_keeps queries language holding (.paste contents)
  | mouse event => exact unpredicted_event_keeps queries language holding (.mouse event)
  | focusGained => exact unpredicted_event_keeps queries language holding .focusGained
  | focusLost => exact unpredicted_event_keeps queries language holding .focusLost

theorem drain_terminal_keeps (holding : Holding alternate loop.host.guard) (ending : Option IoError)
    (events : List (Event × MonotonicTime)) :
    Keeps alternate (drainTerminal queries language ending loop events) := by
  induction events generalizing loop with
  | nil =>
      unfold drainTerminal
      cases ending with
      | none => exact holding.keeps
      | some error => exact holding.keeps
  | cons timed rest induction =>
      unfold drainTerminal
      apply (writing_keeps language holding (clear_untouched _)).andThen
      intro _ cleared kept
      apply (event_keeps queries language kept timed.1 timed.2).andThen
      intro quit drained reached
      cases quit with
      | true => exact reached.keeps
      | false => exact induction reached

theorem receiving_keeps (holding : Holding alternate loop.host.guard) (now : MonotonicTime)
    (ending : IoError) (payloads : List Bytes) :
    Keeps alternate (loop.receiving queries language now ending payloads) := by
  induction payloads generalizing loop with
  | nil => exact holding.keeps
  | cons payload rest induction =>
      rw [receiving_cons]
      have received : Keeps alternate (loop.receivingOne queries language now payload) := by
        unfold receivingOne
        rcases receivePayload lib now loop.runtime payload with ⟨result, runtime⟩
        have kept : Holding alternate { loop with runtime }.host.guard := holding
        cases result with
        | error error => exact kept.keeps
        | ok actions => exact apply_actions_keeps queries language kept actions
      apply received.andThen
      intro _ next kept
      exact induction kept

/-- A turn leaves the terminal with the session, or the client fails. -/
theorem turn_keeps (holding : Holding alternate loop.host.guard) (turn : Turn) :
    Keeps alternate (loop.turnOnce queries language turn) := by
  have terminated : Keeps alternate (loop.terminate queries language turn) := by
    unfold terminate
    split_ifs
    · exact request_keeps queries language holding turn.now
    · exact holding.keeps
  unfold turnOnce
  apply terminated.andThen
  intro _ asked kept
  have noted : Holding alternate (asked.noteSleep turn).host.guard := kept
  apply (receiving_keeps queries language noted turn.now turn.receiveEnding turn.payloads).andThen
  intro refused drained reached
  cases refused with
  | true => exact reached.keeps
  | false =>
      have listening : Holding alternate drained.noteRoundTrip.host.guard := reached
      have heard : Keeps alternate (drained.noteRoundTrip.drainInput queries language turn) := by
        unfold drainInput
        split_ifs
        · exact listening.keeps
        · apply (drain_terminal_keeps queries language listening turn.inputEnding turn.events).andThen
          intro quit typed held
          cases quit with
          | true => exact request_keeps queries language held turn.quitAt
          | false => exact held.keeps
      apply heard.andThen
      intro _ typed held
      have polled : Keeps alternate (typed.pollSession queries language turn) := by
        unfold pollSession
        rcases typed.runtime.poll lib turn.now with ⟨result, runtime⟩
        have same : Holding alternate { typed with runtime }.host.guard := held
        cases result with
        | error error => exact same.keeps
        | ok actions => exact apply_actions_keeps queries language same actions
      apply polled.andThen
      intro _ next taken
      exact taken.keeps

theorem finish_untouched (loop : EventLoop lib) (result : Except String Bool) :
    Untouched loop.host.guard (loop.finish queries language result).2.host.guard := by
  have reconciled := reconcile_untouched queries language loop.host
  unfold finish Outcome.andThen reconcilePrediction
  dsimp only
  cases (Client.reconcilePrediction (localHost queries) language loop.host).1 <;> exact reconciled

theorem run_keeps (holding : Holding alternate loop.host.guard) (turns : List Turn) :
    Keeps alternate (ended (run queries language loop turns)) := by
  induction turns generalizing loop with
  | nil => exact holding.keeps
  | cons turn rest induction =>
      have turned := turn_keeps queries language holding turn
      unfold run
      rcases once : loop.turnOnce queries language turn with ⟨result, next⟩
      rw [once] at turned
      rcases result with message | clean
      · have untouched := next.finish_untouched queries language (.error message)
        refine ⟨?_, untouched.held turned.fails⟩
        intro value done
        change Except.map some (next.finish queries language (.error message)).1 = .ok value at done
        rcases next.finish_result queries language (.error message) with same | ⟨error, failed⟩
        · rw [same] at done
          cases done
        · rw [failed] at done
          cases done
      · have kept : Holding alternate next.host.guard := turned.goesOn clean rfl
        cases clean with
        | none => exact induction kept
        | some clean =>
            exact Holding.keeps (kept.untouched (next.finish_untouched queries language (.ok clean)))

end EventLoop

section Ends

variable {terminal : Terminal} {alternate : Bool} {guard : TerminalGuard terminal IoError}

theorem held_dropped {abandoned : Prop} (held : Held abandoned guard)
    (restores : guard.drop.output.Restores) : guard.drop.output.modes.raw = false :=
  held.deactivated.cooked guard.drop_inactive restores

theorem Holding.dropped (holding : Holding alternate guard) (restores : guard.drop.output.Restores) :
    guard.drop.output.modes = .untouched :=
  holding.held.deactivated.given not_false guard.drop_inactive restores

end Ends

namespace Surroundings

variable {lib : Libraries} (queries : ScreenQueries lib.terminal) (surroundings : Surroundings)

/-- What a run leaves of the terminal, as far as it has come. -/
structure RunKeeps (progress : Progress lib (Except AppError Unit)) : Prop where
  running : ∀ loop, progress = .running loop →
    Holding (!(surroundings.environment "MOSH_NO_TERM_INIT").isSome) loop.host.guard
  cooked : ∀ result output, progress = .done result output → output.Restores →
    output.modes.raw = false
  given : ∀ result output, progress = .done result output → output.Restores →
    (∀ message, result ≠ .error (.runtime message)) → output.modes = .untouched

variable {queries surroundings}

theorem RunKeeps.unentered (result : Except AppError Unit) :
    surroundings.RunKeeps (.done result surroundings.freshConsole : Progress lib _) := by
  constructor
  · intro loop same
    cases same
  · intro _ _ same _
    cases same
    rfl
  · intro _ _ same _ _
    cases same
    rfl

theorem RunKeeps.dropped {alternate : Bool} {guard : TerminalGuard lib.terminal IoError}
    (holding : Holding alternate guard) (result : Except AppError Unit) :
    surroundings.RunKeeps (.done result guard.drop.output : Progress lib _) := by
  constructor
  · intro loop same
    cases same
  · intro _ _ same restores
    cases same
    exact held_dropped holding.held restores
  · intro _ _ same restores _
    cases same
    exact holding.dropped restores

theorem RunKeeps.failed {output : Console IoError} (message : String)
    (cooked : output.Restores → output.modes.raw = false) :
    surroundings.RunKeeps (.done (.error (.runtime message)) output : Progress lib _) := by
  constructor
  · intro loop same
    cases same
  · intro _ _ same restores
    cases same
    exact cooked restores
  · intro _ _ same _ other
    cases same
    exact absurd rfl (other message)

theorem run_keeps (config : ClientConfig) : surroundings.RunKeeps (surroundings.run queries config) := by
  unfold run
  cases surroundings.prepare config with
  | error error => exact .unentered (.error error)
  | ok prepared =>
      dsimp only
      rcases entered : @enterTerminal lib surroundings config with ⟨result, console⟩
      cases result with
      | error error =>
          exact .failed _ fun restores => entry_failed rfl entered restores
      | ok guard =>
          obtain ⟨held, active, screen⟩ := entered_held rfl entered
          have holding : Holding (!(surroundings.environment "MOSH_NO_TERM_INIT").isSome) guard :=
            ⟨held, active, screen⟩
          dsimp only
          unfold runTerminal
          cases terminalSize surroundings.environment surroundings.sizeAtStart with
          | error error => exact .dropped holding _
          | ok size =>
              have begun : Holding _ (EventLoop.start prepared.1 surroundings.started size.1 size.2
                  prepared.2 guard config.predictionDisplay config.predictionOverwrite
                  config.escapeByte).host.guard := holding
              have ran := EventLoop.run_keeps queries surroundings.language begun surroundings.turns
              dsimp only
              generalize EventLoop.run queries surroundings.language _ surroundings.turns = outcome at ran ⊢
              rcases outcome with ⟨result, loop⟩
              rcases result with _ | message | clean
              · have kept : Holding _ loop.host.guard := ran.goesOn none rfl
                constructor
                · intro last same
                  cases same
                  exact kept
                · intro _ _ same _
                  cases same
                · intro _ _ same _ _
                  cases same
              · exact .failed message (held_dropped ran.fails)
              · have kept : Holding _ loop.host.guard := ran.goesOn (some clean) rfl
                cases clean with
                | true => exact .dropped kept _
                | false => exact .dropped kept _

/-- Messages about errors and the one about an unclean shutdown never read alike. -/
theorem error_exit_differs (message : String) : surroundings.exitOf (.error (.runtime message)) ≠
    surroundings.exitOf (.error .uncleanShutdown) := by
  intro same
  have heads := congrArg (fun exit : Exit => exit.written.bind fun line => line.2.head?) same
  simp only [exitOf, withProgramCause, programText] at heads
  split_ifs at heads <;> simp [programTextEn, programTextZh] at heads

variable (queries surroundings)

/-- What the client leaves of the terminal, as far as it has come. -/
structure Leaves (progress : Progress lib Exit) : Prop where
  running : ∀ loop, progress = .running loop → loop.host.guard.output.modes =
    { raw := true
      alternateScreen := !(surroundings.environment "MOSH_NO_TERM_INIT").isSome
      bracketedPaste := true }
  cooked : ∀ exit output, progress = .done exit output → output.Restores → output.modes.raw = false
  given : ∀ exit output, progress = .done exit output → output.Restores →
    exit.code = 0 ∨ exit = surroundings.exitOf (.error .uncleanShutdown) → output.modes = .untouched

theorem Leaves.unentered (exit : Exit) :
    surroundings.Leaves (.done exit surroundings.freshConsole : Progress lib Exit) := by
  constructor
  · intro loop same
    cases same
  · intro _ _ same _
    cases same
    rfl
  · intro _ _ same _ _
    cases same
    rfl

variable {surroundings} in
theorem RunKeeps.leaves {progress : Progress lib (Except AppError Unit)}
    (kept : surroundings.RunKeeps progress) : surroundings.Leaves (progress.map surroundings.exitOf) := by
  cases progress with
  | running loop =>
      constructor
      · intro last same
        cases same
        exact (kept.running loop rfl).modes
      · intro _ _ same
        cases same
      · intro _ _ same
        cases same
  | done result output =>
      constructor
      · intro loop same
        cases same
      · intro exit last same restores
        cases same
        exact kept.cooked result output rfl restores
      · intro exit last same restores ended
        cases same
        apply kept.given result output rfl restores
        intro message failed
        subst failed
        rcases ended with success | unclean
        · cases success
        · exact error_exit_differs message unclean

/-- A connection whose terminal is closed in the first turn. -/
def closedTerminal : Surroundings where
  arguments := ["ferrumtty-client".toList, "host".toList, "60001".toList]
  environment name :=
    if name = "MOSH_KEY" then some ['k'] else if name = "LANG" then some "C.UTF-8".toList else none
  decodeKey _ := some zeroKey
  colorCount := 8
  interactive := true
  addresses _ := .ok [{ bind := none, connect := none, setNonblocking := none, socket := ⟨fun _ _ => none, []⟩ }]
  signals := .ok ()
  sizeAtEntry := .ok (80, 24)
  console _ _ := none
  started := ⟨0⟩
  sizeAtStart := .ok (80, 24)
  turns := [{
    now := ⟨0⟩
    terminationRequested := false
    payloads := []
    receiveEnding := ⟨.wouldBlock, ""⟩
    events := []
    inputEnding := some ⟨.other, "closed"⟩
    quitAt := ⟨0⟩ }]

example : ∃ output, @main plainLibraries lineQueries closedTerminal = .done
    ⟨1, some (.stderr, "FerrumTTY error: could not read terminal input: closed".toList)⟩ output ∧
      output.modes = .untouched :=
  ⟨_, rfl, by decide +kernel⟩

end Surroundings

end FerrumTty.Client
