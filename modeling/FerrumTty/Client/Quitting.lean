import FerrumTty.Client.Delivery

/-!
# The client comes to an end

Whoever asks the client to quit, a signal, the escape command or the server, starts a shutdown of
the session, which the loop polls in every turn until it is complete. No turn that comes twenty
seconds behind the last one before is one that the loop goes on from.
-/

namespace FerrumTty.Client

set_option autoImplicit false

open Crypto Wire State Session Runs FerrumTty.Runtime FerrumTty.Terminal SessionRuntime

section Screens

variable {terminal : Terminal}

def quitting (queries : ScreenQueries terminal) (escape : EscapeInterpreter)
    (screen : AuthoritativeScreen terminal) : List Event → Bool
  | [] => false
  | event :: rest =>
      let stroke := strike escape (screen.remoteModes queries) event
      stroke.quit || quitting queries stroke.escape (screenAfter screen event) rest

end Screens

theorem client_runs {operation : SessionOperation} (asked : fromClient operation = true) :
    operation.halts = false := by
  cases operation with
  | pause => cases asked
  | cancel => cases asked
  | _ => rfl

variable {lib : Libraries} {First Second : Type}

theorem Outcome.andThen_ok {called : Outcome lib First}
    {next : First → EventLoop lib → Outcome lib Second} {value : Second} {last : EventLoop lib}
    (done : called.andThen next = (.ok value, last)) :
    ∃ first loop, called = (.ok first, loop) ∧ next first loop = (.ok value, last) := by
  rcases called with ⟨result, loop⟩
  cases result with
  | error message => cases done
  | ok first => exact ⟨first, loop, rfl, done⟩

def Calls (clocks : MonotonicTime → Prop) (before after : SessionRuntime lib.terminal) : Prop :=
  ∃ operations : List SessionOperation,
    (∀ operation ∈ operations, operation.halts = false) ∧
    (∀ operation ∈ operations, ∀ now, operation.clock = some now → clocks now) ∧
    Succeed (trace (perform lib) before operations) ∧
    after = final (perform lib) before operations

section Calls

variable {clocks : MonotonicTime → Prop} {before after last : SessionRuntime lib.terminal}

theorem Calls.trans (first : Calls clocks before after) (second : Calls clocks after last) :
    Calls clocks before last := by
  obtain ⟨operations, runs, timed, succeed, reached⟩ := first
  obtain ⟨later, laterRuns, laterTimed, laterSucceed, ended⟩ := second
  subst reached
  refine ⟨operations ++ later, ?_, ?_, ?_, ?_⟩
  · intro operation member
    exact (List.mem_append.mp member).elim (runs operation) (laterRuns operation)
  · intro operation member
    exact (List.mem_append.mp member).elim (timed operation) (laterTimed operation)
  · rw [trace_append]
    intro event member
    exact (List.mem_append.mp member).elim (succeed event) (laterSucceed event)
  · rw [final_append, ended]

theorem Converses.calls {loop next : EventLoop lib} {outcome : Outcome lib First}
    {typed : List Bytes} (converses : Converses clocks loop outcome typed) {value : First}
    (done : outcome = (.ok value, next)) : Calls clocks loop.runtime next.runtime := by
  obtain ⟨operations, exchange⟩ := converses
  subst done
  exact ⟨operations, fun operation member => client_runs (exchange.asked operation member),
    exchange.timed, exchange.succeed, (exchange.goesOn value rfl).1⟩

theorem Calls.clocked {limit : Nat}
    (calls : Calls (fun now => now.milliseconds.toNat ≤ limit) before after)
    (clocked : Clocked limit before) : Clocked limit after := by
  obtain ⟨operations, runs, timed, succeed, reached⟩ := calls
  exact reached ▸ clocked.run runs timed succeed

theorem Calls.leaving {limit : Nat} (calls : Calls clocks before after)
    (leaving : Leaving limit before) (incomplete : after.shutdownIsComplete = false) : Leaving limit after := by
  obtain ⟨operations, runs, _, succeed, reached⟩ := calls
  subst reached
  exact leaving.run runs succeed incomplete

theorem Calls.closed (calls : Calls clocks before after) (closed : before.shutdown ≠ .open) :
    after.shutdown ≠ .open := by
  obtain ⟨operations, runs, _, succeed, reached⟩ := calls
  exact reached ▸ closed_run closed runs succeed

end Calls

namespace EventLoop

variable (queries : ScreenQueries lib.terminal) (language : String) (loop : EventLoop lib)
  {clocks : MonotonicTime → Prop} {turn : Turn} {next : EventLoop lib}

structure GoesOn (queries : ScreenQueries lib.terminal) (language : String) (loop : EventLoop lib)
    (turn : Turn) (next asked drained typed : EventLoop lib) : Prop where
  terminated : loop.terminate queries language turn = (.ok (), asked)
  received : (asked.noteSleep turn).drainSocket queries language turn = (.ok false, drained)
  input : drained.noteRoundTrip.drainInput queries language turn = (.ok (), typed)
  polled : ∃ actions, typed.runtime.poll lib turn.now = (.ok actions, next.runtime)
  incomplete : next.runtime.shutdownIsComplete = false

theorem apply_actions_runtime (actions : List SessionAction) :
    (loop.applyActions queries language actions).2.runtime = loop.runtime := rfl

theorem turn_goes_on (gone : loop.turnOnce queries language turn = (.ok none, next)) :
    ∃ asked drained typed, GoesOn queries language loop turn next asked drained typed := by
  unfold turnOnce at gone
  obtain ⟨_, asked, terminated, gone⟩ := Outcome.andThen_ok gone
  obtain ⟨refused, drained, received, gone⟩ := Outcome.andThen_ok gone
  cases refused with
  | true => cases gone
  | false =>
      obtain ⟨_, typed, input, gone⟩ := Outcome.andThen_ok gone
      obtain ⟨_, last, polling, gone⟩ := Outcome.andThen_ok gone
      have outcome := congrArg Prod.fst gone
      have same : last = next := congrArg Prod.snd gone
      subst same
      refine ⟨asked, drained, typed, terminated, received, input, ?_, ?_⟩
      · unfold pollSession at polling
        rcases polled : typed.runtime.poll lib turn.now with ⟨result, runtime⟩
        rw [polled] at polling
        cases result with
        | error error => cases polling
        | ok actions =>
            have reached := congrArg (fun outcome => outcome.2.runtime) polling
            rw [apply_actions_runtime] at reached
            exact ⟨actions, by rw [← reached]⟩
      · cases state : last.runtime.shutdown with
        | complete ended => simp [shutdownOutcome, state] at outcome
        | _ => rw [shutdownIsComplete, state]

theorem request_closes {now : MonotonicTime} {called : EventLoop lib}
    (requested : loop.requestShutdown queries language now = (.ok (), called)) :
    called.runtime.shutdown ≠ .open := by
  unfold requestShutdown at requested
  rcases answered : loop.runtime.requestShutdown now with ⟨result, runtime⟩
  rw [answered] at requested
  cases result with
  | error error => cases requested
  | ok actions =>
      have reached := congrArg (fun outcome => outcome.2.runtime) requested
      rw [apply_actions_runtime] at reached
      have state := congrArg (fun answer => answer.2.shutdown) answered
      dsimp only at reached state
      rw [← reached, ← state]
      unfold SessionRuntime.requestShutdown
      split
      · rename_i failed
        rw [SessionRuntime.requestShutdown, failed] at answered
        cases answered
      · split_ifs with opened
        · intro stillOpen
          cases stillOpen
        · exact opened

theorem drain_terminal_quits {ending : Option IoError} {events : List (Event × MonotonicTime)}
    {quit : Bool} {drained : EventLoop lib}
    (done : drainTerminal queries language ending loop events = (.ok quit, drained)) :
    quit = quitting queries loop.escape loop.host.guard.authoritative (events.map Prod.fst) := by
  induction events generalizing loop with
  | nil =>
      unfold drainTerminal at done
      cases ending with
      | none => exact (Except.ok.inj (congrArg Prod.fst done)).symm
      | some error => cases done
  | cons first rest induction =>
      rcases first with ⟨event, now⟩
      rw [drainTerminal] at done
      obtain ⟨_, opened, cleared, done⟩ := Outcome.andThen_ok done
      obtain ⟨struck, last, ended, done⟩ := Outcome.andThen_ok done
      have clear := @writing_types _ language loop (fun _ => True) _
        (clear_authoritative queries loop.host.guard)
      have escape := clear.escapes _ (congrArg Prod.fst cleared)
      have screen := clear.shows _ (congrArg Prod.fst cleared)
      rw [cleared] at escape screen
      have stroke := @event_types _ queries language opened (fun _ => True) event now trivial
      have answered := stroke.answers _ (congrArg Prod.fst ended)
      have kept := stroke.escapes _ (congrArg Prod.fst ended)
      have shown := stroke.shows _ (congrArg Prod.fst ended)
      rw [ended] at kept shown
      dsimp only at escape screen kept shown answered
      rw [List.map_cons, quitting, ← escape, ← screen, ← answered]
      cases struck with
      | true => exact (Except.ok.inj (congrArg Prod.fst done)).symm
      | false =>
          rw [Bool.false_or, ← kept, ← shown]
          exact induction last done

/-- A signal or the escape command asks the client to quit in the turn. -/
def askedToQuit (turn : Turn) : Bool :=
  turn.terminationRequested || (loop.listening queries language turn).any fun loop =>
    quitting queries loop.escape loop.host.guard.authoritative (turn.events.map Prod.fst)

section GoesOn

variable {queries language loop} {asked drained typed : EventLoop lib}
  (goesOn : GoesOn queries language loop turn next asked drained typed)
  (read : ∀ now ∈ turn.clocks, clocks now)

include goesOn

include read in
theorem GoesOn.calls : Calls clocks loop.runtime typed.runtime := by
  have first : Calls clocks loop.runtime asked.runtime :=
    (loop.terminate_converses queries language read).calls goesOn.terminated
  have second : Calls clocks asked.runtime drained.runtime :=
    (asked.drain_socket_converses queries language read).calls goesOn.received
  have third : Calls clocks drained.noteRoundTrip.runtime typed.runtime :=
    (drained.noteRoundTrip.drain_input_converses queries language read).calls goesOn.input
  exact (first.trans second).trans third

include read in
theorem GoesOn.polls : Calls clocks typed.runtime next.runtime := by
  obtain ⟨actions, polled⟩ := goesOn.polled
  refine ⟨[.poll turn.now], ?_, ?_, ?_, ?_⟩
  · intro operation member
    rw [List.mem_singleton.mp member]
    rfl
  · intro operation member now same
    rw [List.mem_singleton.mp member] at same
    exact Option.some.inj same ▸ read _ turn.now_read
  · intro event member
    rw [List.mem_singleton.mp member, stepAt, perform, polled]
    rfl
  · rw [final_cons, perform, polled]
    rfl

theorem GoesOn.listens : loop.listening queries language turn = some drained := by
  rw [listening, goesOn.terminated]
  dsimp only
  rw [goesOn.received]

theorem GoesOn.closes (quits : loop.askedToQuit queries language turn = true) :
    next.runtime.shutdown ≠ .open := by
  have always : ∀ now ∈ turn.clocks, (fun _ => True) now := fun _ _ => trivial
  have polled : Calls (fun _ => True) typed.runtime next.runtime := goesOn.polls always
  have received : Calls (fun _ => True) asked.runtime drained.runtime :=
    (asked.drain_socket_converses queries language always).calls goesOn.received
  have heard : Calls (fun _ => True) drained.noteRoundTrip.runtime typed.runtime :=
    (drained.noteRoundTrip.drain_input_converses queries language always).calls goesOn.input
  rw [askedToQuit, goesOn.listens] at quits
  rcases Bool.or_eq_true_iff.mp quits with signalled | commanded
  · have begun : asked.runtime.shutdown ≠ .open := by
      have terminated := goesOn.terminated
      rw [terminate, if_pos signalled] at terminated
      exact loop.request_closes queries language terminated
    exact polled.closed (heard.closed (received.closed begun))
  · apply polled.closed
    have input := goesOn.input
    unfold drainInput at input
    split_ifs at input with under
    · have same : drained.noteRoundTrip = typed := congrArg Prod.snd input
      intro opened
      rw [← same] at opened
      rw [shutdownInProgress, opened] at under
      cases under
    · obtain ⟨quit, last, ended, asking⟩ := Outcome.andThen_ok input
      have answer := drain_terminal_quits queries language _ ended
      have whole : quit = true := answer.trans commanded
      rw [whole, if_pos rfl] at asking
      exact last.request_closes queries language asking

variable {limit : Nat}

theorem GoesOn.clocked (read : ∀ now ∈ turn.clocks, now.milliseconds.toNat ≤ limit)
    (clocked : Clocked limit loop.runtime) :
    Clocked limit next.runtime ∧ next.runtime.association = .sent := by
  have before : Clocked limit typed.runtime := (goesOn.calls read).clocked clocked
  obtain ⟨actions, polled⟩ := goesOn.polled
  exact ⟨(goesOn.polls read).clocked before, poll_opens before.running polled goesOn.incomplete⟩

/-- A loop that goes on while its session shuts down comes before the end of both delays. -/
theorem GoesOn.leaving (leaving : Leaving limit loop.runtime) :
    Leaving limit next.runtime ∧ turn.now.milliseconds.toNat <
      limit + SHUTDOWN_TIMEOUT_MILLISECONDS + MAXIMUM_RETRANSMIT_MILLISECONDS := by
  have always : ∀ now ∈ turn.clocks, (fun _ => True) now := fun _ _ => trivial
  have polls : Calls (fun _ => True) typed.runtime next.runtime := goesOn.polls always
  have going : typed.runtime.shutdownIsComplete = false := by
    by_contra ended
    obtain ⟨operations, runs, _, succeed, reached⟩ := polls
    have complete := complete_run ((Bool.not_eq_false _).mp ended) runs succeed
    rw [← reached, goesOn.incomplete] at complete
    cases complete
  have before : Leaving limit typed.runtime := (goesOn.calls always).leaving leaving going
  obtain ⟨actions, polled⟩ := goesOn.polled
  exact ⟨polls.leaving before goesOn.incomplete, (before.poll polled goesOn.incomplete).1⟩

end GoesOn

section Runs

variable {queries language loop} {turns rest : List Turn} {limit : Nat}

theorem run_cons_none (going : (run queries language loop (turn :: rest)).1 = none) :
    ∃ next, loop.turnOnce queries language turn = (.ok none, next) ∧
      run queries language loop (turn :: rest) = run queries language next rest := by
  rw [run] at going ⊢
  rcases once : loop.turnOnce queries language turn with ⟨result, next⟩
  rw [once] at going
  rcases result with message | clean
  · cases going
  · cases clean with
    | none => exact ⟨next, rfl, rfl⟩
    | some clean => cases going

theorem run_append (going : (run queries language loop turns).1 = none) :
    run queries language loop (turns ++ rest) =
      run queries language (run queries language loop turns).2 rest := by
  induction turns generalizing loop with
  | nil => rfl
  | cons turn others induction =>
      obtain ⟨next, once, same⟩ := run_cons_none going
      rw [same] at going ⊢
      rw [List.cons_append, run, once]
      exact induction going

/-- Somebody asks the client to quit in the turns. -/
def askedWithin (queries : ScreenQueries lib.terminal) (language : String) (loop : EventLoop lib) :
    List Turn → Bool
  | [] => false
  | turn :: rest =>
      loop.askedToQuit queries language turn ||
        match loop.turnOnce queries language turn with
        | (.ok none, loop) => askedWithin queries language loop rest
        | _ => false

/-- The timers of a run that goes on were set within its turns. -/
theorem run_clocked (clocked : Clocked limit loop.runtime)
    (read : ∀ turn ∈ turns, ∀ now ∈ turn.clocks, now.milliseconds.toNat ≤ limit)
    (going : (run queries language loop turns).1 = none) :
    Clocked limit (run queries language loop turns).2.runtime ∧
      (turns ≠ [] → (run queries language loop turns).2.runtime.association = .sent ∧
        (run queries language loop turns).2.runtime.shutdownIsComplete = false) := by
  induction turns generalizing loop with
  | nil => exact ⟨clocked, fun nonempty => absurd rfl nonempty⟩
  | cons turn others induction =>
      obtain ⟨next, once, same⟩ := run_cons_none going
      obtain ⟨asked, drained, typed, goesOn⟩ := turn_goes_on queries language loop once
      obtain ⟨after, opened⟩ := goesOn.clocked (read turn List.mem_cons_self) clocked
      rw [same] at going ⊢
      have later := induction after (fun other member => read other (List.mem_cons_of_mem _ member)) going
      refine ⟨later.1, fun _ => ?_⟩
      cases others with
      | nil => exact ⟨opened, goesOn.incomplete⟩
      | cons second behind => exact later.2 (List.cons_ne_nil _ _)

theorem run_closed (closed : loop.runtime.shutdown ≠ .open)
    (going : (run queries language loop turns).1 = none) :
    (run queries language loop turns).2.runtime.shutdown ≠ .open := by
  induction turns generalizing loop with
  | nil => exact closed
  | cons turn others induction =>
      obtain ⟨next, once, same⟩ := run_cons_none going
      obtain ⟨asked, drained, typed, goesOn⟩ := turn_goes_on queries language loop once
      have always : ∀ now ∈ turn.clocks, (fun _ => True) now := fun _ _ => trivial
      have calls : Calls (fun _ => True) loop.runtime next.runtime :=
        (goesOn.calls always).trans (goesOn.polls always)
      rw [same] at going ⊢
      exact induction (calls.closed closed) going

theorem run_asked (quits : askedWithin queries language loop turns = true)
    (going : (run queries language loop turns).1 = none) :
    (run queries language loop turns).2.runtime.shutdown ≠ .open := by
  induction turns generalizing loop with
  | nil => cases quits
  | cons turn others induction =>
      obtain ⟨next, once, same⟩ := run_cons_none going
      rw [askedWithin, once] at quits
      rw [same] at going ⊢
      rcases Bool.or_eq_true_iff.mp quits with here | later
      · obtain ⟨asked, drained, typed, goesOn⟩ := turn_goes_on queries language loop once
        exact run_closed (goesOn.closes here) going
      · exact induction later going

theorem run_leaves (leaving : Leaving limit loop.runtime) (late : ∃ turn ∈ turns,
      limit + SHUTDOWN_TIMEOUT_MILLISECONDS + MAXIMUM_RETRANSMIT_MILLISECONDS ≤
        turn.now.milliseconds.toNat) :
    (run queries language loop turns).1 ≠ none := by
  intro going
  induction turns generalizing loop with
  | nil =>
      obtain ⟨turn, member, _⟩ := late
      cases member
  | cons turn others induction =>
      obtain ⟨next, once, same⟩ := run_cons_none going
      obtain ⟨asked, drained, typed, goesOn⟩ := turn_goes_on queries language loop once
      obtain ⟨onward, early⟩ := goesOn.leaving leaving
      rw [same] at going
      obtain ⟨last, member, behind⟩ := late
      rcases List.mem_cons.mp member with here | later
      · subst here
        omega
      · exact induction onward ⟨last, later, behind⟩ going

end Runs

theorem in_progress {runtime : SessionRuntime lib.terminal} (closed : runtime.shutdown ≠ .open)
    (incomplete : runtime.shutdownIsComplete = false) : runtime.shutdownInProgress = true := by
  unfold shutdownInProgress
  unfold shutdownIsComplete at incomplete
  cases state : runtime.shutdown with
  | «open» => exact absurd state closed
  | localRequested startedAt transmissions => rfl
  | peerRequested => rfl
  | complete outcome =>
      rw [state] at incomplete
      cases incomplete

theorem start_opened (terminal : Terminal) (key : SessionKey) (started : MonotonicTime)
    (columns rows : UInt16) :
    ((SessionRuntime.new terminal key started).queueResize columns rows).shutdown = .open := by
  unfold queueResize
  split_ifs <;> rfl

/-- Who asks the client to quit is obeyed: a loop that goes on behind a signal or the escape command
has begun to shut down, and a loop that shuts down, whoever asked, ends at the latest in the first
turn twenty seconds behind, be the server silent or not. -/
theorem quitting_client_ends (queries : ScreenQueries lib.terminal) (language : String)
    (key : SessionKey) (started : MonotonicTime) (columns rows : UInt16) (socket : Socket)
    (guard : TerminalGuard lib.terminal IoError) (predictionDisplay : Predict.PredictionDisplay)
    (predictionOverwrite : Bool) (escapeByte : UInt8) (first : List Turn) (limit : Nat)
    (read : ∀ turn ∈ first, ∀ now ∈ turn.clocks, now.milliseconds.toNat ≤ limit) :
    let begun := start key started columns rows socket guard predictionDisplay predictionOverwrite
      escapeByte
    let ran := run queries language begun first
    ran.1 = none →
      (askedWithin queries language begun first = true →
        ran.2.runtime.shutdownInProgress = true) ∧
      (ran.2.runtime.shutdownInProgress = true → ∀ rest : List Turn,
        (∃ turn ∈ rest, limit + 20000 ≤ turn.now.milliseconds.toNat) →
        (run queries language begun (first ++ rest)).1 ≠ none) := by
  dsimp only
  set begun := start key started columns rows socket guard predictionDisplay predictionOverwrite
    escapeByte
  intro going
  have fresh : Clocked limit begun.runtime :=
    @Clocked.step lib _ (.queueResize columns rows) limit
      (new_clocked lib.terminal key started limit) rfl (fun _ never => nomatch never) rfl
  obtain ⟨clocked, polled⟩ := run_clocked fresh read going
  constructor
  · intro quits
    have closed := run_asked quits going
    have nonempty : first ≠ [] := by
      rintro rfl
      cases quits
    exact in_progress closed (polled nonempty).2
  · intro leaving rest late
    have nonempty : first ≠ [] := by
      rintro rfl
      have opened : begun.runtime.shutdown = .open := start_opened lib.terminal key started columns rows
      change begun.runtime.shutdownInProgress = true at leaving
      rw [shutdownInProgress, opened] at leaving
      cases leaving
    obtain ⟨turn, member, behind⟩ := late
    rw [run_append going]
    refine run_leaves (clocked.leaving (polled nonempty).1 leaving) ⟨turn, member, ?_⟩
    have delays : SHUTDOWN_TIMEOUT_MILLISECONDS + MAXIMUM_RETRANSMIT_MILLISECONDS = 20000 := rfl
    omega

/-- The escape prefix and its command to quit, both in the second turn. -/
def quittingTurns : List Turn :=
  [typingTurn 0 [], typingTurn 1000 [
    .key { code := .char '6', modifiers := { KeyModifiers.NONE with control := true } } .press,
    .key { code := .char '.', modifiers := .NONE } .press]]

/-- The server is silent, and the loop ends twenty seconds later. -/
theorem quitting_turns_end :
    (run lineQueries "en" plainClient quittingTurns).1 = none ∧
      (run lineQueries "en" plainClient quittingTurns).2.runtime.shutdownInProgress = true ∧
      (run lineQueries "en" plainClient (quittingTurns ++ [typingTurn 21000 []])).1 ≠ none := by
  have going : (run lineQueries "en" plainClient quittingTurns).1 = none := by decide +kernel
  have ends : (askedWithin lineQueries "en" plainClient quittingTurns = true →
        (run lineQueries "en" plainClient quittingTurns).2.runtime.shutdownInProgress = true) ∧
      ((run lineQueries "en" plainClient quittingTurns).2.runtime.shutdownInProgress = true →
        ∀ rest : List Turn, (∃ turn ∈ rest, 1000 + 20000 ≤ turn.now.milliseconds.toNat) →
        (run lineQueries "en" plainClient (quittingTurns ++ rest)).1 ≠ none) :=
    quitting_client_ends lineQueries "en" zeroKey ⟨0⟩ 80 24 plainClient.host.socket
      plainClient.host.guard .adaptive false 0x1e quittingTurns 1000 (by decide +kernel) going
  have leaving := ends.1 (by decide +kernel)
  exact ⟨going, leaving, ends.2 leaving _ ⟨_, List.mem_cons_self, by decide⟩⟩

end EventLoop

end FerrumTty.Client
