import FerrumTty.Client.LocalHost
import FerrumTty.Runtime.Endings
import FerrumTty.Runtime.LocalInput

/-!
# What the event loop asks of the session

Each part of a turn is a sequence of calls of the session's public methods, and the host takes
exactly the actions that they return, in turn. A call that fails ends the client, so all calls of
a loop that goes on have succeeded.
-/

namespace FerrumTty.Client

set_option autoImplicit false

open Crypto Wire State Session Runs FerrumTty.Runtime FerrumTty.Terminal SessionRuntime

def inputOf : SessionOperation → Option Bytes
  | .queueInput bytes => some bytes
  | _ => none

def fromClient : SessionOperation → Bool
  | .queueInput _ | .queueResize _ _ | .requestShutdown _ | .resume _ | .receiveDatagram _ _
  | .poll _ => true
  | _ => false

variable {lib : Libraries}

def actionsOf (events : List (RuntimeStep lib)) : List SessionAction :=
  events.flatMap fun event => event.output.actions

def Succeed (events : List (RuntimeStep lib)) : Prop :=
  ∀ event ∈ events, event.output.isError = false

/-- The calls that a part of the loop has made, the input among them, and the actions that the host
has taken. -/
structure Exchange {Value : Type} (clocks : MonotonicTime → Prop) (before : EventLoop lib) (outcome : Outcome lib Value)
    (typed : List Bytes) (operations : List SessionOperation) : Prop where
  asked : ∀ operation ∈ operations, fromClient operation = true
  timed : ∀ operation ∈ operations, ∀ now, operation.clock = some now → clocks now
  succeed : Succeed (trace (perform lib) before.runtime operations)
  input : operations.filterMap inputOf <+: typed
  took : ∃ taken, taken <+: actionsOf (trace (perform lib) before.runtime operations) ∧
    Took before.host outcome.2.host taken
  goesOn : ∀ value, outcome.1 = .ok value →
    outcome.2.runtime = final (perform lib) before.runtime operations ∧
      operations.filterMap inputOf = typed ∧
      Took before.host outcome.2.host (actionsOf (trace (perform lib) before.runtime operations))

def Converses {Value : Type} (clocks : MonotonicTime → Prop) (before : EventLoop lib)
    (outcome : Outcome lib Value) (typed : List Bytes) : Prop :=
  ∃ operations, Exchange clocks before outcome typed operations

section Exchanges

variable {First Second : Type} {clocks : MonotonicTime → Prop} {before : EventLoop lib}
  {typed later : List Bytes}

theorem actions_append (first second : List (RuntimeStep lib)) :
    actionsOf (first ++ second) = actionsOf first ++ actionsOf second := List.flatMap_append

theorem Converses.quiet {outcome : Outcome lib First}
    (runtime : outcome.2.runtime = before.runtime) (took : Took before.host outcome.2.host []) :
    Converses clocks before outcome [] := by
  refine ⟨[], ?_, ?_, ?_, List.nil_prefix, ⟨[], List.nil_prefix, took⟩, fun value done =>
    ⟨runtime, rfl, took⟩⟩
  · intro operation member
    cases member
  · intro operation member
    cases member
  · intro event member
    cases member

theorem Converses.behind {outcome : Outcome lib First} {earlier : EventLoop lib}
    (converses : Converses clocks before outcome typed) (runtime : before.runtime = earlier.runtime)
    (took : Took earlier.host before.host []) : Converses clocks earlier outcome typed := by
  obtain ⟨operations, exchange⟩ := converses
  refine ⟨operations, exchange.asked, exchange.timed, ?_, exchange.input, ?_, ?_⟩
  · rw [← runtime]
    exact exchange.succeed
  · rw [← runtime]
    obtain ⟨taken, among, taking⟩ := exchange.took
    exact ⟨taken, among, took.trans taking⟩
  · rw [← runtime]
    intro value done
    obtain ⟨reached, whole, taking⟩ := exchange.goesOn value done
    exact ⟨reached, whole, took.trans taking⟩

theorem Converses.andThen {called : Outcome lib First}
    {next : First → EventLoop lib → Outcome lib Second} (first : Converses clocks before called typed)
    (second : ∀ value loop, called = (.ok value, loop) → Converses clocks loop (next value loop) later) :
    Converses clocks before (called.andThen next) (typed ++ later) := by
  obtain ⟨operations, exchange⟩ := first
  rcases called with ⟨result, loop⟩
  cases result with
  | error message =>
      refine ⟨operations, exchange.asked, exchange.timed, exchange.succeed,
        exchange.input.trans (List.prefix_append _ _), exchange.took, ?_⟩
      intro value done
      cases done
  | ok value =>
      obtain ⟨more, onward⟩ := second value loop rfl
      obtain ⟨runtime, sameTyped, took⟩ := exchange.goesOn value rfl
      dsimp only at runtime took
      have traced : trace (perform lib) before.runtime (operations ++ more) =
          trace (perform lib) before.runtime operations ++ trace (perform lib) loop.runtime more := by
        rw [trace_append, ← runtime]
      refine ⟨operations ++ more, ?_, ?_, ?_, ?_, ?_, ?_⟩
      · intro operation member
        rcases List.mem_append.mp member with early | late
        · exact exchange.asked operation early
        · exact onward.asked operation late
      · intro operation member
        rcases List.mem_append.mp member with early | late
        · exact exchange.timed operation early
        · exact onward.timed operation late
      · rw [traced]
        intro event member
        rcases List.mem_append.mp member with early | late
        · exact exchange.succeed event early
        · exact onward.succeed event late
      · rw [List.filterMap_append, sameTyped]
        exact (List.prefix_append_right_inj _).mpr onward.input
      · obtain ⟨taken, among, taking⟩ := onward.took
        refine ⟨_, ?_, took.trans taking⟩
        rw [traced, actions_append]
        exact (List.prefix_append_right_inj _).mpr among
      · intro last done
        obtain ⟨lastRuntime, lastTyped, lastTook⟩ := onward.goesOn last done
        refine ⟨?_, ?_, ?_⟩
        · rw [final_append, ← runtime]
          exact lastRuntime
        · rw [List.filterMap_append, sameTyped, lastTyped]
        · rw [traced, actions_append]
          exact took.trans lastTook

/-- A part that queues nothing changes nothing about what was typed. -/
theorem Converses.andThen_quiet {called : Outcome lib First}
    {next : First → EventLoop lib → Outcome lib Second} (first : Converses clocks before called typed)
    (second : ∀ value loop, called = (.ok value, loop) → Converses clocks loop (next value loop) []) :
    Converses clocks before (called.andThen next) typed := by
  have both := first.andThen second
  rwa [List.append_nil] at both

theorem Converses.quiet_andThen {called : Outcome lib First}
    {next : First → EventLoop lib → Outcome lib Second} (first : Converses clocks before called [])
    (second : ∀ value loop, called = (.ok value, loop) → Converses clocks loop (next value loop) later) :
    Converses clocks before (called.andThen next) later := first.andThen second

theorem Converses.map {outcome : Outcome lib First} (converses : Converses clocks before outcome typed)
    (function : First → Second) :
    Converses clocks before ((outcome.1.map function, outcome.2) : Outcome lib Second) typed := by
  obtain ⟨operations, exchange⟩ := converses
  refine ⟨operations, exchange.asked, exchange.timed, exchange.succeed, exchange.input,
    exchange.took, ?_⟩
  intro value done
  rcases outcome with ⟨result, loop⟩
  cases result with
  | error message => cases done
  | ok value => exact exchange.goesOn value rfl

theorem Converses.failed {outcome : Outcome lib First}
    (fails : ∀ value, outcome.1 ≠ .ok value)
    (took : Took before.host outcome.2.host []) : Converses clocks before outcome typed := by
  refine ⟨[], ?_, ?_, ?_, List.nil_prefix, ⟨[], List.nil_prefix, took⟩, fun value done =>
    absurd done (fails value)⟩
  · intro operation member
    cases member
  · intro operation member
    cases member
  · intro event member
    cases member

theorem Converses.call {outcome : Outcome lib First} (operation : SessionOperation)
    (output : SessionOutput) (known : fromClient operation = true)
    (timely : ∀ now, operation.clock = some now → clocks now)
    {runtime : SessionRuntime lib.terminal}
    (performed : perform lib before.runtime operation = (output, runtime))
    (fine : output.isError = false) (silent : output.actions = [])
    (after : outcome.2.runtime = runtime) (took : Took before.host outcome.2.host []) :
    Converses clocks before outcome (inputOf operation).toList := by
  have typed : [operation].filterMap inputOf = (inputOf operation).toList := by
    cases input : inputOf operation with
    | none => simp [input]
    | some bytes => simp [input]
  have traced : trace (perform lib) before.runtime [operation] =
      [⟨before.runtime, operation, output, runtime⟩] := by
    rw [trace, stepAt, performed]
    rfl
  refine ⟨[operation], ?_, ?_, ?_, typed ▸ List.prefix_refl _, ⟨[], List.nil_prefix, took⟩, ?_⟩
  · intro other member
    rw [List.mem_singleton.mp member]
    exact known
  · intro other member
    rw [List.mem_singleton.mp member]
    exact timely
  · rw [traced]
    intro event member
    rw [List.mem_singleton.mp member]
    exact fine
  · intro value done
    refine ⟨?_, typed, ?_⟩
    · rw [after, final_cons, performed]
      rfl
    · rw [traced]
      simpa [actionsOf, silent] using took

end Exchanges

theorem host_still (host : LocalHost lib.terminal) : Took host host [] := .still rfl rfl rfl

namespace EventLoop

variable (queries : ScreenQueries lib.terminal) (language : String) (loop : EventLoop lib)

section Session

variable {clocks : MonotonicTime → Prop}

theorem applying_converses (operation : SessionOperation) (known : fromClient operation = true)
    (timely : ∀ now, operation.clock = some now → clocks now)
    (wordless : inputOf operation = none) {runtime : SessionRuntime lib.terminal}
    {actions : List SessionAction}
    (performed : perform lib loop.runtime operation = (.acted (.ok actions), runtime)) :
    Converses clocks loop ({ loop with runtime }.applyActions queries language actions) [] := by
  obtain ⟨taken, among, took, all⟩ := apply_actions_took queries language loop.host actions
  have traced : trace (perform lib) loop.runtime [operation] =
      [⟨loop.runtime, operation, .acted (.ok actions), runtime⟩] := by
    rw [trace, stepAt, performed]
    rfl
  have emitted : actionsOf (trace (perform lib) loop.runtime [operation]) = actions := by
    rw [traced]
    simp [actionsOf, SessionOutput.actions]
  have silent : [operation].filterMap inputOf = [] := by simp [wordless]
  refine ⟨[operation], ?_, ?_, ?_, silent ▸ List.nil_prefix, ⟨taken, ?_, took⟩, ?_⟩
  · intro other member
    rw [List.mem_singleton.mp member]
    exact known
  · intro other member
    rw [List.mem_singleton.mp member]
    exact timely
  · rw [traced]
    intro event member
    rw [List.mem_singleton.mp member]
    rfl
  · rw [emitted]
    exact among
  · intro value done
    refine ⟨?_, silent, ?_⟩
    · rw [final_cons, performed]
      rfl
    · rw [emitted]
      exact all done ▸ took

theorem request_shutdown_converses {now : MonotonicTime} (read : clocks now) :
    Converses clocks loop (loop.requestShutdown queries language now) [] := by
  unfold requestShutdown
  rcases requested : loop.runtime.requestShutdown now with ⟨result, runtime⟩
  cases result with
  | error error => exact .failed (by simp) (host_still _)
  | ok actions =>
      apply loop.applying_converses queries language (.requestShutdown now) rfl
        (fun _ same => Option.some.inj same ▸ read) rfl
      rw [perform, requested]

theorem poll_session_converses {turn : Turn} (read : clocks turn.now) :
    Converses clocks loop (loop.pollSession queries language turn) [] := by
  unfold pollSession
  rcases polled : loop.runtime.poll lib turn.now with ⟨result, runtime⟩
  cases result with
  | error error => exact .failed (by simp) (host_still _)
  | ok actions =>
      apply loop.applying_converses queries language (.poll turn.now) rfl
        (fun _ same => Option.some.inj same ▸ read) rfl
      rw [perform, polled]

/-- `drain_network` over the given payloads. -/
def receiving (now : MonotonicTime) (ending : IoError) (payloads : List Bytes) :
    Outcome lib Bool :=
  let drained := drainNetwork lib (localHost queries) language now ending loop.runtime loop.host
    payloads
  (drained.result, { loop with runtime := drained.runtime, host := drained.state })

/-- The first payload of `drain_network`. -/
def receivingOne (now : MonotonicTime) (payload : Bytes) : Outcome lib Unit :=
  match receivePayload lib now loop.runtime payload with
  | (.error error, runtime) =>
      (.error (formatRuntimeError language error), { loop with runtime })
  | (.ok actions, runtime) => { loop with runtime }.applyActions queries language actions

theorem receiving_cons (now : MonotonicTime) (ending : IoError) (payload : Bytes)
    (rest : List Bytes) :
    loop.receiving queries language now ending (payload :: rest) =
      (loop.receivingOne queries language now payload).andThen fun _ loop =>
        loop.receiving queries language now ending rest := by
  unfold receiving receivingOne
  rw [drainNetwork, drainPayload]
  rcases receivePayload lib now loop.runtime payload with ⟨result, runtime⟩
  cases result with
  | error error => rfl
  | ok actions =>
      dsimp only [applyActions, Outcome.andThen]
      cases (Client.applyActions (localHost queries) language loop.host actions).result <;> rfl

theorem receiving_one_converses {now : MonotonicTime} (read : clocks now) (payload : Bytes) :
    Converses clocks loop (loop.receivingOne queries language now payload) [] := by
  unfold receivingOne
  rcases received : receivePayload lib now loop.runtime payload with ⟨result, runtime⟩
  cases result with
  | error error => exact .failed (by simp) (host_still _)
  | ok actions =>
      apply loop.applying_converses queries language
        (.receiveDatagram (payload.take RECEIVE_BUFFER_BYTES) now) rfl
        (fun _ same => Option.some.inj same ▸ read) rfl
      rw [receivePayload] at received
      rw [perform, received]

theorem receiving_converses {now : MonotonicTime} (read : clocks now) (ending : IoError)
    (payloads : List Bytes) :
    Converses clocks loop (loop.receiving queries language now ending payloads) [] := by
  induction payloads generalizing loop with
  | nil => exact .quiet rfl (host_still _)
  | cons payload rest induction =>
      rw [receiving_cons]
      exact (loop.receiving_one_converses queries language read payload).andThen_quiet
        fun _ next _ => induction next

theorem queue_input_converses (bytes : Bytes) :
    Converses clocks loop (loop.queueInput language bytes) [bytes] := by
  unfold queueInput
  rcases queued : loop.runtime.queueInput bytes with ⟨result, runtime⟩
  cases result with
  | error error => exact .failed (by simp [Except.mapError]) (host_still _)
  | ok done =>
      refine Converses.call (.queueInput bytes) (.queued (.ok ())) rfl (by simp [SessionOperation.clock])
        ?_ rfl rfl rfl (host_still _)
      rw [perform, queued]

theorem resume_converses {Value : Type} (value : Value) {now : MonotonicTime} (read : clocks now) :
    Converses clocks loop ((.ok value, { loop with runtime := loop.runtime.resume now }) :
      Outcome lib Value) [] :=
  Converses.call (.resume now) .nothing rfl (fun _ same => Option.some.inj same ▸ read) rfl rfl rfl rfl (host_still _)

end Session

end EventLoop

end FerrumTty.Client
