import FerrumTty.Runtime.SessionRuntime
import FerrumTty.Session.Carried

/-!
# Runs of the session runtime

The public methods of `SessionRuntime` as one machine, what a poll can do, and which
datagrams of its actions belong together.
-/

namespace FerrumTty.Runtime

set_option autoImplicit false

open Crypto Wire State Session Runs

inductive SessionOperation where
  | queueTerminalEvent (event : TerminalInputEvent)
  | queueInput (bytes : Bytes)
  | queueResize (columns rows : UInt16)
  | queueSessionControl (kind : UInt32) (payload : Bytes)
  | setLocalCapabilities (capabilities : Bytes)
  | pause
  | cancel
  | requestShutdown (now : MonotonicTime)
  | notifyUdpRebound
  | resume (now : MonotonicTime)
  | resumeWithActions (now : MonotonicTime)
  | receiveDatagram (packet : Bytes) (now : MonotonicTime)
  | receiveDatagramLossy (packet : Bytes) (now : MonotonicTime)
  | poll (now : MonotonicTime)
  deriving DecidableEq

def SessionOperation.isPoll : SessionOperation → Bool
  | .poll _ => true
  | _ => false

def SessionOperation.pollTime : SessionOperation → Option MonotonicTime
  | .poll now => some now
  | _ => none

inductive SessionOutput where
  | queued (result : Except RuntimeError Unit)
  | acted (result : Except RuntimeError (List SessionAction))
  | nothing
  deriving DecidableEq

namespace SessionOutput

def isError : SessionOutput → Bool
  | .queued (.error _) => true
  | .acted (.error _) => true
  | _ => false

def actions : SessionOutput → List SessionAction
  | .acted (.ok actions) => actions
  | _ => []

end SessionOutput

/-- The datagrams of an action list by the runs they are sent in. A run is the datagrams of
one message, because a diagnostic follows each message. -/
def messages : List SessionAction → List (List Bytes)
  | [] => []
  | .sendDatagram packet :: rest =>
      match rest with
      | .sendDatagram _ :: _ =>
          match messages rest with
          | group :: groups => (packet :: group) :: groups
          | [] => [[packet]]
      | _ => [packet] :: messages rest
  | _ :: rest => messages rest

def isDatagram : SessionAction → Bool
  | .sendDatagram _ => true
  | _ => false

def isShutdownComplete : SessionAction → Bool
  | .shutdownComplete _ => true
  | _ => false

def Silent (actions : List SessionAction) : Prop := ∀ action ∈ actions, isDatagram action = false

def Plain (actions : List SessionAction) : Prop :=
  ∀ action ∈ actions, isDatagram action = false ∧ isShutdownComplete action = false

theorem Plain.silent {actions : List SessionAction} (plain : Plain actions) : Silent actions :=
  fun action member => (plain action member).1

theorem silent_nil : Silent [] := fun _ member => absurd member List.not_mem_nil

theorem Plain.append {left right : List SessionAction} (first : Plain left) (second : Plain right) :
    Plain (left ++ right) := by
  intro action member
  rcases List.mem_append.mp member with early | late
  · exact first action early
  · exact second action late

theorem messages_silent_append {quiet : List SessionAction} (silent : Silent quiet)
    (rest : List SessionAction) : messages (quiet ++ rest) = messages rest := by
  induction quiet with
  | nil => rfl
  | cons action others induction =>
      have here := silent action List.mem_cons_self
      rw [List.cons_append, ← induction fun other member => silent other (List.mem_cons_of_mem _ member)]
      cases action with
      | sendDatagram packet => cases here
      | _ => rfl

theorem Silent.messages {quiet : List SessionAction} (silent : Silent quiet) :
    messages quiet = [] := by
  have alone := messages_silent_append silent []
  rwa [List.append_nil] at alone

theorem messages_send (packet : Bytes) (packets : List Bytes) (event : DiagnosticEvent)
    (rest : List SessionAction) :
    messages (sendActions (packet :: packets) ++ .diagnostic event :: rest) =
      (packet :: packets) :: messages rest := by
  induction packets generalizing packet with
  | nil => rfl
  | cons next others induction =>
      have tail := induction next
      rw [sendActions, List.map_cons, List.map_cons, List.cons_append, List.cons_append] at *
      rw [messages, tail]

namespace SessionRuntime

def perform (lib : Libraries) (runtime : SessionRuntime lib.terminal) :
    SessionOperation → SessionOutput × SessionRuntime lib.terminal
  | .queueTerminalEvent event =>
      let (result, runtime) := runtime.queueTerminalEvent event
      (.queued result, runtime)
  | .queueInput bytes =>
      let (result, runtime) := runtime.queueInput bytes
      (.queued result, runtime)
  | .queueResize columns rows => (.nothing, runtime.queueResize columns rows)
  | .queueSessionControl kind payload =>
      let (result, runtime) := runtime.queueSessionControl kind payload
      (.queued result, runtime)
  | .setLocalCapabilities capabilities => (.nothing, runtime.setLocalCapabilities capabilities)
  | .pause =>
      let (actions, runtime) := runtime.pause
      (.acted (.ok actions), runtime)
  | .cancel =>
      let (actions, runtime) := runtime.cancel
      (.acted (.ok actions), runtime)
  | .requestShutdown now =>
      let (result, runtime) := runtime.requestShutdown now
      (.acted result, runtime)
  | .notifyUdpRebound =>
      let (actions, runtime) := runtime.notifyUdpRebound
      (.acted (.ok actions), runtime)
  | .resume now => (.nothing, runtime.resume now)
  | .resumeWithActions now =>
      let (actions, runtime) := runtime.resumeWithActions now
      (.acted (.ok actions), runtime)
  | .receiveDatagram packet now =>
      let (result, runtime) := runtime.receiveDatagram lib packet now
      (.acted result, runtime)
  | .receiveDatagramLossy packet now =>
      let (actions, runtime) := runtime.receiveDatagramLossy lib packet now
      (.acted (.ok actions), runtime)
  | .poll now =>
      let (result, runtime) := runtime.poll lib now
      (.acted result, runtime)

abbrev RuntimeStep (lib : Libraries) :=
  Step (SessionRuntime lib.terminal) SessionOperation SessionOutput

def PollsSucceed {lib : Libraries} (events : List (RuntimeStep lib)) : Prop :=
  ∀ event ∈ events, event.input.isPoll = true → event.output.isError = false

instance {lib : Libraries} (events : List (RuntimeStep lib)) : Decidable (PollsSucceed events) :=
  inferInstanceAs (Decidable (∀ _ ∈ _, _))

def sentMessages {lib : Libraries} (events : List (RuntimeStep lib)) : List (List Bytes) :=
  events.flatMap fun event => messages event.output.actions

theorem connection_frame {terminal : Terminal} (runtime : SessionRuntime terminal)
    (now : MonotonicTime) :
    ∃ state, (runtime.connectionStateAction now).2 = { runtime with connectionState := state } := by
  unfold connectionStateAction
  split_ifs
  · exact ⟨.interrupted, rfl⟩
  · exact ⟨runtime.connectionState, rfl⟩

end SessionRuntime

end FerrumTty.Runtime
