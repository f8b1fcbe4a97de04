import FerrumTty.Client.Messages
import FerrumTty.Predict.PredictionOverlay
import FerrumTty.Runtime.Rejections

/-!
# The receive loop of the client

`drain_network` of `ferrumtty-client` hands every received payload to `receive_datagram` and
ends the client on its errors. A payload that the session rejects is such an error, so the
loop outlives it only where the session's own payloads run into the same message with nothing
applied in between.
-/

namespace FerrumTty.Client

set_option autoImplicit false

open Crypto Wire State Session FerrumTty.Runtime

def RECEIVE_BUFFER_BYTES : Nat := 65535

inductive IoErrorKind where
  | wouldBlock
  | connectionRefused
  | other
  deriving DecidableEq, Repr

structure IoError where
  kind : IoErrorKind
  message : String
  deriving DecidableEq, Repr

/-- The socket, the terminal, the predictor and the logger of the client, as far as the loop
calls them. -/
structure Host (State : Type) where
  send : State → Bytes → Except IoError Unit × State
  writeServerBytes : State → Bytes → Except IoError Unit × State
  writeOverlayBytes : State → Bytes → Except IoError Unit × State
  redrawAuthoritative : State → Except IoError Unit × State
  takeReconciliation : State → Predict.PredictionReconciliation × State
  acknowledge : State → UInt64 → State
  writeEvent : State → DiagnosticEvent → State

section Actions

variable {State : Type} (host : Host State) (language : String)

/-- `map_err(|error| format!("{}: {error}", text(message)))`. -/
def mapIoError (message : Text) (called : Except IoError Unit × State) :
    Except String Unit × State :=
  (called.1.mapError fun error => withCause language message error.message, called.2)

def reconcilePrediction (state : State) : Except String Unit × State :=
  match host.takeReconciliation state with
  | (.none, state) => (.ok (), state)
  | (.local bytes, state) =>
      mapIoError language .terminalWriteFailed (host.writeOverlayBytes state bytes)
  | (.redraw, state) => mapIoError language .terminalWriteFailed (host.redrawAuthoritative state)

def applyAction (state : State) : SessionAction → Except String Unit × State
  | .sendDatagram packet => mapIoError language .sendFailed (host.send state packet)
  | .writeTerminal bytes =>
      match reconcilePrediction host language state with
      | (.error message, state) => (.error message, state)
      | (.ok (), state) =>
          mapIoError language .terminalWriteFailed (host.writeServerBytes state bytes)
  | .acknowledgePrediction value => (.ok (), host.acknowledge state value)
  | .diagnostic event => (.ok (), host.writeEvent state event)
  | .remoteStateAdvanced _ | .resizeTerminal _ _ | .connectionStateChanged _
  | .roundTripEstimate _ | .capabilitiesChanged _ | .remoteSessionControl _ _
  | .sessionLifecycleChanged _ | .udpBindingChanged _ | .shutdownComplete _ => (.ok (), state)

/-- What `apply_actions` returns, the actions it came to and the host it leaves. -/
structure Application (State : Type) where
  result : Except String Unit
  applied : List SessionAction
  state : State

def applyActions (state : State) : List SessionAction → Application State
  | [] => { result := .ok (), applied := [], state }
  | action :: rest =>
      match applyAction host language state action with
      | (.error message, state) => { result := .error message, applied := [action], state }
      | (.ok (), state) =>
          let later := applyActions state rest
          { later with applied := action :: later.applied }

/-- An action that the loop comes to counts as applied, also when the host fails on it. -/
theorem apply_actions_applied {state : State} {actions : List SessionAction}
    (none : (applyActions host language state actions).applied = []) : actions = [] := by
  cases actions with
  | nil => rfl
  | cons action rest =>
      rw [applyActions] at none
      split at none
      · cases none
      · cases none

end Actions

/-- What a received payload leads to: a result, the actions that were applied, the runtime and
the host. -/
structure Drained (terminal : Terminal) (State Value : Type) where
  result : Except String Value
  applied : List SessionAction
  runtime : SessionRuntime terminal
  state : State

section Loop

variable {State : Type} (lib : Libraries) (host : Host State) (language : String)
  (now : MonotonicTime)

/-- A payload that does not fit the receive buffer is cut off. -/
def receivePayload (runtime : SessionRuntime lib.terminal) (payload : Bytes) :
    Except RuntimeError (List SessionAction) × SessionRuntime lib.terminal :=
  runtime.receiveDatagram lib (payload.take RECEIVE_BUFFER_BYTES) now

/-- The loop's body behind a payload that `recv` returned. -/
def drainPayload (runtime : SessionRuntime lib.terminal) (state : State) (payload : Bytes) :
    Drained lib.terminal State Unit :=
  match receivePayload lib now runtime payload with
  | (.error error, runtime) =>
      { result := .error (formatRuntimeError language error), applied := [], runtime, state }
  | (.ok actions, runtime) =>
      let application := applyActions host language state actions
      { result := application.result, applied := application.applied, runtime,
        state := application.state }

/-- The loop's exit on an error of `recv`. -/
def receiveResult (receivedServerState : Bool) (error : IoError) : Except String Bool :=
  if error.kind = .wouldBlock then .ok false
  else if error.kind = .connectionRefused ∧ receivedServerState then .ok true
  else .error (withCause language .receiveFailed error.message)

/-- `recv` returns the payloads in turn and then the error. -/
def drainNetwork (ending : IoError) (runtime : SessionRuntime lib.terminal) (state : State) :
    List Bytes → Drained lib.terminal State Bool
  | [] =>
      { result := receiveResult language runtime.receivedServerState ending, applied := [], runtime,
        state }
  | payload :: rest =>
      let drained := drainPayload lib host language now runtime state payload
      match drained.result with
      | .error message => { drained with result := .error message }
      | .ok () =>
          let later := drainNetwork ending drained.runtime drained.state rest
          { later with applied := drained.applied ++ later.applied }

end Loop

/-- A payload of the session, or an additional one. -/
abbrev Arrival := Bytes ⊕ Bytes

def arrivalPayload : Arrival → Bytes
  | .inl own => own
  | .inr additional => additional

def ownPayloads (arrivals : List Arrival) : List Bytes := arrivals.filterMap Sum.getLeft?

section Insertion

variable {State : Type} (lib : Libraries) (host : Host State) (language : String)
  (now : MonotonicTime)

/-- Each additional payload that the loop can come to is one that the session rejects where it
arrives. -/
def AdditionsRejected (runtime : SessionRuntime lib.terminal) (state : State) :
    List Arrival → Prop
  | [] => True
  | .inl own :: rest =>
      let drained := drainPayload lib host language now runtime state own
      match drained.result with
      | .error _ => True
      | .ok () => AdditionsRejected drained.runtime drained.state rest
  | .inr additional :: rest =>
      runtime.protocol.rejects lib (additional.take RECEIVE_BUFFER_BYTES) = true ∧
        AdditionsRejected runtime state rest

/-- The payloads bring no actions until the session refuses one of them with this message. -/
def RefusedNext (message : String) (runtime : SessionRuntime lib.terminal) : List Bytes → Prop
  | [] => False
  | payload :: rest =>
      match receivePayload lib now runtime payload with
      | (.error error, _) => formatRuntimeError language error = message
      | (.ok actions, runtime) => actions = [] ∧ RefusedNext message runtime rest

/-- The loop ends before it comes to an additional payload, or what the session refuses next of
its own hides the first one. -/
def Hidden (runtime : SessionRuntime lib.terminal) (state : State) : List Arrival → Prop
  | [] => True
  | .inl own :: rest =>
      let drained := drainPayload lib host language now runtime state own
      match drained.result with
      | .error _ => True
      | .ok () => Hidden drained.runtime drained.state rest
  | .inr additional :: rest =>
      match receivePayload lib now runtime additional with
      | (.error error, _) =>
          RefusedNext lib language now (formatRuntimeError language error) runtime (ownPayloads rest)
      | (.ok _, _) => False

instance decidableAdditionsRejected (runtime : SessionRuntime lib.terminal) (state : State) :
    (arrivals : List Arrival) →
      Decidable (AdditionsRejected lib host language now runtime state arrivals)
  | [] => .isTrue trivial
  | .inl own :: rest =>
      match result : (drainPayload lib host language now runtime state own).result with
      | .error _ => .isTrue (by simp only [AdditionsRejected, result])
      | .ok () =>
          have := decidableAdditionsRejected
            (drainPayload lib host language now runtime state own).runtime
            (drainPayload lib host language now runtime state own).state rest
          decidable_of_iff _ (by simp only [AdditionsRejected, result]; rfl)
  | .inr _ :: rest =>
      have := decidableAdditionsRejected runtime state rest
      inferInstanceAs (Decidable (_ = true ∧ _))

instance decidableRefusedNext (message : String) (runtime : SessionRuntime lib.terminal) :
    (payloads : List Bytes) → Decidable (RefusedNext lib language now message runtime payloads)
  | [] => .isFalse id
  | payload :: rest =>
      match received : receivePayload lib now runtime payload with
      | (.error error, _) =>
          decidable_of_iff (formatRuntimeError language error = message)
            (by simp only [RefusedNext, received])
      | (.ok actions, next) =>
          have := decidableRefusedNext message next rest
          decidable_of_iff (actions = [] ∧ RefusedNext lib language now message next rest)
            (by simp only [RefusedNext, received])

instance decidableHidden (runtime : SessionRuntime lib.terminal) (state : State) :
    (arrivals : List Arrival) → Decidable (Hidden lib host language now runtime state arrivals)
  | [] => .isTrue trivial
  | .inl own :: rest =>
      match result : (drainPayload lib host language now runtime state own).result with
      | .error _ => .isTrue (by simp only [Hidden, result])
      | .ok () =>
          have := decidableHidden (drainPayload lib host language now runtime state own).runtime
            (drainPayload lib host language now runtime state own).state rest
          decidable_of_iff _ (by simp only [Hidden, result]; rfl)
  | .inr additional :: rest =>
      match received : receivePayload lib now runtime additional with
      | (.error error, _) =>
          decidable_of_iff (RefusedNext lib language now (formatRuntimeError language error) runtime
            (ownPayloads rest)) (by simp only [Hidden, received])
      | (.ok _, _) => .isFalse (by simp only [Hidden, received, not_false_eq_true])

/-- The additional payloads change neither the result of the loop nor the applied actions. -/
def Unaffected (ending : IoError) (runtime : SessionRuntime lib.terminal) (state : State)
    (arrivals : List Arrival) : Prop :=
  let actual :=
    drainNetwork lib host language now ending runtime state (arrivals.map arrivalPayload)
  let expected := drainNetwork lib host language now ending runtime state (ownPayloads arrivals)
  actual.result = expected.result ∧ actual.applied = expected.applied

end Insertion

section Loop

variable {State : Type} {lib : Libraries} (host : Host State) (language : String)
  (now : MonotonicTime) {runtime : SessionRuntime lib.terminal} (state : State)

theorem drain_payload_rejected {payload : Bytes}
    (rejected : runtime.protocol.rejects lib (payload.take RECEIVE_BUFFER_BYTES) = true) :
    ∃ error, receivePayload lib now runtime payload = (.error error, runtime) ∧
      drainPayload lib host language now runtime state payload =
        { result := .error (formatRuntimeError language error), applied := [], runtime, state } := by
  rcases SessionRuntime.receive_datagram_rejected rejected now with ⟨error, received⟩
  have payloadReceived : receivePayload lib now runtime payload = (.error error, runtime) := received
  refine ⟨error, payloadReceived, ?_⟩
  rw [drainPayload, payloadReceived]

/-- The loop ends with the message of a refused payload, and nothing applied, exactly where the
payloads lead to that message. -/
theorem drain_network_refused_iff (ending : IoError) (error : RuntimeError)
    (payloads : List Bytes) :
    ((drainNetwork lib host language now ending runtime state payloads).result =
          .error (formatRuntimeError language error) ∧
        (drainNetwork lib host language now ending runtime state payloads).applied = []) ↔
      RefusedNext lib language now (formatRuntimeError language error) runtime payloads := by
  induction payloads generalizing runtime state with
  | nil =>
      constructor
      · rintro ⟨result, -⟩
        rw [drainNetwork] at result
        dsimp only [receiveResult] at result
        split_ifs at result
        exact receive_failed_ne_runtime_error language _ error (Except.error.inj result)
      · exact False.elim
  | cons payload rest induction =>
      rw [drainNetwork, RefusedNext, drainPayload]
      rcases received : receivePayload lib now runtime payload with ⟨outcome, next⟩
      cases outcome with
      | error refusal =>
          constructor
          · rintro ⟨result, -⟩
            exact Except.error.inj result
          · intro same
            exact ⟨congrArg Except.error same, rfl⟩
      | ok actions =>
          dsimp only
          cases applied : (applyActions host language state actions).result with
          | error message =>
              constructor
              · rintro ⟨-, nothing⟩
                have empty := apply_actions_applied host language nothing
                rw [empty] at applied
                cases applied
              · rintro ⟨empty, -⟩
                rw [empty] at applied
                cases applied
          | ok finished =>
              constructor
              · rintro ⟨result, nothing⟩
                have parts := List.append_eq_nil_iff.mp nothing
                have empty := apply_actions_applied host language parts.1
                refine ⟨empty, ?_⟩
                exact (induction _).mp ⟨result, parts.2⟩
              · rintro ⟨empty, later⟩
                rcases (induction _).mpr later with ⟨result, nothing⟩
                have first : (applyActions host language state actions).applied = [] := by
                  rw [empty]
                  rfl
                exact ⟨result, List.append_eq_nil_iff.mpr ⟨first, nothing⟩⟩

end Loop

/-- Additional payloads that the session rejects leave the result and the applied actions of the
receive loop alone exactly where they are hidden. -/
theorem additional_payloads_unaffected_iff {State : Type} (lib : Libraries) (host : Host State)
    (language : String) (now : MonotonicTime) (ending : IoError)
    (runtime : SessionRuntime lib.terminal) (state : State) (arrivals : List Arrival)
    (rejected : AdditionsRejected lib host language now runtime state arrivals) :
    Unaffected lib host language now ending runtime state arrivals ↔
      Hidden lib host language now runtime state arrivals := by
  induction arrivals generalizing runtime state with
  | nil =>
      rw [Hidden]
      exact iff_true_intro ⟨rfl, rfl⟩
  | cons arrival rest induction =>
      cases arrival with
      | inl own =>
          rw [AdditionsRejected] at rejected
          change (_ = _ ∧ _ = _) ↔ _
          rw [Hidden]
          simp only [List.map_cons, arrivalPayload, ownPayloads, List.filterMap_cons,
            Sum.getLeft?_inl, drainNetwork]
          cases result : (drainPayload lib host language now runtime state own).result with
          | error message => exact iff_true_intro ⟨rfl, rfl⟩
          | ok finished =>
              rw [result] at rejected
              have later := induction _ _ rejected
              dsimp only
              rw [List.append_cancel_left_eq]
              exact later
      | inr additional =>
          rw [AdditionsRejected] at rejected
          rcases drain_payload_rejected host language now state rejected.1 with
            ⟨error, received, drained⟩
          change (_ = _ ∧ _ = _) ↔ _
          rw [Hidden, received]
          simp only [List.map_cons, arrivalPayload, ownPayloads, List.filterMap_cons,
            Sum.getLeft?_inr, drainNetwork, drained]
          rw [← drain_network_refused_iff host language now state ending]
          constructor
          · rintro ⟨result, applied⟩
            exact ⟨result.symm, applied.symm⟩
          · rintro ⟨result, applied⟩
            exact ⟨result.symm, applied.symm⟩

/-- A host on which every call succeeds and nothing is predicted. -/
def quietHost : Host Unit where
  send state _ := (.ok (), state)
  writeServerBytes state _ := (.ok (), state)
  writeOverlayBytes state _ := (.ok (), state)
  redrawAuthoritative state := (.ok (), state)
  takeReconciliation state := (.none, state)
  acknowledge state _ := state
  writeEvent state _ := state

def noPayloadLeft : IoError where
  kind := .wouldBlock
  message := "Resource temporarily unavailable (os error 11)"

def clientRuntime : SessionRuntime plainLibraries.terminal :=
  .new plainLibraries.terminal zeroKey ⟨0⟩

/-- A server state whose packet arrives a second time. -/
def duplicatedArrivals : List Arrival :=
  let packets := plainPackets [hostBytesUpdate 0 1 [0x61]]
  packets.map .inl ++ packets.map .inr

/-- The duplicate is one that the session has to reject, and it ends the client. -/
theorem duplicate_ends_client :
    clientRuntime.lifecycle = .running ∧
      AdditionsRejected plainLibraries quietHost "en_US.UTF-8" ⟨5⟩ clientRuntime ()
        duplicatedArrivals ∧
      (drainNetwork plainLibraries quietHost "en_US.UTF-8" ⟨5⟩ noPayloadLeft clientRuntime ()
          (duplicatedArrivals.map arrivalPayload)).result =
        .error "protocol operation failed: session protocol failed: ReplayDetected" ∧
      (drainNetwork plainLibraries quietHost "en_US.UTF-8" ⟨5⟩ noPayloadLeft clientRuntime ()
          (ownPayloads duplicatedArrivals)).result = .ok false := by
  decide +kernel

/-- The session's own packet arrives twice as well, behind the additional copy of it. -/
def hiddenArrivals : List Arrival :=
  duplicatedArrivals ++ (plainPackets [hostBytesUpdate 0 1 [0x61]]).map .inl

theorem hidden_duplicate_unaffected :
    Unaffected plainLibraries quietHost "zh_CN.UTF-8" ⟨5⟩ noPayloadLeft clientRuntime ()
      hiddenArrivals := by
  have rejected : AdditionsRejected plainLibraries quietHost "zh_CN.UTF-8" ⟨5⟩ clientRuntime ()
      hiddenArrivals := by decide +kernel
  apply (additional_payloads_unaffected_iff plainLibraries quietHost "zh_CN.UTF-8" ⟨5⟩
    noPayloadLeft clientRuntime () hiddenArrivals rejected).mpr
  decide +kernel

end FerrumTty.Client
