import FerrumTty.Client.Delivery
import FerrumTty.Session.Numbered

/-!
# The client on the wire

Everything that the event loop hands to its socket is a sealed fragment of bounded size, and no
two of these datagrams share a nonce, whatever the loop is made to send again.
-/

namespace FerrumTty.Client

set_option autoImplicit false

open Crypto Wire State Session Runs FerrumTty.Runtime FerrumTty.Terminal SessionRuntime

def datagramsOf (actions : List SessionAction) : List Bytes := actions.filterMap datagramOf

theorem datagrams_append (first second : List SessionAction) :
    datagramsOf (first ++ second) = datagramsOf first ++ datagramsOf second := List.filterMap_append

theorem sent_datagrams (packets : List Bytes) : datagramsOf (sendActions packets) = packets := by
  induction packets with
  | nil => rfl
  | cons packet rest induction => exact congrArg (packet :: ·) induction

theorem silent_datagrams {actions : List SessionAction} (silent : Silent actions) :
    datagramsOf actions = [] := by
  apply List.filterMap_eq_nil_iff.mpr
  intro action member
  have quiet := silent action member
  cases action with
  | sendDatagram packet => cases quiet
  | _ => rfl

section Calls

variable {lib : Libraries} {key : SessionKey} {count : Nat} {now : MonotonicTime}

/-- The protocol stands further on, and the datagrams are numbered on the way there. -/
def Advances (key : SessionKey) (count : Nat) (protocol : ClientProtocol lib.terminal)
    (datagrams : List Bytes) : Prop :=
  ∃ next, count ≤ next ∧ protocol.StandsAt key next ∧ Numbered lib.aead key count next datagrams

theorem Advances.still {protocol : ClientProtocol lib.terminal} (stands : protocol.StandsAt key count) :
    Advances key count protocol [] :=
  ⟨count, Nat.le_refl count, stands, .empty _ _ _ _⟩

theorem Advances.andThen {middle after : ClientProtocol lib.terminal} {earlier later : List Bytes}
    (first : Advances key count middle earlier)
    (second : ∀ next, middle.StandsAt key next → Advances key next after later) :
    Advances key count after (earlier ++ later) := by
  obtain ⟨next, forward, stands, numbered⟩ := first
  obtain ⟨last, onward, reached, further⟩ := second next stands
  exact ⟨last, Nat.le_trans forward onward, reached, numbered.append further forward onward⟩

theorem performed_advances (lawful : LawfulAead lib.aead) {before after : ClientProtocol lib.terminal}
    (stands : before.StandsAt key count) {operation : ProtocolOperation} {packets : List Bytes}
    (performed : before.perform lib operation = (.packets (.ok packets), after)) :
    Advances key count after packets := by
  obtain ⟨next, forward, reached, numbered⟩ := stands.perform lawful operation
  rw [performed] at reached numbered
  exact ⟨next, forward, reached, numbered packets rfl⟩

theorem Drives.advances (lawful : LawfulAead lib.aead) {before after : ClientProtocol lib.terminal}
    (drives : Drives lib before after) (stands : before.StandsAt key count) :
    Advances key count after [] := by
  obtain ⟨operations, reached⟩ := drives
  rw [reached]
  clear reached
  induction operations generalizing before count with
  | nil => exact .still stands
  | cons operation rest induction =>
      rw [final_cons]
      obtain ⟨next, forward, moved, _⟩ := stands.perform lawful operation
      obtain ⟨last, onward, arrived, numbered⟩ := induction moved
      exact ⟨last, Nat.le_trans forward onward, arrived, numbered.widen forward (Nat.le_refl last)⟩

variable {runtime : SessionRuntime lib.terminal}

theorem association_advances (lawful : LawfulAead lib.aead)
    (stands : runtime.protocol.StandsAt key count) {opening : List SessionAction}
    {middle : SessionRuntime lib.terminal}
    (association : AssociationOutcome lib runtime now (.ok opening, middle)) :
    Advances key count middle.protocol (datagramsOf opening) := by
  cases association with
  | kept opened => exact .still stands
  | opened packets protocol event due performed =>
      rw [datagrams_append, sent_datagrams, silent_datagrams (diagnostic_silent event), List.append_nil]
      exact performed_advances lawful stands performed

theorem send_advances (lawful : LawfulAead lib.aead) (stands : runtime.protocol.StandsAt key count)
    {sent : List SessionAction} {after : SessionRuntime lib.terminal}
    (sending : SendOutcome lib runtime now (.ok sent, after)) :
    Advances key count after.protocol (datagramsOf sent) := by
  cases sending with
  | waited waits => exact .still stands
  | sent operation queue packets event _ sends choice performed queued shutdown answered =>
      have silent : Silent (.diagnostic event :: runtime.peerCompletion) := by
        intro action member
        rcases List.mem_cons.mp member with here | later
        · rw [here]
          rfl
        · unfold peerCompletion at later
          split_ifs at later
          · simp only [List.mem_cons, List.not_mem_nil, or_false] at later
            rcases later with complete | diagnostic
            · rw [complete]
              rfl
            · rw [diagnostic]
              rfl
          · cases later
      rw [datagrams_append, sent_datagrams, silent_datagrams silent, List.append_nil]
      exact performed_advances lawful stands performed

theorem connection_datagrams (runtime : SessionRuntime lib.terminal) (now : MonotonicTime) :
    datagramsOf ((runtime.connectionStateAction now).1.toList.flatMap connectionActions) = [] ∧
      (runtime.connectionStateAction now).2.protocol = runtime.protocol := by
  unfold connectionStateAction
  split_ifs <;> exact ⟨rfl, rfl⟩

theorem poll_advances (lawful : LawfulAead lib.aead) (stands : runtime.protocol.StandsAt key count)
    (now : MonotonicTime) :
    Advances key count (runtime.poll lib now).2.protocol
      (datagramsOf (SessionOutput.acted (runtime.poll lib now).1).actions) := by
  have driven := poll_drives runtime now
  have outcome := @poll_cases lib runtime now
  generalize runtime.poll lib now = polled at outcome driven
  cases outcome with
  | idle stopped => exact .still stands
  | failed error after => exact Drives.advances lawful driven stands
  | ended opening middle outcome running incomplete association ends =>
      obtain ⟨next, forward, reached, _⟩ := association_advances lawful stands association
      exact ⟨next, forward, reached, .empty _ _ _ _⟩
  | went opening sent middle after running incomplete association goesOn sending =>
      obtain ⟨quiet, kept⟩ := connection_datagrams middle now
      rw [SessionOutput.actions, datagrams_append, datagrams_append, quiet, List.append_nil]
      apply (association_advances lawful stands association).andThen
      intro next reached
      exact send_advances lawful (kept ▸ reached) sending

theorem step_advances (lawful : LawfulAead lib.aead) (stands : runtime.protocol.StandsAt key count)
    (operation : SessionOperation) :
    Advances key count (perform lib runtime operation).2.protocol
      (datagramsOf (perform lib runtime operation).1.actions) := by
  have driven := step_drives runtime operation
  rcases step_cases lib runtime operation with ⟨output, after, step, kind⟩
  have performed : perform lib runtime operation = (output, after) :=
    Prod.ext (congrArg Step.output step) (congrArg Step.after step)
  rw [performed] at driven ⊢
  cases kind with
  | poll now => exact poll_advances lawful stands now
  | receive packet now asked plain =>
      rw [silent_datagrams plain.silent]
      exact Drives.advances lawful driven stands
  | request now running opened => exact .still stands
  | host other step =>
      rw [silent_datagrams step.plain.silent]
      exact Drives.advances lawful driven stands

theorem run_advances (lawful : LawfulAead lib.aead) (stands : runtime.protocol.StandsAt key count)
    (operations : List SessionOperation) :
    Advances key count (final (perform lib) runtime operations).protocol
      (datagramsOf (actionsOf (trace (perform lib) runtime operations))) := by
  induction operations generalizing runtime count with
  | nil => exact .still stands
  | cons operation rest induction =>
      rw [final_cons, trace, actionsOf, List.flatMap_cons, datagrams_append]
      apply (step_advances lawful stands operation).andThen
      intro next reached
      exact induction reached

end Calls

namespace EventLoop

variable {lib : Libraries}

/-- What the loop hands to its socket from its start: each datagram opens at the server as a
fragment, none is longer than 1252 bytes, their counters ascend and no nonce is used twice. -/
theorem datagrams_on_the_wire (lawful : LawfulAead lib.aead) (queries : ScreenQueries lib.terminal)
    (language : String) (key : SessionKey) (started : MonotonicTime) (columns rows : UInt16)
    (socket : Socket) (guard : TerminalGuard lib.terminal IoError)
    (predictionDisplay : Predict.PredictionDisplay) (predictionOverwrite : Bool) (escapeByte : UInt8)
    (turns : List Turn) :
    ∃ datagrams,
      (run queries language (start key started columns rows socket guard predictionDisplay
        predictionOverwrite escapeByte) turns).2.host.socket.attempted = socket.attempted ++ datagrams ∧
      datagrams.Pairwise (fun earlier later => wireNumber earlier < wireNumber later) ∧
      (datagrams.map wireNonce).Nodup ∧
      ∀ packet ∈ datagrams, packet.length ≤ 1252 ∧ ∃ fragment,
        ClientProtocol.OpensAs lib.aead (.new .server key) packet fragment ∧
          Fragment.parse fragment.encode = .ok fragment ∧
          fragment.body.length ≤ MAX_FRAGMENT_BODY_BYTES := by
  set begun := start key started columns rows socket guard predictionDisplay predictionOverwrite
    escapeByte with beginning
  obtain ⟨operations, exchange⟩ : Converses (fun _ => True) begun
      (ended (run queries language begun turns)) (typed queries language begun turns) :=
    begun.run_converses queries language fun _ _ _ _ => trivial
  have resized : Drives lib (ClientProtocol.new lib.terminal key) begun.runtime.protocol :=
    (queue_resize_host (SessionRuntime.new lib.terminal key started) columns rows).protocol.drives
  obtain ⟨first, _, stands, _⟩ := Drives.advances lawful resized
    (ClientProtocol.new_stands lib.terminal key)
  obtain ⟨next, _, _, numbered⟩ := run_advances lawful stands operations
  obtain ⟨taken, among, took⟩ := exchange.took
  have part : (taken.filterMap datagramOf).Sublist
      (datagramsOf (actionsOf (trace (perform lib) begun.runtime operations))) :=
    (among.filterMap datagramOf).sublist
  have sent := numbered.sublist part
  refine ⟨taken.filterMap datagramOf, took.sent, sent.ascending.ordered,
    sent.ascending.nodup fun packet other => wire_number_of_nonce, ?_⟩
  intro packet member
  obtain ⟨fragment, datagram, small, short⟩ := sent.shaped packet member
  have fits : fragment.body.length ≤ 1300 := Nat.le_trans short (by decide)
  have parsed := Fragment.parse_encode fragment small fits
  refine ⟨?_, fragment, datagram.opens, parsed, short⟩
  rw [datagram.length, fragment_encode_length fragment]
  have widths : MINIMUM_PACKET_BYTES + FRAGMENT_HEADER_BYTES + MAX_FRAGMENT_BODY_BYTES = 1252 := by decide
  omega

theorem typed_turns_on_the_wire :
    LawfulAead plainLibraries.aead ∧ ∃ datagrams,
      (run lineQueries "en" plainClient typedTurns).2.host.socket.attempted = [] ++ datagrams ∧
      datagrams.Pairwise (fun earlier later => wireNumber earlier < wireNumber later) ∧
      (datagrams.map wireNonce).Nodup ∧
      ∀ packet ∈ datagrams, packet.length ≤ 1252 ∧ ∃ fragment,
        ClientProtocol.OpensAs plainLibraries.aead (.new .server zeroKey) packet fragment ∧
          Fragment.parse fragment.encode = .ok fragment ∧
          fragment.body.length ≤ MAX_FRAGMENT_BODY_BYTES :=
  ⟨lawful_plain_libraries.aead,
    datagrams_on_the_wire lawful_plain_libraries.aead lineQueries "en" zeroKey ⟨0⟩ 80 24 _ _ _ _ _ _⟩

end EventLoop

end FerrumTty.Client
