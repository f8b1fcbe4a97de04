import FerrumTty.Runtime.Drives
import FerrumTty.Runtime.Polls
import FerrumTty.Session.Transport

/-!
# The peer's shutdown

A poll that answers the peer's shutdown acknowledges the newest remote state, which is the
shutdown state only if that state was accepted.
-/

namespace FerrumTty.Runtime

set_option autoImplicit false

open Crypto Wire State Session Runs

namespace SessionRuntime

variable {lib : Libraries}

def Acknowledges (lib : Libraries) (key : SessionKey) (state : UInt64) (packets : List Bytes) : Prop :=
  ∃ update batch, ClientProtocol.Carries lib key packets update batch ∧
    update.acknowledgedState = state

/-- Before the peer's shutdown is reported complete, the action list sends an update that
acknowledges the shutdown state. -/
def AcknowledgedFirst (lib : Libraries) (key : SessionKey) (actions : List SessionAction) : Prop :=
  ∀ earlier later, actions = earlier ++ .shutdownComplete .peerRequested :: later →
    ∃ packets ∈ messages earlier, Acknowledges lib key MAXIMUM_STATE packets

/-- What the association does to the timer of the send that follows it. -/
def associated {terminal : Terminal} (runtime : SessionRuntime terminal) (now : MonotonicTime) :
    SessionRuntime terminal :=
  if runtime.association = .due then { runtime with lastSend := some now } else runtime

/-- A poll in this state answers the peer's shutdown, unless it fails. -/
def answersPeerAt {terminal : Terminal} (runtime : SessionRuntime terminal) (now : MonotonicTime) :
    Bool :=
  runtime.lifecycle = .running && !runtime.shutdownIsComplete &&
    runtime.peerShutdownAcknowledgementDue && (runtime.associated now).sendsAt now

theorem Acknowledges.unique (lawful : LawfulCodec lib.codec) {key : SessionKey} {left right : UInt64}
    {packets : List Bytes} (first : Acknowledges lib key left packets)
    (second : Acknowledges lib key right packets) : left = right := by
  obtain ⟨update, batch, carries, acknowledged⟩ := first
  obtain ⟨other, otherBatch, otherCarries, otherAcknowledged⟩ := second
  rw [← acknowledged, ← otherAcknowledged, (carries.unique lawful otherCarries).1]

theorem split_after {Item : Type} {item : Item} {left right earlier later : List Item}
    (absent : item ∉ left) (split : left ++ right = earlier ++ item :: later) :
    ∃ rest, earlier = left ++ rest := by
  rcases List.append_eq_append_iff.mp split with ⟨rest, same, _⟩ | ⟨rest, same, tail⟩
  · exact ⟨rest, same⟩
  · cases rest with
    | nil => exact ⟨[], by rw [same]; simp⟩
    | cons head others =>
        rw [List.cons_append, List.cons.injEq] at tail
        apply absurd _ absent
        rw [same, tail.1]
        simp

section Poll

variable {key : SessionKey} {runtime middle after : SessionRuntime lib.terminal} {now : MonotonicTime}

theorem AssociationOutcome.acknowledges (lawful : LawfulAead lib.aead) {opening : List SessionAction}
    (seals : ClientProtocol.SealsWith key runtime.protocol)
    (association : AssociationOutcome lib runtime now (.ok opening, middle)) :
    (∀ packets ∈ messages opening, Acknowledges lib key runtime.protocol.latestRemoteState packets) ∧
      (∀ rest, messages (opening ++ rest) = messages opening ++ messages rest) ∧
      (∀ outcome, SessionAction.shutdownComplete outcome ∉ opening) := by
  cases association with
  | kept opened =>
      refine ⟨?_, fun _ => rfl, fun _ => List.not_mem_nil⟩
      intro packets member
      cases member
  | opened packets protocol event due performed =>
      obtain ⟨update, batch, carries, acknowledged⟩ := ClientProtocol.perform_message lawful seals
        (congrArg Prod.fst performed)
      obtain ⟨packet, others, listed⟩ := carries.nonempty
      have apart : ∀ rest, messages (sendActions packets ++ [.diagnostic event] ++ rest) =
          [packets] ++ messages rest := by
        intro rest
        rw [List.append_assoc, listed]
        exact messages_send packet others event rest
      have alone := apart []
      rw [List.append_nil] at alone
      rw [alone]
      refine ⟨?_, apart, ?_⟩
      · intro group member
        rw [List.mem_singleton.mp member]
        exact ⟨update, batch, carries, acknowledged⟩
      · intro outcome member
        simp [sendActions] at member

theorem AssociationOutcome.messages_apart (lawful : LawfulAead lib.aead) {opening : List SessionAction}
    (seals : ClientProtocol.SealsWith key runtime.protocol)
    (association : AssociationOutcome lib runtime now (.ok opening, middle)) (sent : List SessionAction) :
    messages (opening ++ (middle.connectionStateAction now).1.toList.flatMap connectionActions ++ sent) =
      messages opening ++ messages sent := by
  rw [List.append_assoc, (association.acknowledges lawful seals).2.1,
    messages_silent_append (connection_notes_plain middle now).silent]

theorem AssociationOutcome.seals (lawful : LawfulAead lib.aead) {opening : List SessionAction}
    (seals : ClientProtocol.SealsWith key runtime.protocol)
    (association : AssociationOutcome lib runtime now (.ok opening, middle)) :
    ClientProtocol.SealsWith key middle.protocol := by
  cases association with
  | kept opened => exact seals
  | opened packets protocol event due performed =>
      have kept := seals.perform lawful (.buildAssociation (timestamp now))
      rw [performed] at kept
      exact kept

theorem AssociationOutcome.seals_reached (lawful : LawfulAead lib.aead) {opening : List SessionAction}
    (seals : ClientProtocol.SealsWith key runtime.protocol)
    (association : AssociationOutcome lib runtime now (.ok opening, middle)) :
    ClientProtocol.SealsWith key (middle.connectionStateAction now).2.protocol := by
  have kept : ClientProtocol.SealsWith key middle.protocol := association.seals lawful seals
  obtain ⟨state, noted⟩ := connection_frame middle now
  rw [noted]
  exact kept

theorem AssociationOutcome.middle_fields {opening : List SessionAction}
    (association : AssociationOutcome lib runtime now (.ok opening, middle)) :
    middle.peerShutdownAcknowledgementDue = runtime.peerShutdownAcknowledgementDue ∧
      middle.protocol.latestRemoteState = runtime.protocol.latestRemoteState ∧
      middle.sendsAt now = (runtime.associated now).sendsAt now := by
  cases association with
  | kept opened => exact ⟨rfl, rfl, by rw [associated, if_neg opened]⟩
  | opened packets protocol event due performed =>
      obtain ⟨channel, same⟩ := ClientProtocol.perform_keeps rfl performed
      rw [same, associated, if_pos due]
      exact ⟨rfl, rfl, rfl⟩

theorem connection_fields {terminal : Terminal} (runtime : SessionRuntime terminal)
    (now : MonotonicTime) :
    (runtime.connectionStateAction now).2.sendsAt now = runtime.sendsAt now ∧
      (runtime.connectionStateAction now).2.peerCompletion = runtime.peerCompletion ∧
      (runtime.connectionStateAction now).2.protocol = runtime.protocol := by
  obtain ⟨state, noted⟩ := connection_frame runtime now
  rw [noted]
  exact ⟨rfl, rfl, rfl⟩

theorem connection_actions_incomplete {terminal : Terminal} (runtime : SessionRuntime terminal)
    (now : MonotonicTime) (outcome : ShutdownOutcome) :
    .shutdownComplete outcome ∉
      (runtime.connectionStateAction now).1.toList.flatMap connectionActions := by
  intro member
  have never := (connection_notes_plain runtime now _ member).2
  cases never

/-- What a successful poll does about the peer's shutdown. -/
inductive PeerReport (lib : Libraries) (key : SessionKey) (runtime : SessionRuntime lib.terminal)
    (now : MonotonicTime) (actions : List SessionAction) : Prop
  | silent (quiet : runtime.answersPeerAt now = false)
      (absent : .shutdownComplete .peerRequested ∉ actions)
  | answered (answers : runtime.answersPeerAt now = true) (left : List SessionAction)
      (reported : actions = left ++
        [.shutdownComplete .peerRequested, .diagnostic (.shutdownComplete .peerRequested)])
      (absent : .shutdownComplete .peerRequested ∉ left)
      (acknowledge : ∀ packets ∈ messages left,
        Acknowledges lib key runtime.protocol.latestRemoteState packets)
      (sent : ∃ packets, (∀ rest, packets ∈ messages (left ++ rest)) ∧
        Acknowledges lib key runtime.protocol.latestRemoteState packets)

theorem poll_peer_report (lawful : LawfulAead lib.aead) {actions : List SessionAction}
    (seals : ClientProtocol.SealsWith key runtime.protocol)
    (polled : PollOutcome lib runtime now (.ok actions, after)) :
    PeerReport lib key runtime now actions := by
  cases polled with
  | idle stopped =>
      refine .silent ?_ List.not_mem_nil
      rcases stopped with paused | complete
      · simp [answersPeerAt, paused]
      · simp [answersPeerAt, complete]
  | ended opening middle outcome _ _ association ends =>
      obtain ⟨due, _, _⟩ := association.middle_fields
      have ours : outcome ≠ .peerRequested := by
        intro peers
        rcases (ends_cases _ ends).2 with ⟨acknowledged, _⟩ | ⟨timedOut, _⟩
        · rw [peers] at acknowledged
          cases acknowledged
        · rw [peers] at timedOut
          cases timedOut
      have answered := (ends_cases _ ends).1
      apply PeerReport.silent
      · simp [answersPeerAt, ← due, answered]
      · simpa using Ne.symm ours
  | went opening sent middle after running incomplete association _ sending =>
      obtain ⟨due, latest, sends⟩ := association.middle_fields
      obtain ⟨acknowledges, _, unended⟩ := association.acknowledges lawful seals
      obtain ⟨sameSends, sameCompletion, sameProtocol⟩ := connection_fields middle now
      have answers : runtime.answersPeerAt now =
          (runtime.peerShutdownAcknowledgementDue && middle.sendsAt now) := by
        simp [answersPeerAt, running, incomplete, sends]
      have connection := connection_actions_incomplete middle now .peerRequested
      cases sending with
      | waited waits =>
          apply PeerReport.silent
          · rw [answers, ← sameSends, waits, Bool.and_false]
          · simp only [List.append_nil, List.mem_append, not_or]
            exact ⟨unended _, connection⟩
      | sent operation queue packets event _ sendsNow choice performed =>
          have sealsMiddle := association.seals_reached lawful seals
          obtain ⟨update, batch, carries, acknowledged⟩ := ClientProtocol.perform_message lawful
            sealsMiddle (congrArg Prod.fst performed)
          rw [sameProtocol, latest] at acknowledged
          obtain ⟨packet, others, listed⟩ := carries.nonempty
          have here : Acknowledges lib key runtime.protocol.latestRemoteState packets :=
            ⟨update, batch, carries, acknowledged⟩
          have grouped : ∀ rest, messages (opening ++
              (middle.connectionStateAction now).1.toList.flatMap connectionActions ++
              (sendActions packets ++ [.diagnostic event]) ++ rest) =
                messages opening ++ packets :: messages rest := by
            intro rest
            rw [List.append_assoc, association.messages_apart lawful seals, List.append_assoc, listed]
            rw [List.cons_append, List.nil_append, messages_send]
          rw [sameCompletion]
          cases waiting : runtime.peerShutdownAcknowledgementDue with
          | false =>
              rw [waiting] at due answers
              apply PeerReport.silent
              · rw [answers, Bool.false_and]
              · simp only [peerCompletion, due, Bool.false_eq_true, if_false, List.mem_append, not_or]
                exact ⟨⟨unended _, connection⟩, by simp [sendActions]⟩
          | true =>
              rw [waiting] at due answers
              apply PeerReport.answered _ (opening ++
                (middle.connectionStateAction now).1.toList.flatMap connectionActions ++
                (sendActions packets ++ [.diagnostic event]))
              · simp [peerCompletion, due]
              · simp only [List.mem_append, not_or]
                exact ⟨⟨unended _, connection⟩, by simp [sendActions]⟩
              · intro group member
                have all := grouped []
                rw [List.append_nil] at all
                rw [all] at member
                rcases List.mem_append.mp member with early | late
                · exact acknowledges group early
                · rw [List.mem_singleton.mp late]
                  exact here
              · refine ⟨packets, ?_, here⟩
                intro rest
                rw [grouped rest]
                simp
              · rw [answers, ← sameSends, sendsNow]
                rfl

/-- A successful poll acknowledges the shutdown state first exactly if, when it answers the peer's
shutdown, the shutdown state is the newest remote state. -/
theorem PeerReport.acknowledged_iff (lawful : LawfulCodec lib.codec) {actions : List SessionAction}
    (report : PeerReport lib key runtime now actions) :
    AcknowledgedFirst lib key actions ↔
      (runtime.answersPeerAt now = true → runtime.protocol.latestRemoteState = MAXIMUM_STATE) := by
  cases report with
  | silent quiet absent =>
      constructor
      · intro _ answers
        rw [quiet] at answers
        cases answers
      · intro _ earlier later split
        apply absurd _ absent
        rw [split]
        simp
  | answered answers left reported absent acknowledge sent =>
      constructor
      · intro acknowledgedFirst _
        obtain ⟨packets, member, last⟩ := acknowledgedFirst left _ reported
        exact (acknowledge packets member).unique lawful last
      · intro accepted earlier later split
        obtain ⟨packets, everywhere, acknowledges⟩ := sent
        rw [reported] at split
        obtain ⟨rest, same⟩ := split_after absent split
        rw [accepted answers] at acknowledges
        exact ⟨packets, same ▸ everywhere rest, acknowledges⟩

end Poll

/-- Whenever a poll of the run reports the peer's shutdown complete, it has acknowledged it. -/
def PeerShutdownsAcknowledged (lib : Libraries) (key : SessionKey) (events : List (RuntimeStep lib)) :
    Prop :=
  ∀ event ∈ events, event.input.isPoll = true → AcknowledgedFirst lib key event.output.actions

/-- Whenever a poll of the run answers the peer's shutdown, the shutdown state was accepted. -/
def PeerShutdownsAccepted {lib : Libraries} (events : List (RuntimeStep lib)) : Prop :=
  ∀ event ∈ events, ∀ now ∈ event.input.pollTime, event.before.answersPeerAt now = true →
    event.before.protocol.latestRemoteState = MAXIMUM_STATE

instance {lib : Libraries} (events : List (RuntimeStep lib)) :
    Decidable (PeerShutdownsAccepted events) :=
  inferInstanceAs (Decidable (∀ _ ∈ _, _))

theorem event_report (lawful : LawfulAead lib.aead) {key : SessionKey} {start : MonotonicTime}
    {operations : List SessionOperation} {event : RuntimeStep lib}
    (member : event ∈ trace (perform lib) (new lib.terminal key start) operations)
    {now : MonotonicTime} (polls : event.input = .poll now) (fine : event.output.isError = false) :
    PeerReport lib key event.before now event.output.actions := by
  have seals := seals_with_run lawful member
  obtain ⟨actions, output, polled⟩ := event_poll member polls fine
  rw [output]
  exact poll_peer_report lawful seals polled

theorem error_without_actions {output : SessionOutput} (failed : output.isError = true) :
    output.actions = [] := by
  cases output with
  | queued result => rfl
  | nothing => rfl
  | acted result =>
      cases result with
      | ok actions => cases failed
      | error error => rfl

theorem acknowledged_of_accepted (lawful : LawfulLibraries lib) {key : SessionKey}
    {start : MonotonicTime} {operations : List SessionOperation}
    (accepted : PeerShutdownsAccepted (trace (perform lib) (new lib.terminal key start) operations)) :
    PeerShutdownsAcknowledged lib key
      (trace (perform lib) (new lib.terminal key start) operations) := by
  intro event member isPoll
  cases fine : event.output.isError with
  | true =>
      rw [error_without_actions fine]
      intro earlier later split
      simp at split
  | false =>
      cases polls : event.input with
      | poll now =>
          apply ((event_report lawful.aead member polls fine).acknowledged_iff lawful.codec).mpr
          apply accepted event member now
          rw [polls]
          rfl
      | _ => rw [polls] at isPoll; cases isPoll

theorem accepted_of_acknowledged (lawful : LawfulLibraries lib) {key : SessionKey}
    {start : MonotonicTime} {operations : List SessionOperation}
    (succeed : PollsSucceed (trace (perform lib) (new lib.terminal key start) operations))
    (acknowledged : PeerShutdownsAcknowledged lib key
      (trace (perform lib) (new lib.terminal key start) operations)) :
    PeerShutdownsAccepted (trace (perform lib) (new lib.terminal key start) operations) := by
  intro event member now polled
  cases polls : event.input with
  | poll time =>
      rw [polls] at polled
      cases polled
      have isPoll : event.input.isPoll = true := by
        rw [polls]
        rfl
      exact ((event_report lawful.aead member polls (succeed event member isPoll)).acknowledged_iff
        lawful.codec).mp (acknowledged event member isPoll)
  | _ => rw [polls] at polled; cases polled

/-- Peer shutdowns are acknowledged before they are reported complete in every run in which the
polls that answer them find the shutdown state accepted; among the runs without a failing poll,
in no other one. -/
theorem peer_shutdown_acknowledged_iff (lawful : LawfulLibraries lib) (key : SessionKey)
    (start : MonotonicTime) (operations : List SessionOperation) :
    (PeerShutdownsAccepted (trace (perform lib) (new lib.terminal key start) operations) →
      PeerShutdownsAcknowledged lib key (trace (perform lib) (new lib.terminal key start) operations)) ∧
    (PollsSucceed (trace (perform lib) (new lib.terminal key start) operations) →
      PeerShutdownsAcknowledged lib key (trace (perform lib) (new lib.terminal key start) operations) →
      PeerShutdownsAccepted (trace (perform lib) (new lib.terminal key start) operations)) :=
  ⟨acknowledged_of_accepted lawful, accepted_of_acknowledged lawful⟩

/-- The peer asks for the shutdown on top of a state, and two polls follow. -/
def askedRun (base : UInt64) : List SessionOperation :=
  (plainPackets [hostBytesUpdate base MAXIMUM_STATE []]).map (.receiveDatagram · ⟨0⟩) ++
    [.poll ⟨0⟩, .poll ⟨1000⟩]

theorem accepted_shutdown_acknowledged :
    PeerShutdownsAcknowledged plainLibraries zeroKey
      (trace (perform plainLibraries) (new lineTerminal zeroKey ⟨0⟩) (askedRun 0)) :=
  (peer_shutdown_acknowledged_iff lawful_plain_libraries zeroKey ⟨0⟩
    (askedRun 0)).1 (by decide +kernel)

/-- State 5 was never received, so the shutdown state on top of it is not accepted. -/
theorem unaccepted_shutdown_completed :
    ¬ PeerShutdownsAcknowledged plainLibraries zeroKey
      (trace (perform plainLibraries) (new lineTerminal zeroKey ⟨0⟩) (askedRun 5)) := by
  intro acknowledged
  have accepted := accepted_of_acknowledged lawful_plain_libraries
    (by decide +kernel) acknowledged
  have refuted : ¬ PeerShutdownsAccepted
      (trace (perform plainLibraries) (new lineTerminal zeroKey ⟨0⟩) (askedRun 5)) := by
    decide +kernel
  exact refuted accepted

end SessionRuntime

end FerrumTty.Runtime
