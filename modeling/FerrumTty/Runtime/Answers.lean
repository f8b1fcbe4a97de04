import FerrumTty.Runtime.BothEnds

/-!
# Two answers

What the session has accepted waits in its queue while a state is in flight. Once the newest state
is acknowledged, everything that was accepted by then leaves with the next state, and the next
acknowledgement of the newest state means that the peer holds it.
-/

namespace FerrumTty.Runtime

set_option autoImplicit false

open Crypto Wire State Session Runs

/-- The later list holds the earlier one, up to a last resize that a newer one has replaced. -/
inductive Follows (earlier later : List Instruction) : Prop
  | grown (whole : earlier <+: later)
  | resized (kept : List Instruction) (older newer : Instruction) (split : earlier = kept ++ [older])
      (replaced : SessionRuntime.isResize older = true) (resize : SessionRuntime.isResize newer = true)
      (whole : kept ++ [newer] <+: later)

theorem Follows.refl (entries : List Instruction) : Follows entries entries := .grown List.prefix_rfl

theorem Follows.grow {earlier later last : List Instruction} (follows : Follows earlier later)
    (further : later <+: last) : Follows earlier last := by
  cases follows with
  | grown whole => exact .grown (whole.trans further)
  | resized kept older newer split replaced resize whole =>
      exact .resized kept older newer split replaced resize (whole.trans further)

theorem Follows.trans {earlier later last : List Instruction} (first : Follows earlier later)
    (second : Follows later last) : Follows earlier last := by
  cases second with
  | grown whole => exact first.grow whole
  | resized kept older newer split replaced resize whole =>
      subst split
      cases first with
      | grown among =>
          rcases List.prefix_concat_iff.mp among with same | within
          · exact .resized kept older newer same replaced resize whole
          · exact .grown ((within.trans (List.prefix_append kept [newer])).trans whole)
      | resized front oldest middle split first _ among =>
          rcases List.prefix_concat_iff.mp among with same | within
          · obtain ⟨sameFront, _⟩ := List.append_inj' same rfl
            exact .resized front oldest newer split first resize (sameFront ▸ whole)
          · have inner : front ++ [middle] <+: last :=
              (within.trans (List.prefix_append kept [newer])).trans whole
            exact .resized front oldest middle split first ‹_› inner

namespace SessionRuntime

variable {lib : Libraries}

section Draining

variable {before middle after : SessionRuntime lib.terminal} {now : MonotonicTime}
  {content : UInt64 → List Instruction} {sent : List Instruction}

theorem queued_send_drains {actions : List SessionAction}
    (polled : before.pollQueued lib now = (.ok actions, after)) : after.queuedInstructions = [] := by
  unfold pollQueued at polled
  cases built : before.buildQueuedUpdate lib now with
  | mk result drained =>
      rw [built] at polled
      cases result with
      | error error => cases polled
      | ok message =>
          obtain ⟨packets, event⟩ := message
          have reached : drained.recordShutdownTransmission.completePeerShutdownAfterAck.2 = after :=
            congrArg Prod.snd polled
          obtain ⟨_, _, sameQueue, _⟩ := completion_cases drained.recordShutdownTransmission
          rw [← reached, sameQueue, (record_transmission_cases drained).2.1]
          exact (build_queued_built built).2.1

theorem settled_send_drains (settled : before.protocol.hasPendingUpdate = false)
    {actions : List SessionAction} (polled : before.pollSend lib now = (.ok actions, after)) :
    after.queuedInstructions = [] := by
  have sending := poll_send_cases before now
  by_cases chosen : before.sendsQueued
  · rw [poll_send_eq, if_pos chosen] at polled
    exact queued_send_drains polled
  · have empty : before.queuedInstructions = [] := by
      unfold sendsQueued at chosen
      rw [settled] at chosen
      cases queue : before.queuedInstructions with
      | nil => rfl
      | cons instruction rest => simp [queue] at chosen
    rw [polled] at sending
    cases sending with
    | waited waits => exact empty
    | sent operation queue packets event _ sends choice performed queued =>
        rw [queued]
        cases choice with
        | acknowledgement _ => exact empty
        | retransmission _ => exact empty
        | update _ _ waiting _ => rfl
        | shutdown _ _ _ => rfl
        | shutdownAck _ _ _ _ => rfl

theorem poll_ok (fine : (stepAt (perform lib) before (.poll now)).output.isError = false) :
    ∃ actions, (stepAt (perform lib) before (.poll now)).output = .acted (.ok actions) ∧
      before.poll lib now = (.ok actions, (stepAt (perform lib) before (.poll now)).after) := by
  cases outcome : before.poll lib now with
  | mk result after =>
      simp only [stepAt, perform, outcome] at fine ⊢
      cases result with
      | error error => cases fine
      | ok actions => exact ⟨actions, rfl, rfl⟩

theorem settled_poll {confirmed : UInt64} (only : before.protocol.sentStates = [⟨confirmed, 0⟩])
    {actions : List SessionAction} (polled : before.poll lib now = (.ok actions, after)) :
    after.queuedInstructions = [] ∨
      after.protocol.sentStates = [⟨confirmed, 0⟩] ∧ messages actions = [] ∧
        (before.lifecycle = .running → after.shutdownIsComplete = true) := by
  cases poll_way polled with
  | idle stopped silent same =>
      subst same
      refine Or.inr ⟨only, by rw [silent]; rfl, fun running => ?_⟩
      rcases stopped with paused | complete
      · exact absurd running paused
      · exact complete
  | ended opening middle outcome opened reported same =>
      subst same
      have association := @poll_association_cases lib before now
      rw [opened] at association
      obtain ⟨channel, protocol⟩ := association.handshake_fields.2.2.1
      refine Or.inr ⟨?_, by rw [reported]; rfl, fun _ => rfl⟩
      change middle.protocol.sentStates = _
      rw [protocol]
      exact only
  | went opening sent middle _ opened _ sending _ =>
      have association := @poll_association_cases lib before now
      rw [opened] at association
      obtain ⟨channel, protocol⟩ := association.handshake_fields.2.2.1
      refine Or.inl (settled_send_drains ?_ sending)
      rw [ClientProtocol.hasPendingUpdate, (connection_handshake_fields middle now).2.2, protocol]
      change decide (1 < before.protocol.sentStates.length) = false
      rw [only]
      rfl

theorem newest_acknowledged_settles {protocol : ClientProtocol lib.terminal}
    (inFlight : protocol.InFlight content sent) :
    (protocol.processAcknowledgement protocol.latestLocalState).sentStates =
      [⟨protocol.latestLocalState, 0⟩] := by
  cases inFlight with
  | settled confirmed states drained all =>
      have latest : protocol.latestLocalState = confirmed := by
        simp [ClientProtocol.latestLocalState, states]
      rw [latest, ClientProtocol.acknowledgement_oldest states, states]
  | waiting confirmed latest states newer grown all =>
      have same : protocol.latestLocalState = latest := by
        simp [ClientProtocol.latestLocalState, states]
      rw [same]
      exact (ClientProtocol.acknowledgement_newest (UInt64.ne_of_lt newer) states).1

theorem acknowledgement_received (inFlight : before.protocol.InFlight content sent)
    {operation : SessionOperation} (answered : ReceivesAcknowledgement
      (stepAt (perform lib) before operation) before.protocol.latestLocalState) :
    (stepAt (perform lib) before operation).after.protocol.sentStates =
      [⟨before.protocol.latestLocalState, 0⟩] ∧
    (stepAt (perform lib) before operation).after.lifecycle = .running ∧
    ∀ log, logStep log (stepAt (perform lib) before operation) = log := by
  obtain ⟨packet, now, update, asked, running, arrived, names⟩ := answered
  change before.lifecycle = .running at running
  have settled : (before.receiveDatagram lib packet now).2.protocol.sentStates =
      [⟨before.protocol.latestLocalState, 0⟩] := by
    rw [receive_datagram_protocol running]
    have arrival := ClientProtocol.ingest_packet_arrival lib before.protocol packet
    change before.protocol.packetUpdate lib packet = some update at arrived
    rw [arrived] at arrival
    cases arrival with
    | update middle _ unmoved accepted acknowledged =>
        rw [acknowledged.states, names]
        exact newest_acknowledged_settles inFlight
  have lifecycle := (receive_datagram_receives lib before packet now).lifecycle.trans running
  rcases asked with plain | lossy
  · change operation = .receiveDatagram packet now at plain
    subst plain
    exact ⟨settled, lifecycle, fun _ => rfl⟩
  · change operation = .receiveDatagramLossy packet now at lossy
    subst lossy
    have same : (stepAt (perform lib) before (.receiveDatagramLossy packet now)).after =
        (before.receiveDatagram lib packet now).2 := receive_datagram_lossy_eq lib before packet now
    rw [same]
    exact ⟨settled, lifecycle, fun _ => rfl⟩

inductive LogChange (log : InputLog) : InputLog → Prop
  | kept : LogChange log log
  | pushed (instruction : Instruction) : LogChange log (log.push instruction)
  | resized (viewport : ViewportSize) : LogChange log (log.resize viewport)
  | drained : LogChange log log.drain

theorem log_step_change (log : InputLog) (event : RuntimeStep lib) :
    LogChange log (logStep log event) := by
  obtain ⟨before, operation, output, after⟩ := event
  have queued (instruction : Instruction) :
      LogChange log (if output.isError then log else log.push instruction) := by
    split_ifs
    · exact .kept
    · exact .pushed instruction
  have resized (columns rows : UInt16) :
      LogChange log (if before.lifecycle = .running ∧ before.shutdown = .open then
        log.resize { columns := columns.toUInt64, rows := rows.toUInt64 } else log) := by
    split_ifs
    · exact .resized _
    · exact .kept
  cases operation with
  | queueInput bytes => exact queued _
  | queueSessionControl kind payload => exact queued _
  | queueResize columns rows => exact resized columns rows
  | queueTerminalEvent event =>
      cases event with
      | bytes bytes => exact queued _
      | resize columns rows => exact resized columns rows
  | poll now =>
      change LogChange log (if after.queuedInstructions.isEmpty then log.drain else log)
      split_ifs
      · exact .drained
      · exact .kept
  | _ => exact .kept

variable {log later : InputLog}

theorem LogChange.keeps_drained (change : LogChange log later) : log.drained <+: later.drained := by
  cases change with
  | kept => exact List.prefix_rfl
  | pushed instruction => exact List.prefix_rfl
  | resized viewport => rw [resize_drained]
  | drained => exact List.prefix_append _ _

theorem LogChange.follows (change : LogChange log later) : Follows log.entries later.entries := by
  cases change with
  | kept => exact .refl _
  | pushed instruction =>
      refine .grown ⟨[instruction], ?_⟩
      rw [InputLog.entries, InputLog.entries, InputLog.push, List.append_assoc]
  | drained =>
      refine .grown ?_
      rw [InputLog.entries, InputLog.entries, InputLog.drain, List.append_nil]
  | resized viewport =>
      unfold InputLog.resize
      split_ifs with replaces
      · obtain ⟨last, newest, resize⟩ := (Option.any_eq_true _ _).mp replaces
        refine .resized (log.drained ++ log.queued.dropLast) last (resizeInstruction viewport) ?_
          resize rfl ?_
        · rw [InputLog.entries, List.append_assoc, List.dropLast_append_getLast? last newest]
        · rw [InputLog.entries, List.append_assoc]
      · refine .grown ⟨[resizeInstruction viewport], ?_⟩
        rw [InputLog.entries, InputLog.entries, InputLog.push, List.append_assoc]

theorem settled_stays {confirmed : UInt64} (only : before.protocol.sentStates = [⟨confirmed, 0⟩])
    {operation : SessionOperation} (other : operation.isPoll = false) :
    (stepAt (perform lib) before operation).after.protocol.sentStates = [⟨confirmed, 0⟩] := by
  rcases step_cases lib before operation with ⟨output, after, outcome, kind⟩
  rw [outcome]
  cases kind with
  | poll now => cases other
  | request now running opened => exact only
  | host _ step => exact step.protocol.sent_states.trans only
  | receive packet now asked plain =>
      rcases (receive_datagram_receives lib before packet now).settles.history with
        same | ⟨acknowledgedState, same⟩
      · exact same.states.trans only
      · refine same.states.trans ?_
        by_cases here : confirmed = acknowledgedState
        · rw [← here, ClientProtocol.acknowledgement_oldest only, only]
        · rw [ClientProtocol.acknowledgement_unknown (by simpa [only] using here), only]

end Draining

end SessionRuntime

namespace BothEnds

variable {lib : Libraries} {key : SessionKey} {ends next : BothEnds lib}
  {content : UInt64 → List Instruction} {confirmed : UInt64} {entries : List Instruction}

theorem step_drained (step : Step key ends next) : ends.log.drained <+: next.log.drained := by
  cases step with
  | call operation kept succeeds honest => exact (SessionRuntime.log_step_change _ _).keeps_drained
  | arrival packets update batch holdings listed carries forgets => exact List.prefix_rfl

theorem steps_drained (steps : Steps key ends next) : ends.log.drained <+: next.log.drained := by
  induction steps with
  | refl => exact List.prefix_rfl
  | tail _ step induction => exact induction.trans (step_drained step)

/-- The entries have left the queue, or they wait in it with nothing in flight before them. -/
inductive NextToLeave (entries : List Instruction) (ends : BothEnds lib) : Prop
  | waits (confirmed : UInt64) (only : ends.runtime.protocol.sentStates = [⟨confirmed, 0⟩])
      (accepted : Follows entries ends.log.entries)
  | left (drained : Follows entries ends.log.drained)

/-- A poll that sends something, or behind which the session goes on. -/
def GoesOn (ends : BothEnds lib) (now : MonotonicTime) : Prop :=
  messages (stepAt (SessionRuntime.perform lib) ends.runtime (.poll now)).output.actions ≠ [] ∨
    ends.runtime.lifecycle = .running ∧ (ends.call (.poll now)).runtime.shutdownIsComplete = false

theorem NextToLeave.poll (next : NextToLeave entries ends) {now : MonotonicTime}
    (succeeds : (stepAt (SessionRuntime.perform lib) ends.runtime (.poll now)).output.isError = false) :
    NextToLeave entries (ends.call (.poll now)) ∧
      (GoesOn ends now → Follows entries (ends.call (.poll now)).log.drained) := by
  have change := SessionRuntime.log_step_change ends.log
    (stepAt (SessionRuntime.perform lib) ends.runtime (.poll now))
  cases next with
  | left drained =>
      have kept : Follows entries (ends.call (.poll now)).log.drained :=
        drained.grow change.keeps_drained
      exact ⟨.left kept, fun _ => kept⟩
  | waits confirmed only accepted =>
      obtain ⟨actions, output, polled⟩ := SessionRuntime.poll_ok succeeds
      rcases SessionRuntime.settled_poll only polled with empty | ⟨still, silent, ended⟩
      · have drained : (ends.call (.poll now)).log = ends.log.drain := by
          change (if (stepAt (SessionRuntime.perform lib) ends.runtime
            (.poll now)).after.queuedInstructions.isEmpty then ends.log.drain else ends.log) = _
          rw [empty]
          rfl
        have left : Follows entries (ends.call (.poll now)).log.drained := by
          rw [drained]
          exact accepted
        exact ⟨.left left, fun _ => left⟩
      · refine ⟨.waits confirmed still (accepted.trans change.follows), fun goesOn => ?_⟩
        rcases goesOn with sends | ⟨running, unfinished⟩
        · rw [output] at sends
          exact absurd silent sends
        · have complete : (ends.call (.poll now)).runtime.shutdownIsComplete = true := ended running
          rw [unfinished] at complete
          cases complete

theorem NextToLeave.step (waiting : NextToLeave entries ends) (step : Step key ends next) :
    NextToLeave entries next := by
  cases step with
  | arrival packets update batch holdings listed carries forgets =>
      cases waiting with
      | waits confirmed only accepted => exact .waits confirmed only accepted
      | left drained => exact .left drained
  | call operation kept succeeds honest =>
      have change := SessionRuntime.log_step_change ends.log
        (stepAt (SessionRuntime.perform lib) ends.runtime operation)
      cases waiting with
      | left drained => exact .left (drained.grow change.keeps_drained)
      | waits confirmed only accepted =>
          cases polls : operation.isPoll with
          | false =>
              exact .waits confirmed (SessionRuntime.settled_stays only polls)
                (accepted.trans change.follows)
          | true =>
              cases operation with
              | poll now => exact (NextToLeave.poll (.waits confirmed only accepted) (succeeds rfl)).1
              | _ => cases polls

theorem NextToLeave.steps (waiting : NextToLeave entries ends) (steps : Steps key ends next) :
    NextToLeave entries next := by
  induction steps with
  | refl => exact waiting
  | tail _ step induction => exact induction.step step

theorem Agree.newest_held (agree : Agree key next content confirmed) {newest : UInt64}
    (only : next.runtime.protocol.sentStates = [⟨newest, 0⟩]) :
    next.holdings newest = some next.log.drained := by
  have here : newest = confirmed := by
    have named := agree.named
    rw [SessionRuntime.confirmedState, only] at named
    exact Option.some.inj named
  obtain ⟨entries, found⟩ := Option.isSome_iff_exists.mp
    (agree.known confirmed agree.acknowledged (UInt64.le_refl _))
  have settled : next.runtime.protocol.hasPendingUpdate = false := by
    rw [ClientProtocol.hasPendingUpdate, only]
    rfl
  obtain ⟨oldest, states, _, all⟩ := agree.ledger.outbox.settled_of settled
  rw [only] at states
  cases states
  rw [here, found, (agree.held confirmed entries found).2, ← here, all]

theorem Agree.newest_content (agree : Agree key ends content confirmed) :
    content ends.runtime.protocol.latestLocalState = ends.log.drained ∧
      ends.runtime.protocol.Issued ends.runtime.protocol.latestLocalState := by
  have outbox := agree.ledger.outbox
  have newest (number : UInt64) (last : ends.runtime.protocol.sentStates.getLast?.map
      SentState.stateId = some number) :
      ends.runtime.protocol.latestLocalState = number ∧ ends.runtime.protocol.Issued number := by
    obtain ⟨state, found, same⟩ := Option.map_eq_some_iff.mp last
    refine ⟨?_, same ▸ outbox.issued state (List.mem_of_getLast? found)⟩
    rw [ClientProtocol.latestLocalState, found]
    exact same
  cases outbox.inFlight with
  | settled confirmed states _ all =>
      obtain ⟨latest, issued⟩ := newest confirmed (by rw [states]; rfl)
      rw [latest]
      exact ⟨all, issued⟩
  | waiting confirmed latest states _ _ all =>
      obtain ⟨last, issued⟩ := newest latest (by rw [states]; rfl)
      rw [last]
      exact ⟨all, issued⟩

/-- Two answers are enough. What was accepted before an update that acknowledges the newest state
is in the state that is newest behind the next poll that goes on, whoever comes to hold it, and is
at the peer once an update acknowledges the newest state again. -/
theorem two_answers_deliver (lawful : LawfulLibraries lib) (key : SessionKey) (now : MonotonicTime)
    (first middle last : BothEnds lib) (early : Steps key (start lib key now) first)
    (answer : SessionOperation)
    (answered : SessionRuntime.ReceivesAcknowledgement
      (stepAt (SessionRuntime.perform lib) first.runtime answer)
      first.runtime.protocol.latestLocalState)
    (received : Step key first (first.call answer))
    (between : Steps key (first.call answer) middle) (polledAt : MonotonicTime)
    (succeeds : (stepAt (SessionRuntime.perform lib) middle.runtime
      (.poll polledAt)).output.isError = false)
    (goesOn : GoesOn middle polledAt)
    (later : Steps key (middle.call (.poll polledAt)) last) :
    (∀ held, last.holdings (middle.call (.poll polledAt)).runtime.protocol.latestLocalState =
        some held → Follows first.log.entries held) ∧
      ∀ again, SessionRuntime.ReceivesAcknowledgement
          (stepAt (SessionRuntime.perform lib) last.runtime again)
          last.runtime.protocol.latestLocalState →
        Step key last (last.call again) →
        ∃ held, (last.call again).holdings last.runtime.protocol.latestLocalState = some held ∧
          Follows first.log.entries held := by
  obtain ⟨content, confirmed, agree⟩ := steps_agree lawful early
  obtain ⟨states, _, kept⟩ :=
    SessionRuntime.acknowledgement_received agree.ledger.outbox.inFlight answered
  have accepted : (first.call answer).log = first.log := kept first.log
  have waiting : NextToLeave first.log.entries (first.call answer) :=
    .waits _ states (accepted ▸ .refl _)
  have left : Follows first.log.entries (middle.call (.poll polledAt)).log.drained :=
    ((waiting.steps between).poll succeeds).2 goesOn
  have polled : Step key middle (middle.call (.poll polledAt)) := by
    apply Step.call (.poll polledAt) (by simp) (fun _ => succeeds)
    rintro state ⟨packet, time, update, asked | asked, _⟩ <;> cases asked
  have reaches : Steps key (start lib key now) (middle.call (.poll polledAt)) :=
    ((early.tail received).trans between).tail polled
  obtain ⟨polledContent, _, polledAgree⟩ := steps_agree lawful reaches
  obtain ⟨lastContent, lastConfirmed, lastAgree, onward⟩ := polledAgree.steps lawful later
  constructor
  · intro held found
    obtain ⟨drained, issued⟩ := polledAgree.newest_content
    rw [(lastAgree.held _ held found).2, (onward _ issued).2, drained]
    exact left
  · intro again answeredAgain receivedAgain
    obtain ⟨only, _, _⟩ :=
      SessionRuntime.acknowledgement_received lastAgree.ledger.outbox.inFlight answeredAgain
    obtain ⟨_, _, finalAgree, _⟩ := lastAgree.step lawful receivedAgain
    exact ⟨_, finalAgree.newest_held only,
      left.grow ((steps_drained later).trans (step_drained receivedAgain))⟩

def resentEnds : BothEnds plainLibraries := answeredEnds.call (.poll ⟨1100⟩)

/-- The second letter is at the peer as well. -/
def lastEnds : BothEnds plainLibraries := resentEnds.deliver secondLetter (letterBatch 0x73)

theorem resent_step : Step zeroKey resentEnds lastEnds := by
  have carried : ClientProtocol.Carries plainLibraries zeroKey
      (resentEnds.sent.getLast (by decide +kernel)) secondLetter (letterBatch 0x73) :=
    few_carried 1100 0 2 rfl rfl (by decide +kernel) (.cons ⟨2, by decide +kernel⟩ .nil)
  exact .deliver (List.getLast_mem _) carried

theorem last_step : Step zeroKey lastEnds (lastEnds.call (answerAt 1)) := by
  have completes : lastEnds.runtime.protocol.packetUpdate plainLibraries
      ((plainPackets [firstAnswer, secondAnswer]).getD 1 []) = some secondAnswer := by decide +kernel
  exact .receive completes (Or.inr rfl)

theorem both_letters_delivered :
    typedEnds.log.entries = (letterBatch 0x6c).instructions ++ (letterBatch 0x73).instructions ∧
    (∀ held, lastEnds.holdings 2 = some held → Follows typedEnds.log.entries held) ∧
    ∃ held, (lastEnds.call (answerAt 1)).holdings lastEnds.runtime.protocol.latestLocalState =
      some held ∧ Follows typedEnds.log.entries held := by
  have delivered := two_answers_deliver lawful_plain_libraries zeroKey ⟨0⟩ typedEnds answeredEnds
    lastEnds typed_steps (answerAt 0)
    ⟨_, _, firstAnswer, Or.inl rfl, by decide +kernel, by decide +kernel, by decide +kernel⟩
    answered_step .refl ⟨1100⟩ (by decide +kernel) (Or.inr (by decide +kernel)) (.single resent_step)
  have newest : resentEnds.runtime.protocol.latestLocalState = 2 := by decide +kernel
  refine ⟨by decide +kernel, fun held found => delivered.1 held (newest ▸ found), ?_⟩
  exact delivered.2 (answerAt 1)
    ⟨_, _, secondAnswer, Or.inl rfl, by decide +kernel, by decide +kernel, by decide +kernel⟩ last_step

end BothEnds

end FerrumTty.Runtime
