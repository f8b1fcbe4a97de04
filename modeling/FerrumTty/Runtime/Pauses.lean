import FerrumTty.Runtime.LocalShutdown

/-!
# Sleeping through a shutdown

A host pauses the runtime, resumes it later and polls. The receive timer starts again and the
send timer is cleared. The clock of a requested shutdown is neither, so it runs on in between.
-/

namespace FerrumTty.Runtime

set_option autoImplicit false

open Crypto Wire State Session Runs

def actionsOf (result : Except RuntimeError (List SessionAction)) : List SessionAction :=
  match result with
  | .ok actions => actions
  | .error _ => []

namespace SessionRuntime

variable {lib : Libraries}

/-- The actions and the runtime of `resume_with_actions`, or of `resume`, which reports nothing. -/
def wake {terminal : Terminal} (runtime : SessionRuntime terminal) (reporting : Bool)
    (now : MonotonicTime) : List SessionAction × SessionRuntime terminal :=
  if reporting then runtime.resumeWithActions now else ([], runtime.resume now)

def sleepReport (lib : Libraries) (runtime : SessionRuntime lib.terminal) (reporting : Bool)
    (later : MonotonicTime) : List SessionAction :=
  runtime.pause.1 ++ (runtime.pause.2.wake reporting later).1
    ++ actionsOf ((runtime.pause.2.wake reporting later).2.poll lib later).1

/-- The association is open, or a poll can open it. -/
def Opens (lib : Libraries) (runtime : SessionRuntime lib.terminal) (now : MonotonicTime) : Prop :=
  ∃ opening middle, runtime.pollAssociation lib now = (.ok opening, middle)

def slept {terminal : Terminal} (runtime : SessionRuntime terminal) (later : MonotonicTime) :
    SessionRuntime terminal :=
  { runtime with lifecycle := .running, lastReceive := later, lastSend := none }

section Sleep

variable (runtime : SessionRuntime lib.terminal) (reporting : Bool) (now later : MonotonicTime)

/-- A pause and a resume report the lifecycle only, and the shutdown state sleeps through them. -/
theorem sleep_report_eq (running : runtime.lifecycle = .running) :
    runtime.sleepReport lib reporting later =
      lifecycleActions .paused ++ (if reporting then lifecycleActions .running else [])
        ++ actionsOf ((runtime.slept later).poll lib later).1 := by
  cases reporting <;>
    simp [sleepReport, pause, wake, resume, resumeWithActions, resumeState, running, slept]

theorem AssociationOutcome.opens {runtime middle : SessionRuntime lib.terminal}
    {now : MonotonicTime} {opening : List SessionAction}
    (association : AssociationOutcome lib runtime now (.ok opening, middle)) :
    runtime.Opens lib now := by
  cases association with
  | kept opened => exact ⟨[], runtime, by rw [pollAssociation, if_neg opened]⟩
  | opened packets protocol event due performed =>
      rw [ClientProtocol.perform] at performed
      cases built : runtime.protocol.buildAssociation lib (timestamp now) with
      | mk result after =>
          rw [built] at performed
          cases performed
          exact ⟨_, _, by rw [pollAssociation, if_pos due, built]⟩

theorem opens_of_same {left right : SessionRuntime lib.terminal} {now : MonotonicTime}
    (association : left.association = right.association) (protocol : left.protocol = right.protocol) :
    left.Opens lib now ↔ right.Opens lib now := by
  unfold Opens pollAssociation
  rw [association, protocol]
  split_ifs
  · cases right.protocol.buildAssociation lib (timestamp now) with
    | mk result after => cases result <;> simp
  · simp

theorem poll_opened {runtime middle : SessionRuntime lib.terminal} {now : MonotonicTime}
    {opening : List SessionAction} (running : runtime.lifecycle = .running)
    (incomplete : runtime.shutdownIsComplete = false)
    (opened : runtime.pollAssociation lib now = (.ok opening, middle)) :
    runtime.poll lib now = middle.pollSession lib now opening ∧
      middle.endsAt now = runtime.endsAt now := by
  have association := poll_association_cases runtime now
  rw [opened] at association
  rcases association.handshake_fields with ⟨shutdown, due, protocol, _⟩
  apply And.intro _ (ends_of_same shutdown due protocol)
  rw [poll, if_neg (not_not.mpr running), if_neg (by simp [incomplete]), opened]

theorem poll_times_out_iff {runtime : SessionRuntime lib.terminal}
    (running : runtime.lifecycle = .running) :
    .shutdownComplete .timedOut ∈ actionsOf (runtime.poll lib now).1 ↔
      runtime.Opens lib now ∧ runtime.endsAt now = some .timedOut := by
  constructor
  · intro timesOut
    have polled := poll_cases lib runtime now
    cases outcome : runtime.poll lib now with
    | mk result after =>
        rw [outcome] at timesOut polled
        cases result with
        | error error => cases timesOut
        | ok actions =>
            rcases polled.completion timesOut with wrong | ⟨_, _, _, opening, middle, opened, ends⟩
            · cases wrong
            · rcases opened.handshake_fields with ⟨shutdown, due, protocol, _⟩
              exact ⟨opened.opens, (ends_of_same shutdown due protocol).symm.trans ends⟩
  · rintro ⟨⟨opening, middle, opened⟩, ends⟩
    rcases ends_cases runtime ends with ⟨undue, ⟨wrong, _⟩ | ⟨_, timedOut⟩⟩
    · cases wrong
    · have incomplete : runtime.shutdownIsComplete = false := by
        unfold shutdownTimedOut at timedOut
        unfold shutdownIsComplete
        split <;> simp_all
      rcases poll_opened running incomplete opened with ⟨polls, same⟩
      have middleEnds := same.trans ends
      unfold endsAt at middleEnds
      rw [polls, pollSession]
      split_ifs at middleEnds with answers acknowledged expired
      · cases middleEnds
      · simp [answers, acknowledged, expired, completeShutdown, actionsOf]

/-- Right behind the time of the last receipt the server counts as responsive. -/
theorem responsive_at_receipt {middle : SessionRuntime lib.terminal} {later : MonotonicTime}
    (received : middle.lastReceive = later) : (middle.connectionStateAction later).1 = none := by
  have responsive : middle.isServerResponsive later = true := by
    rw [isServerResponsive, received, MonotonicTime.elapsedSince, Nat.sub_self]
    decide
  rw [connectionStateAction, if_neg (by simp [responsive])]

theorem sent_uninterrupted {runtime after : SessionRuntime lib.terminal} {now : MonotonicTime}
    {sent : List SessionAction} (sending : SendOutcome lib runtime now (.ok sent, after)) :
    .connectionStateChanged .interrupted ∉ sent := by
  cases sending with
  | waited => nofun
  | sent operation queue packets event after =>
      unfold peerCompletion
      split_ifs <;> simp [sendActions]

/-- A poll right behind a resume does not find the connection interrupted. -/
theorem slept_uninterrupted :
    .connectionStateChanged .interrupted ∉ actionsOf ((runtime.slept later).poll lib later).1 := by
  have polled := poll_cases lib (runtime.slept later) later
  cases outcome : (runtime.slept later).poll lib later with
  | mk result after =>
      rw [outcome] at polled
      cases result with
      | error error => nofun
      | ok actions =>
          cases polled with
          | idle => nofun
          | ended => simp [actionsOf]
          | went opening sent middle after running incomplete association goesOn sending =>
              have received : middle.lastReceive = later := by
                cases association with
                | kept => rfl
                | opened => rfl
              have opened : .connectionStateChanged .interrupted ∉ opening := by
                cases association with
                | kept => nofun
                | opened => simp [sendActions]
              rw [responsive_at_receipt received]
              simpa [actionsOf] using ⟨opened, sent_uninterrupted sending⟩

/-- The shutdown clock of a sleeper runs out: at `now` neither limit is reached, or the association
cannot be opened then, and by `later` one of them is. -/
structure ClockRunsOut (now later : MonotonicTime) : Prop where
  opens : runtime.Opens lib later
  unanswered : runtime.peerShutdownAcknowledgementDue = false
  unconfirmed : runtime.protocol.localShutdownAcknowledged = false
  requested : ∃ startedAt transmissions,
    runtime.shutdown = .localRequested startedAt transmissions
      ∧ (SHUTDOWN_RETRY_LIMIT ≤ transmissions
        ∨ SHUTDOWN_TIMEOUT_MILLISECONDS ≤ later.elapsedSince startedAt)
      ∧ (transmissions < SHUTDOWN_RETRY_LIMIT
          ∧ now.elapsedSince startedAt < SHUTDOWN_TIMEOUT_MILLISECONDS
        ∨ ¬ runtime.Opens lib now)

theorem ends_timed_out_iff {terminal : Terminal} (runtime : SessionRuntime terminal)
    (now : MonotonicTime) :
    runtime.endsAt now = some .timedOut ↔
      runtime.peerShutdownAcknowledgementDue = false
        ∧ runtime.protocol.localShutdownAcknowledged = false
        ∧ ∃ startedAt transmissions,
          runtime.shutdown = .localRequested startedAt transmissions
            ∧ (SHUTDOWN_RETRY_LIMIT ≤ transmissions
              ∨ SHUTDOWN_TIMEOUT_MILLISECONDS ≤ now.elapsedSince startedAt) := by
  have expires : runtime.shutdownTimedOut now = true ↔ ∃ startedAt transmissions,
      runtime.shutdown = .localRequested startedAt transmissions
        ∧ (SHUTDOWN_RETRY_LIMIT ≤ transmissions
          ∨ SHUTDOWN_TIMEOUT_MILLISECONDS ≤ now.elapsedSince startedAt) := by
    unfold shutdownTimedOut
    cases runtime.shutdown <;> simp
  rw [← expires, endsAt]
  split_ifs with answers acknowledged timedOut <;> simp_all

/-- A sleep keeps the shutdown clock exactly where that clock does not run out. The connection is
not found interrupted in any case. -/
theorem sleep_keeps_clock_iff (running : runtime.lifecycle = .running) :
    ((.shutdownComplete .timedOut ∈ runtime.sleepReport lib reporting later →
        .shutdownComplete .timedOut ∈ actionsOf (runtime.poll lib now).1)
      ∧ .connectionStateChanged .interrupted ∉ runtime.sleepReport lib reporting later) ↔
      ¬ runtime.ClockRunsOut now later := by
  have sleeper : .shutdownComplete .timedOut ∈ runtime.sleepReport lib reporting later ↔
      runtime.Opens lib later ∧ runtime.endsAt later = some .timedOut := by
    have polled := poll_times_out_iff later (show (runtime.slept later).lifecycle = .running from rfl)
    rw [opens_of_same (show (runtime.slept later).association = runtime.association from rfl) rfl]
      at polled
    rw [sleep_report_eq runtime reporting later running, ← (show (runtime.slept later).endsAt later =
      runtime.endsAt later from rfl), ← polled]
    cases reporting <;> simp [lifecycleActions]
  have quiet : .connectionStateChanged .interrupted ∉ runtime.sleepReport lib reporting later := by
    have polled := slept_uninterrupted runtime later
    rw [sleep_report_eq runtime reporting later running]
    cases reporting <;> simpa [lifecycleActions] using polled
  rw [and_iff_left quiet, sleeper, poll_times_out_iff now running, ends_timed_out_iff,
    ends_timed_out_iff]
  constructor
  · intro keeps runsOut
    rcases runsOut.requested with ⟨startedAt, transmissions, requested, out, inside⟩
    rcases keeps ⟨runsOut.opens, runsOut.unanswered, runsOut.unconfirmed, startedAt, transmissions,
      requested, out⟩ with ⟨opens, _, _, otherStart, otherCount, sameRequest, limit⟩
    rw [requested] at sameRequest
    cases sameRequest
    rcases inside with ⟨few, early⟩ | shut
    · rcases limit with many | late
      · exact absurd many (UInt8.not_le.mpr few)
      · exact absurd late (Nat.not_le_of_lt early)
    · exact shut opens
  · rintro lasts ⟨opens, unanswered, unconfirmed, startedAt, transmissions, requested, out⟩
    have reached : ¬ ((transmissions < SHUTDOWN_RETRY_LIMIT
        ∧ now.elapsedSince startedAt < SHUTDOWN_TIMEOUT_MILLISECONDS) ∨ ¬ runtime.Opens lib now) :=
      fun inside => lasts ⟨opens, unanswered, unconfirmed, startedAt, transmissions, requested, out,
        inside⟩
    rcases not_or.mp reached with ⟨limit, opened⟩
    refine ⟨not_not.mp opened, unanswered, unconfirmed, startedAt, transmissions, requested, ?_⟩
    by_contra inside
    rcases not_or.mp inside with ⟨few, early⟩
    exact limit ⟨UInt8.not_le.mp few, Nat.lt_of_not_le early⟩

end Sleep

/-- The shutdown is requested at once and the host sleeps for twenty seconds. -/
def sleeperRun : List SessionOperation := [.poll ⟨0⟩, .requestShutdown ⟨0⟩]

theorem sleeping_shutdown_times_out :
    let runtime := final (perform plainLibraries) (new plainLibraries.terminal zeroKey ⟨0⟩) sleeperRun
    runtime.lifecycle = .running
      ∧ .shutdownComplete .timedOut ∈ runtime.sleepReport plainLibraries true ⟨20001⟩
      ∧ .shutdownComplete .timedOut ∉ actionsOf (runtime.poll plainLibraries ⟨1⟩).1 := by
  decide +kernel

/-- A sleep of a second. -/
theorem short_sleep_keeps_clock :
    let runtime := final (perform plainLibraries) (new plainLibraries.terminal zeroKey ⟨0⟩) sleeperRun
    (((.shutdownComplete .timedOut ∈ runtime.sleepReport plainLibraries true ⟨1001⟩ →
        .shutdownComplete .timedOut ∈ actionsOf (runtime.poll plainLibraries ⟨1⟩).1)
      ∧ .connectionStateChanged .interrupted ∉ runtime.sleepReport plainLibraries true ⟨1001⟩) ↔
      ¬ runtime.ClockRunsOut ⟨1⟩ ⟨1001⟩) :=
  sleep_keeps_clock_iff _ true ⟨1⟩ ⟨1001⟩ (by decide +kernel)

end SessionRuntime

end FerrumTty.Runtime
