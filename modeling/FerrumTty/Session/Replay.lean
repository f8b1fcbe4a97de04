import FerrumTty.Library.SlidingWindow
import FerrumTty.Session.RemoteUpdates

/-!
# The replay window

The bit mask of `ReplayWindow` decides like a filter that remembers every accepted counter,
so a run of `ingest_packet` accepts no counter twice.
-/

namespace FerrumTty.Session

set_option autoImplicit false

open Crypto Wire State Runs

namespace ReplayWindow

/-- `u128 << amount` of the source, which has no result from 128 on. -/
def checkedShl (value : BitVec 128) (amount : UInt64) : Option (BitVec 128) :=
  if amount < 128 then some (value <<< amount.toNat) else none

/-- `accept` with checked shifts. -/
def acceptChecked (window : ReplayWindow) (counter : UInt64) : Option (Bool × ReplayWindow) :=
  match window.highest with
  | none => some (true, { highest := some counter, seen := 1 })
  | some highest =>
      if counter > highest then
        let advance := counter - highest
        if advance ≥ REPLAY_WINDOW_BITS then some (true, { highest := some counter, seen := 1 })
        else
          (checkedShl window.seen advance).map fun shifted =>
            (true, { highest := some counter, seen := shifted ||| 1 })
      else
        let age := highest - counter
        if age ≥ REPLAY_WINDOW_BITS then some (false, window)
        else
          (checkedShl 1 age).map fun bit =>
            if window.seen &&& bit ≠ 0 then (false, window)
            else (true, { window with seen := window.seen ||| bit })

section Verdicts

variable {window : ReplayWindow} {counter highest : UInt64}

theorem accept_first (unset : window.highest = none) :
    window.accept counter = (true, { highest := some counter, seen := 1 }) := by
  rw [accept, unset]

theorem accept_far (newest : window.highest = some highest) (above : highest < counter)
    (far : REPLAY_WINDOW_BITS ≤ counter - highest) :
    window.accept counter = (true, { highest := some counter, seen := 1 }) := by
  rw [accept, newest]
  dsimp only
  rw [if_pos above, if_pos far]

theorem accept_shifted (newest : window.highest = some highest) (above : highest < counter)
    (near : ¬ REPLAY_WINDOW_BITS ≤ counter - highest) :
    window.accept counter =
      (true, { highest := some counter, seen := (window.seen <<< (counter - highest).toNat) ||| 1 }) := by
  rw [accept, newest]
  dsimp only
  rw [if_pos above, if_neg near]

theorem accept_old (newest : window.highest = some highest) (inside : ¬ highest < counter)
    (old : REPLAY_WINDOW_BITS ≤ highest - counter) : window.accept counter = (false, window) := by
  rw [accept, newest]
  dsimp only
  rw [if_neg inside, if_pos old]

theorem accept_near (newest : window.highest = some highest) (inside : ¬ highest < counter)
    (near : ¬ REPLAY_WINDOW_BITS ≤ highest - counter) :
    window.accept counter =
      if window.seen &&& ((1 : BitVec 128) <<< (highest - counter).toNat) ≠ 0 then (false, window)
      else (true, { window with seen := window.seen ||| ((1 : BitVec 128) <<< (highest - counter).toNat) }) := by
  rw [accept, newest]
  dsimp only
  rw [if_neg inside, if_neg near]

/-- No shift amount reaches the width of the mask. -/
theorem accept_checked (window : ReplayWindow) (counter : UInt64) :
    window.acceptChecked counter = some (window.accept counter) := by
  cases newest : window.highest with
  | none => rw [accept_first newest, acceptChecked, newest]
  | some highest =>
      rw [acceptChecked, newest]
      dsimp only
      by_cases above : highest < counter
      · rw [if_pos above]
        by_cases far : REPLAY_WINDOW_BITS ≤ counter - highest
        · rw [if_pos far, accept_far newest above far]
        · have short : counter - highest < 128 := UInt64.not_le.mp far
          rw [if_neg far, accept_shifted newest above far, checkedShl, if_pos short]
          rfl
      · rw [if_neg above]
        by_cases old : REPLAY_WINDOW_BITS ≤ highest - counter
        · rw [if_pos old, accept_old newest above old]
        · have short : highest - counter < 128 := UInt64.not_le.mp old
          rw [if_neg old, accept_near newest above old, checkedShl, if_pos short, Option.map_some]
          rw [newest]

theorem accept_rejected (rejected : (window.accept counter).1 = false) :
    (window.accept counter).2 = window := by
  cases newest : window.highest with
  | none =>
      rw [accept_first newest] at rejected
      cases rejected
  | some highest =>
      by_cases above : highest < counter
      · by_cases far : REPLAY_WINDOW_BITS ≤ counter - highest
        · rw [accept_far newest above far] at rejected
          cases rejected
        · rw [accept_shifted newest above far] at rejected
          cases rejected
      · by_cases old : REPLAY_WINDOW_BITS ≤ highest - counter
        · rw [accept_old newest above old]
        · rw [accept_near newest above old] at rejected ⊢
          split_ifs at rejected ⊢
          rfl

end Verdicts

/-- The filter that remembers every accepted counter. -/
def Admits (accepted : List UInt64) (counter : UInt64) : Prop :=
  accepted = [] ∨ ∃ highest ∈ accepted, (∀ other ∈ accepted, other ≤ highest) ∧
    (highest < counter ∨ highest.toNat - counter.toNat < 128 ∧ counter ∉ accepted)

def numbers (accepted : List UInt64) : Set Nat := { number | ∃ counter ∈ accepted, counter.toNat = number }

/-- The window stands for the counters accepted so far. -/
inductive StandsFor (window : ReplayWindow) (accepted : List UInt64) : Prop
  | fresh (unset : window.highest = none) (nothing : accepted = [])
  | filled (highest : UInt64) (newest : window.highest = some highest) (member : highest ∈ accepted)
      (above : ∀ other ∈ accepted, other ≤ highest)
      (mask : SlidingWindow.Represents window.seen highest.toNat (numbers accepted))

theorem numbers_concat (accepted : List UInt64) (counter : UInt64) :
    numbers (accepted ++ [counter]) = insert counter.toNat (numbers accepted) := by
  ext number
  simp only [numbers, List.mem_append, List.mem_singleton, Set.mem_ofPred_eq, Set.mem_insert_iff]
  constructor
  · rintro ⟨other, earlier | here, same⟩
    · exact Or.inr ⟨other, earlier, same⟩
    · exact Or.inl (by rw [← same, here])
  · rintro (same | ⟨other, earlier, same⟩)
    · exact ⟨counter, Or.inr rfl, same.symm⟩
    · exact ⟨other, Or.inl earlier, same⟩

theorem mem_numbers (accepted : List UInt64) (counter : UInt64) :
    counter.toNat ∈ numbers accepted ↔ counter ∈ accepted := by
  constructor
  · rintro ⟨other, member, same⟩
    exact UInt64.toNat_inj.mp same ▸ member
  · intro member
    exact ⟨counter, member, rfl⟩

theorem numbers_below {accepted : List UInt64} {highest : UInt64}
    (above : ∀ other ∈ accepted, other ≤ highest) : ∀ number ∈ numbers accepted, number ≤ highest.toNat := by
  rintro number ⟨other, member, same⟩
  rw [← same]
  exact UInt64.le_iff_toNat_le.mp (above other member)

/-- The highest accepted counter decides alone. -/
theorem admits_iff {accepted : List UInt64} {highest counter : UInt64} (member : highest ∈ accepted)
    (above : ∀ other ∈ accepted, other ≤ highest) :
    Admits accepted counter ↔
      highest < counter ∨ highest.toNat - counter.toNat < 128 ∧ counter ∉ accepted := by
  constructor
  · intro admits
    rcases admits with nothing | ⟨other, present, most, verdict⟩
    · rw [nothing] at member
      cases member
    · have same : other = highest :=
        UInt64.le_antisymm (above other present) (most highest member)
      exact same ▸ verdict
  · intro verdict
    exact Or.inr ⟨highest, member, above, verdict⟩

theorem admits_new {accepted : List UInt64} {counter : UInt64} (admits : Admits accepted counter) :
    counter ∉ accepted := by
  intro present
  rcases admits with nothing | ⟨highest, member, above, verdict⟩
  · rw [nothing] at present
    cases present
  · rcases verdict with newer | ⟨_, unseen⟩
    · exact UInt64.not_le.mpr newer (above counter present)
    · exact unseen present

def recorded (accepted : List UInt64) (counter : UInt64) (verdict : Bool) : List UInt64 :=
  if verdict then accepted ++ [counter] else accepted

/-- The verdict of the window on one counter, and what the window stands for afterwards. -/
theorem StandsFor.accept {window : ReplayWindow} {accepted : List UInt64}
    (standsFor : StandsFor window accepted) (counter : UInt64) :
    ∃ verdict next, window.accept counter = (verdict, next) ∧
      (verdict = true ↔ Admits accepted counter) ∧
      StandsFor next (recorded accepted counter verdict) := by
  cases standsFor with
  | fresh unset nothing =>
      refine ⟨true, _, accept_first unset, iff_of_true rfl (Or.inl nothing), ?_⟩
      have only : numbers ([] ++ [counter]) = {counter.toNat} := by
        ext number
        simp [numbers, eq_comm]
      rw [nothing]
      apply StandsFor.filled counter rfl
      · simp [recorded]
      · simp [recorded]
      · exact only ▸ SlidingWindow.represents_first counter.toNat
  | filled highest newest member above mask =>
      have below := numbers_below above
      have width : REPLAY_WINDOW_BITS.toNat = 128 := rfl
      have kept := StandsFor.filled highest newest member above mask
      by_cases higher : highest < counter
      · have higherNat := UInt64.lt_iff_toNat_lt.mp higher
        have difference : (counter - highest).toNat = counter.toNat - highest.toNat :=
          UInt64.toNat_sub_of_le _ _ (UInt64.le_of_lt higher)
        have admitted : Admits accepted counter := (admits_iff member above).mpr (Or.inl higher)
        have last : counter ∈ recorded accepted counter true := by simp [recorded]
        have most : ∀ other ∈ recorded accepted counter true, other ≤ counter := by
          intro other present
          rcases List.mem_append.mp present with earlier | here
          · exact UInt64.le_of_lt (UInt64.lt_of_le_of_lt (above other earlier) higher)
          · rw [List.mem_singleton.mp here]
            exact UInt64.le_refl _
        by_cases far : REPLAY_WINDOW_BITS ≤ counter - highest
        · have farNat := UInt64.le_iff_toNat_le.mp far
          rw [difference, width] at farNat
          refine ⟨true, _, accept_far newest higher far, iff_of_true rfl admitted, ?_⟩
          apply StandsFor.filled counter rfl last most
          rw [recorded, if_pos rfl, numbers_concat]
          exact SlidingWindow.Represents.restart below (by omega)
        · refine ⟨true, _, accept_shifted newest higher far, iff_of_true rfl admitted, ?_⟩
          apply StandsFor.filled counter rfl last most
          rw [recorded, if_pos rfl, numbers_concat, difference]
          exact mask.advance below higherNat
      · have inside : counter.toNat ≤ highest.toNat :=
          UInt64.le_iff_toNat_le.mp (UInt64.not_lt.mp higher)
        have difference : (highest - counter).toNat = highest.toNat - counter.toNat :=
          UInt64.toNat_sub_of_le _ _ (UInt64.not_lt.mp higher)
        by_cases old : REPLAY_WINDOW_BITS ≤ highest - counter
        · have oldNat := UInt64.le_iff_toNat_le.mp old
          rw [difference, width] at oldNat
          refine ⟨false, window, accept_old newest higher old, iff_of_false (by decide) ?_, kept⟩
          rw [admits_iff member above]
          intro verdict
          rcases verdict with newer | near
          · exact higher newer
          · omega
        · have near := UInt64.lt_iff_toNat_lt.mp (UInt64.not_le.mp old)
          rw [difference, width] at near
          have tested := mask.seen_iff inside near
          rw [← difference, mem_numbers] at tested
          by_cases known : counter ∈ accepted
          · refine ⟨false, window, ?_, iff_of_false (by decide) ?_, kept⟩
            · rw [accept_near newest higher old, if_pos (tested.mpr known)]
            · rw [admits_iff member above]
              intro verdict
              rcases verdict with newer | unseen
              · exact higher newer
              · exact unseen.2 known
          · refine ⟨true, { window with
              seen := window.seen ||| ((1 : BitVec 128) <<< (highest - counter).toNat) }, ?_,
              iff_of_true rfl ((admits_iff member above).mpr (Or.inr ⟨near, known⟩)), ?_⟩
            · rw [accept_near newest higher old, if_neg (fun set => known (tested.mp set))]
            · refine StandsFor.filled highest ?_ ?_ ?_ ?_
              · exact newest
              · exact List.mem_append_left _ member
              · intro other present
                rcases List.mem_append.mp present with earlier | here
                · exact above other earlier
                · rw [List.mem_singleton.mp here]
                  exact UInt64.not_lt.mp higher
              · rw [recorded, if_pos rfl, numbers_concat]
                dsimp only
                rw [difference]
                exact mask.mark inside

def accepted (counters : List UInt64) : List UInt64 :=
  (trace accept .default counters).filterMap fun event =>
    if event.output then some event.input else none

theorem accepted_concat (counters : List UInt64) (counter : UInt64) :
    accepted (counters ++ [counter]) = recorded (accepted counters) counter
      (accept (final accept .default counters) counter).1 := by
  rw [accepted, trace_concat, List.filterMap_append, recorded]
  cases verdict : (accept (final accept .default counters) counter).1 with
  | true => simp [accepted, stepAt, verdict]
  | false => simp [accepted, stepAt, verdict]

theorem stands_for_accepted (counters : List UInt64) :
    StandsFor (final accept .default counters) (accepted counters) := by
  induction counters using List.reverseRecOn with
  | nil => exact .fresh rfl rfl
  | append_singleton counters counter induction =>
      obtain ⟨verdict, next, outcome, _, standsFor⟩ := induction.accept counter
      rw [accepted_concat, final_concat, outcome]
      exact standsFor

end ReplayWindow

namespace ClientProtocol

variable {lib : Libraries}

/-- The counter that a step shows to the replay window. -/
def presented (protocol : ClientProtocol lib.terminal) : ProtocolOperation → Option UInt64
  | .ingestPacket packet =>
      (protocol.secureChannel.openPacket lib.aead packet).toOption.map AuthenticatedPacket.counter
  | _ => none

def acceptedCounter (event : ProtocolStep lib) : Option UInt64 :=
  (event.before.presented event.input).filter fun counter =>
    (event.before.replayWindow.accept counter).1

def acceptedCounters (events : List (ProtocolStep lib)) : List UInt64 := events.filterMap acceptedCounter

section Frame

variable (lib) (protocol : ClientProtocol lib.terminal)

theorem accept_window (update : StateUpdate) :
    (protocol.acceptRemoteUpdate lib update).2.replayWindow = protocol.replayWindow := by
  have acceptance := accept_cases lib protocol update
  generalize protocol.acceptRemoteUpdate lib update = outcome at acceptance
  cases acceptance with
  | ignored quiet => rfl
  | stored base target batch fresh discards forward present decoded applied =>
      have storage := store_cases lib protocol update target
      generalize protocol.storeRemoteState lib update target = outcome at storage
      cases storage <;> rfl

theorem handle_message_window (authenticated : AuthenticatedPacket) (header : FragmentHeader)
    (compressed : Bytes) :
    (protocol.handleMessage lib authenticated header compressed).2.replayWindow =
      protocol.replayWindow := by
  unfold handleMessage
  split
  · rfl
  · rename_i update _
    have accepted := accept_window lib (protocol.processAcknowledgement update.acknowledgedState) update
    rw [(process_acknowledgement_inbound protocol update.acknowledgedState).window] at accepted
    unfold handleUpdate
    cases handled : (protocol.processAcknowledgement update.acknowledgedState).acceptRemoteUpdate lib
        update with
    | mk result next =>
        rw [handled] at accepted
        cases result with
        | error error => exact accepted
        | ok value =>
            dsimp only
            split_ifs <;> exact accepted

theorem handle_plaintext_window (authenticated : AuthenticatedPacket) :
    (protocol.handlePlaintext lib authenticated).2.replayWindow = protocol.replayWindow := by
  unfold handlePlaintext
  dsimp only
  split_ifs
  · rfl
  · rfl
  · split
    · rfl
    · unfold handleFragment
      dsimp only
      split_ifs
      · rfl
      · split
        · rfl
        · rfl
        · rw [handle_message_window]

theorem perform_window (operation : ProtocolOperation) :
    (protocol.perform lib operation).2.replayWindow =
      match protocol.presented operation with
      | none => protocol.replayWindow
      | some counter => (protocol.replayWindow.accept counter).2 := by
  by_cases inbound : operation.isInbound = true
  · cases operation with
    | ingestPacket packet =>
        change (protocol.ingestPacket lib packet).2.replayWindow = _
        cases opened : protocol.secureChannel.openPacket lib.aead packet with
        | error error =>
            rw [ingestPacket, opened, presented, opened]
            rfl
        | ok authenticated =>
            rw [ingestPacket, opened, presented, opened]
            simp only [Except.toOption, Option.map_some]
            split_ifs
            · rfl
            · rw [handle_plaintext_window]
    | setInitialRemoteViewport columns rows =>
        change (protocol.setInitialRemoteViewport columns rows).replayWindow = _
        unfold setInitialRemoteViewport presented
        split_ifs
        · rfl
        · split <;> rfl
    | _ => cases inbound
  · have kept := (perform_outbound lib protocol operation (Bool.eq_false_iff.mpr inbound)).1.window
    rw [kept]
    cases operation with
    | ingestPacket packet => exact absurd rfl inbound
    | _ => rfl

end Frame

theorem accepted_counter_step (protocol : ClientProtocol lib.terminal) (operation : ProtocolOperation) :
    acceptedCounter (stepAt (perform lib) protocol operation) =
      (protocol.presented operation).filter fun counter => (protocol.replayWindow.accept counter).1 := rfl

theorem stands_for_run (key : SessionKey) (operations : List ProtocolOperation) :
    ReplayWindow.StandsFor (final (perform lib) (new lib.terminal key) operations).replayWindow
        (acceptedCounters (trace (perform lib) (new lib.terminal key) operations)) ∧
      (acceptedCounters (trace (perform lib) (new lib.terminal key) operations)).Nodup := by
  induction operations using List.reverseRecOn with
  | nil => exact ⟨.fresh rfl rfl, List.nodup_nil⟩
  | append_singleton operations operation induction =>
      obtain ⟨standsFor, distinct⟩ := induction
      have moved := perform_window lib (final (perform lib) (new lib.terminal key) operations) operation
      have verdictIs := accepted_counter_step
        (final (perform lib) (new lib.terminal key) operations) operation
      rw [final_concat, trace_concat, acceptedCounters, List.filterMap_append, moved]
      cases shown : presented (final (perform lib) (new lib.terminal key) operations) operation with
      | none =>
          rw [shown] at verdictIs
          rw [List.filterMap_cons_none verdictIs, List.filterMap_nil, List.append_nil]
          exact ⟨standsFor, distinct⟩
      | some counter =>
          rcases standsFor.accept counter with ⟨verdict, next, outcome, admitted, later⟩
          rw [shown, Option.filter_some, outcome] at verdictIs
          dsimp only
          rw [outcome]
          cases verdict with
          | false =>
              rw [List.filterMap_cons_none verdictIs, List.filterMap_nil, List.append_nil]
              exact ⟨later, distinct⟩
          | true =>
              rw [List.filterMap_cons_some verdictIs, List.filterMap_nil]
              apply And.intro later
              apply List.nodup_append.mpr
              refine ⟨distinct, List.nodup_singleton _, ?_⟩
              intro earlier present other here same
              rw [List.mem_singleton.mp here] at same
              exact ReplayWindow.admits_new (admitted.mp rfl) (same ▸ present)

/-- The packet does not open, or the replay window rejects its counter. -/
def rejects (lib : Libraries) (protocol : ClientProtocol lib.terminal) (packet : Bytes) : Bool :=
  match protocol.secureChannel.openPacket lib.aead packet with
  | .error _ => true
  | .ok authenticated => !(protocol.replayWindow.accept authenticated.counter).1

theorem ingest_packet_replayed {protocol : ClientProtocol lib.terminal} {packet : Bytes}
    {authenticated : AuthenticatedPacket}
    (opened : protocol.secureChannel.openPacket lib.aead packet = .ok authenticated)
    (refused : (protocol.replayWindow.accept authenticated.counter).1 = false) :
    protocol.ingestPacket lib packet = (.error .replayDetected, protocol) := by
  have kept := ReplayWindow.accept_rejected refused
  rw [ingestPacket, opened]
  dsimp only
  rw [refused, kept]
  rfl

theorem ingest_packet_rejected {protocol : ClientProtocol lib.terminal} {packet : Bytes}
    (rejected : protocol.rejects lib packet = true) :
    ∃ error, protocol.ingestPacket lib packet = (.error error, protocol) := by
  rw [rejects] at rejected
  cases opened : protocol.secureChannel.openPacket lib.aead packet with
  | error error =>
      rw [ingestPacket, opened]
      exact ⟨.opening error, rfl⟩
  | ok authenticated =>
      rw [opened] at rejected
      have refused : (protocol.replayWindow.accept authenticated.counter).1 = false := by
        simpa using rejected
      exact ⟨.replayDetected, ingest_packet_replayed opened refused⟩

/-- `accept` decides every sequence of counters like the filter that remembers them all, a
refused counter is an error of `ingest_packet`, and a run of it accepts no counter twice. -/
theorem replay_window_refines_set (lib : Libraries) :
    (∀ (counters : List UInt64) (counter : UInt64),
      let window := final ReplayWindow.accept .default counters
      ((window.accept counter).1 = true ↔
          ReplayWindow.Admits (ReplayWindow.accepted counters) counter) ∧
        ((window.accept counter).1 = false → (window.accept counter).2 = window) ∧
        window.acceptChecked counter = some (window.accept counter)) ∧
      (∀ (protocol : ClientProtocol lib.terminal) (packet : Bytes) (authenticated : AuthenticatedPacket),
        protocol.secureChannel.openPacket lib.aead packet = .ok authenticated →
        (protocol.replayWindow.accept authenticated.counter).1 = false →
        protocol.ingestPacket lib packet = (.error .replayDetected, protocol)) ∧
      ∀ (key : SessionKey) (operations : List ProtocolOperation),
        (acceptedCounters (trace (perform lib) (new lib.terminal key) operations)).Nodup := by
  refine ⟨?_, fun _ _ _ => ingest_packet_replayed, ?_⟩
  · intro counters counter window
    refine ⟨?_, ReplayWindow.accept_rejected, ReplayWindow.accept_checked window counter⟩
    rcases (ReplayWindow.stands_for_accepted counters).accept counter with
      ⟨verdict, next, outcome, admitted, _⟩
    have same : window.accept counter = (verdict, next) := outcome
    rw [same]
    exact admitted
  · intro key operations
    exact (stands_for_run key operations).2

end ClientProtocol

end FerrumTty.Session
