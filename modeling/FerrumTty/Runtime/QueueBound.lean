import FerrumTty.Runtime.Receives
import Mathlib.Data.List.Chain

/-!
# The bound of the input queue

The queue is charged for the bytes it holds, and a resize directly behind a resize replaces it.
So the queue is bounded by its charge as long as every other instruction is charged for
something. An empty payload costs nothing, and nothing limits how many of them wait.
-/

namespace FerrumTty.Runtime

set_option autoImplicit false

open Crypto Wire State Session Runs

/-- The payload that a queueing method is charged for. -/
def SessionOperation.payload : SessionOperation → Option Bytes
  | .queueTerminalEvent (.bytes bytes) => some bytes
  | .queueInput bytes => some bytes
  | .queueSessionControl _ payload => some payload
  | _ => none

theorem length_le_of_apart {Item : Type} (busy : Item → Bool) {items : List Item}
    (apart : items.IsChain fun first second => busy first = true ∨ busy second = true) :
    items.length ≤ 2 * items.countP busy + 1 := by
  have stronger (items : List Item)
      (apart : items.IsChain fun first second => busy first = true ∨ busy second = true) :
      items.length ≤ 2 * items.countP busy + (if items.head?.all busy then 0 else 1) := by
    induction items with
    | nil => exact Nat.le_refl _
    | cons item rest induction =>
        obtain ⟨neighbour, later⟩ := List.isChain_cons.mp apart
        have shorter := induction later
        rw [List.length_cons, List.countP_cons, List.head?_cons, Option.all_some]
        cases own : busy item with
        | true =>
            rw [if_pos rfl, if_pos rfl]
            split_ifs at shorter <;> omega
        | false =>
            have front : rest.head?.all busy = true := by
              rw [Option.all_eq_true]
              intro other found
              rcases neighbour other found with busyItem | busyOther
              · rw [own] at busyItem
                cases busyItem
              · exact busyOther
            rw [if_neg Bool.false_ne_true, if_neg Bool.false_ne_true]
            rw [if_pos front] at shorter
            omega
  have bounded := stronger items apart
  split_ifs at bounded <;> omega

namespace SessionRuntime

/-- What an instruction holds of byte runs and session-control payloads. -/
def payloadLength (instruction : Instruction) : Nat :=
  (instruction.bytes.map fun run => run.value.length).getD 0 +
    (instruction.sessionControl.map fun control => control.payload.length).getD 0

def payloadBytes (queue : List Instruction) : Nat := (queue.map payloadLength).sum

/-- What a method does to the queue and to its charge. -/
inductive QueueMove {terminal : Terminal} (operation : SessionOperation)
    (before after : SessionRuntime terminal) : Prop where
  | kept (queue : after.queuedInstructions = before.queuedInstructions)
      (charge : after.queuedInputBytes = before.queuedInputBytes)
  | drained (queue : after.queuedInstructions = []) (charge : after.queuedInputBytes = 0)
  | queued (payload : Bytes) (instruction : Instruction)
      (carries : operation.payload = some payload)
      (content : payloadLength instruction = payload.length)
      (other : isResize instruction = false)
      (room : before.queuedInputBytes + payload.length ≤ MAXIMUM_QUEUED_INPUT_BYTES)
      (queue : after.queuedInstructions = before.queuedInstructions ++ [instruction])
      (charge : after.queuedInputBytes = before.queuedInputBytes + payload.length)
  | resized (viewport : ViewportSize)
      (queue : after.queuedInstructions = pushResize before.queuedInstructions viewport)
      (charge : after.queuedInputBytes = before.queuedInputBytes)

section Moves

variable {terminal : Terminal} (runtime : SessionRuntime terminal)

theorem queue_instruction_move {operation : SessionOperation} {payload : Bytes}
    {instruction : Instruction} (carries : operation.payload = some payload)
    (content : payloadLength instruction = payload.length) (other : isResize instruction = false) :
    QueueMove operation runtime (runtime.queueInstruction payload.length instruction).2 := by
  unfold queueInstruction
  dsimp only
  split_ifs with full
  · exact .kept rfl rfl
  · exact .queued payload instruction carries content other (Nat.le_of_not_lt full) rfl rfl

theorem queue_input_move {operation : SessionOperation} {bytes : Bytes}
    (carries : operation.payload = some bytes) :
    QueueMove operation runtime (runtime.queueInput bytes).2 := by
  unfold queueInput
  split
  · exact .kept rfl rfl
  · exact queue_instruction_move runtime carries rfl rfl

theorem queue_resize_move (operation : SessionOperation) (columns rows : UInt16) :
    QueueMove operation runtime (runtime.queueResize columns rows) := by
  unfold queueResize
  split_ifs
  · exact .kept rfl rfl
  · exact .resized _ rfl rfl

theorem queue_session_control_move {operation : SessionOperation} {payload : Bytes}
    (carries : operation.payload = some payload) (kind : UInt32) :
    QueueMove operation runtime (runtime.queueSessionControl kind payload).2 := by
  unfold queueSessionControl
  split
  · exact .kept rfl rfl
  · split_ifs
    · exact .kept rfl rfl
    · exact queue_instruction_move runtime carries (Nat.zero_add _) rfl

theorem count_keeps_queue :
    runtime.recordShutdownTransmission.completePeerShutdownAfterAck.2.queuedInstructions =
        runtime.queuedInstructions ∧
      runtime.recordShutdownTransmission.completePeerShutdownAfterAck.2.queuedInputBytes =
        runtime.queuedInputBytes := by
  unfold recordShutdownTransmission
  split <;> (unfold completePeerShutdownAfterAck; split_ifs <;> exact ⟨rfl, rfl⟩)

end Moves

section PollMoves

variable {lib : Libraries} (runtime : SessionRuntime lib.terminal) (now : MonotonicTime)

theorem poll_association_queue :
    (runtime.pollAssociation lib now).2.queuedInstructions = runtime.queuedInstructions ∧
      (runtime.pollAssociation lib now).2.queuedInputBytes = runtime.queuedInputBytes := by
  unfold pollAssociation
  split_ifs
  · split <;> exact ⟨rfl, rfl⟩
  · exact ⟨rfl, rfl⟩

theorem poll_queued_drains :
    (runtime.pollQueued lib now).2.queuedInstructions = [] ∧
      (runtime.pollQueued lib now).2.queuedInputBytes = 0 := by
  have drained : (runtime.buildQueuedUpdate lib now).2.queuedInstructions = [] ∧
      (runtime.buildQueuedUpdate lib now).2.queuedInputBytes = 0 := by
    unfold buildQueuedUpdate
    dsimp only
    split <;> exact ⟨rfl, rfl⟩
  unfold pollQueued
  cases built : runtime.buildQueuedUpdate lib now with
  | mk result after =>
      rw [built] at drained
      cases result with
      | error error => exact drained
      | ok update =>
          obtain ⟨queue, charge⟩ := count_keeps_queue after
          exact ⟨queue.trans drained.1, charge.trans drained.2⟩

theorem poll_pending_queue :
    (runtime.pollPending lib now).2.queuedInstructions = runtime.queuedInstructions ∧
      (runtime.pollPending lib now).2.queuedInputBytes = runtime.queuedInputBytes := by
  unfold pollPending
  split_ifs
  · exact ⟨rfl, rfl⟩
  · split
    · exact ⟨rfl, rfl⟩
    · exact count_keeps_queue _

theorem poll_heartbeat_queue :
    (runtime.pollHeartbeat lib now).2.queuedInstructions = runtime.queuedInstructions ∧
      (runtime.pollHeartbeat lib now).2.queuedInputBytes = runtime.queuedInputBytes := by
  unfold pollHeartbeat
  split_ifs
  · exact ⟨rfl, rfl⟩
  · split
    · exact ⟨rfl, rfl⟩
    · dsimp only
      unfold completePeerShutdownAfterAck
      split_ifs <;> exact ⟨rfl, rfl⟩

theorem poll_move : QueueMove (.poll now) runtime (runtime.poll lib now).2 := by
  obtain ⟨queue, charge⟩ := poll_association_queue runtime now
  unfold poll
  split_ifs
  · exact .kept rfl rfl
  · exact .kept rfl rfl
  · cases opened : runtime.pollAssociation lib now with
    | mk result middle =>
        rw [opened] at queue charge
        cases result with
        | error error => exact .kept queue charge
        | ok opening =>
            dsimp only
            unfold pollSession
            split_ifs
            · exact .kept queue charge
            · exact .kept queue charge
            · obtain ⟨state, noted⟩ := connection_frame middle now
              dsimp only
              rw [noted]
              unfold pollSend
              dsimp only
              split_ifs
              · obtain ⟨drained, uncharged⟩ := poll_queued_drains { middle with connectionState := state } now
                exact .drained drained uncharged
              · obtain ⟨kept, held⟩ := poll_pending_queue { middle with connectionState := state } now
                exact .kept (kept.trans queue) (held.trans charge)
              · obtain ⟨kept, held⟩ := poll_heartbeat_queue { middle with connectionState := state } now
                exact .kept (kept.trans queue) (held.trans charge)

theorem queue_move (operation : SessionOperation) :
    QueueMove operation runtime (perform lib runtime operation).2 := by
  cases operation with
  | queueTerminalEvent event =>
      change QueueMove _ runtime (runtime.queueTerminalEvent event).2
      unfold queueTerminalEvent
      split
      · exact .kept rfl rfl
      · cases event with
        | bytes bytes => exact queue_input_move runtime rfl
        | resize columns rows => exact queue_resize_move runtime _ columns rows
  | queueInput bytes => exact queue_input_move runtime rfl
  | queueResize columns rows => exact queue_resize_move runtime _ columns rows
  | queueSessionControl kind payload => exact queue_session_control_move runtime rfl kind
  | setLocalCapabilities capabilities => exact .kept rfl rfl
  | pause =>
      change QueueMove _ runtime runtime.pause.2
      unfold pause
      split_ifs <;> exact .kept rfl rfl
  | cancel =>
      change QueueMove _ runtime runtime.cancel.2
      unfold cancel
      split_ifs
      · exact .kept rfl rfl
      · exact .drained rfl rfl
  | requestShutdown now =>
      change QueueMove _ runtime (runtime.requestShutdown now).2
      unfold requestShutdown
      split
      · exact .kept rfl rfl
      · split_ifs <;> exact .kept rfl rfl
  | notifyUdpRebound =>
      change QueueMove _ runtime runtime.notifyUdpRebound.2
      unfold notifyUdpRebound
      split_ifs <;> exact .kept rfl rfl
  | resume now =>
      change QueueMove _ runtime (runtime.resumeState now)
      unfold resumeState
      split_ifs <;> exact .kept rfl rfl
  | resumeWithActions now =>
      change QueueMove _ runtime (runtime.resumeWithActions now).2
      unfold resumeWithActions resumeState
      split_ifs <;> exact .kept rfl rfl
  | receiveDatagram packet now =>
      have receives := receive_datagram_receives lib runtime packet now
      exact .kept receives.queue receives.bytes
  | receiveDatagramLossy packet now =>
      have receives := receive_datagram_receives lib runtime packet now
      change QueueMove _ runtime (runtime.receiveDatagramLossy lib packet now).2
      rw [receive_datagram_lossy_eq]
      exact .kept receives.queue receives.bytes
  | poll now => exact poll_move runtime now

end PollMoves

section Charges

variable {terminal : Terminal} {operation : SessionOperation}
  {before after : SessionRuntime terminal}

/-- The charge is what the queue holds, and it is within the bound. -/
structure Accounted (runtime : SessionRuntime terminal) : Prop where
  charge : runtime.queuedInputBytes = payloadBytes runtime.queuedInstructions
  room : runtime.queuedInputBytes ≤ MAXIMUM_QUEUED_INPUT_BYTES

/-- No resize follows a resize, and whatever else waits is charged for something. -/
structure Coalesced (queue : List Instruction) : Prop where
  apart : queue.IsChain fun first second => (!isResize first) = true ∨ (!isResize second) = true
  charged : ∀ instruction ∈ queue, isResize instruction = false → 0 < payloadLength instruction

theorem payload_bytes_append (first second : List Instruction) :
    payloadBytes (first ++ second) = payloadBytes first + payloadBytes second := by
  rw [payloadBytes, List.map_append, List.sum_append]
  rfl

theorem push_resize_cases (queue : List Instruction) (viewport : ViewportSize) :
    ((∀ last ∈ queue.getLast?, isResize last = false) ∧
        pushResize queue viewport = queue ++ [resizeInstruction viewport]) ∨
      ∃ front last, queue = front ++ [last] ∧ isResize last = true ∧
        pushResize queue viewport = front ++ [{ last with viewport := some viewport }] := by
  unfold pushResize
  cases found : queue.getLast? with
  | none => exact Or.inl ⟨(fun last member => nomatch member), rfl⟩
  | some last =>
      dsimp only
      split_ifs with resize
      · exact Or.inr ⟨queue.dropLast, last, (List.dropLast_append_getLast? last found).symm, resize, rfl⟩
      · refine Or.inl ⟨fun other member => ?_, rfl⟩
        cases member
        exact Bool.eq_false_iff.mpr resize

theorem push_resize_bytes (queue : List Instruction) (viewport : ViewportSize) :
    payloadBytes (pushResize queue viewport) = payloadBytes queue := by
  rcases push_resize_cases queue viewport with ⟨_, added⟩ | ⟨front, last, split, _, replaced⟩
  · rw [added, payload_bytes_append]
    rfl
  · rw [replaced, split, payload_bytes_append, payload_bytes_append]
    rfl

theorem Accounted.move (accounted : Accounted before) (move : QueueMove operation before after) :
    Accounted after := by
  cases move with
  | kept queue charge => exact ⟨by rw [queue, charge, accounted.charge], charge ▸ accounted.room⟩
  | drained queue charge =>
      constructor
      · rw [queue, charge]
        rfl
      · rw [charge]
        exact Nat.zero_le _
  | queued payload instruction carries content other room queue charge =>
      refine ⟨?_, charge ▸ room⟩
      rw [queue, charge, accounted.charge, payload_bytes_append, ← content]
      rfl
  | resized viewport queue charge =>
      refine ⟨?_, charge ▸ accounted.room⟩
      rw [queue, charge, accounted.charge, push_resize_bytes]

theorem resize_stays {instruction : Instruction} (resize : isResize instruction = true)
    (viewport : ViewportSize) : isResize { instruction with viewport := some viewport } = true := by
  unfold isResize at resize ⊢
  simp only [Bool.and_eq_true] at resize
  simp only [resize.1.1.1, resize.1.1.2, resize.1.2, Option.isSome_some, Bool.and_self]

theorem Coalesced.move (coalesced : Coalesced before.queuedInstructions)
    (move : QueueMove operation before after)
    (charged : ∀ payload, operation.payload = some payload → payload ≠ []) :
    Coalesced after.queuedInstructions := by
  cases move with
  | kept queue charge => exact queue ▸ coalesced
  | drained queue charge =>
      rw [queue]
      exact ⟨.nil, fun instruction member => absurd member List.not_mem_nil⟩
  | queued payload instruction carries content other room queue charge =>
      rw [queue]
      constructor
      · apply coalesced.apart.append (.singleton _)
        intro last _ first found
        cases found
        exact Or.inr (by rw [other]; rfl)
      · intro entry member _
        rcases List.mem_append.mp member with early | late
        · exact coalesced.charged entry early ‹_›
        · rw [List.mem_singleton.mp late, content]
          exact List.length_pos_of_ne_nil (charged payload carries)
  | resized viewport queue charge =>
      rw [queue]
      rcases push_resize_cases before.queuedInstructions viewport with
        ⟨busy, added⟩ | ⟨front, last, split, resize, replaced⟩
      · rw [added]
        constructor
        · apply coalesced.apart.append (.singleton _)
          intro last found first _
          exact Or.inl (by rw [busy last found]; rfl)
        · intro entry member busyEntry
          rcases List.mem_append.mp member with early | late
          · exact coalesced.charged entry early busyEntry
          · rw [List.mem_singleton.mp late] at busyEntry
            cases busyEntry
      · have kept := coalesced
        rw [split] at kept
        obtain ⟨first, _, joint⟩ := List.isChain_append.mp kept.apart
        rw [replaced]
        constructor
        · apply first.append (.singleton _)
          intro previous found other same
          cases same
          have apart := joint previous found last rfl
          rw [resize_stays resize]
          rw [resize] at apart
          exact apart
        · intro entry member busyEntry
          rcases List.mem_append.mp member with early | late
          · exact kept.charged entry (List.mem_append_left _ early) busyEntry
          · rw [List.mem_singleton.mp late, resize_stays resize] at busyEntry
            cases busyEntry

theorem charged_count (queue : List Instruction)
    (charged : ∀ instruction ∈ queue, isResize instruction = false → 0 < payloadLength instruction) :
    queue.countP (fun instruction => !isResize instruction) ≤ payloadBytes queue := by
  induction queue with
  | nil => exact Nat.zero_le _
  | cons instruction rest induction =>
      have later := induction fun other member => charged other (List.mem_cons_of_mem _ member)
      have split : payloadBytes (instruction :: rest) =
          payloadLength instruction + payloadBytes rest := List.sum_cons
      rw [List.countP_cons, split]
      cases resize : isResize instruction with
      | true =>
          rw [if_neg (by decide)]
          omega
      | false =>
          have own := charged instruction List.mem_cons_self resize
          rw [if_pos (by decide)]
          omega

theorem coalesced_length (accounted : Accounted before)
    (coalesced : Coalesced before.queuedInstructions) :
    before.queuedInstructions.length ≤ 2 * MAXIMUM_QUEUED_INPUT_BYTES + 1 := by
  have apart := length_le_of_apart (fun instruction => !isResize instruction) coalesced.apart
  have busy := charged_count before.queuedInstructions coalesced.charged
  have charge := accounted.charge
  have room := accounted.room
  omega

end Charges

section Run

variable {lib : Libraries}

def QueuesOnly (payloads : Set Bytes) (operations : List SessionOperation) : Prop :=
  ∀ operation ∈ operations, ∀ payload, operation.payload = some payload → payload ∈ payloads

theorem accounted_run (lib : Libraries) (key : SessionKey) (start : MonotonicTime)
    (operations : List SessionOperation) :
    Accounted (final (perform lib) (new lib.terminal key start) operations) := by
  have first : Accounted (new lib.terminal key start) := ⟨rfl, Nat.zero_le _⟩
  exact invariant_final (perform lib) Accounted
    (fun runtime operation accounted => accounted.move (queue_move runtime operation)) first operations

theorem coalesced_run (key : SessionKey) (start : MonotonicTime) {payloads : Set Bytes}
    (charged : [] ∉ payloads) {operations : List SessionOperation}
    (only : QueuesOnly payloads operations) :
    Coalesced (final (perform lib) (new lib.terminal key start) operations).queuedInstructions := by
  induction operations using List.reverseRecOn with
  | nil => exact ⟨.nil, fun instruction member => absurd member List.not_mem_nil⟩
  | append_singleton earlier operation induction =>
      rw [final_concat]
      have before := induction fun other member => only other (List.mem_append_left _ member)
      apply before.move (queue_move _ operation)
      intro payload carries empty
      have allowed := only operation (List.mem_append_right _ List.mem_cons_self) payload carries
      rw [empty] at allowed
      exact charged allowed

/-- Empty payloads cost nothing, so each of them goes to the end of the queue. -/
theorem empty_inputs_pile (runtime : SessionRuntime lib.terminal) (running : runtime.lifecycle = .running)
    (opened : runtime.shutdown = .open) (room : runtime.queuedInputBytes ≤ MAXIMUM_QUEUED_INPUT_BYTES)
    (count : Nat) :
    (final (perform lib) runtime (List.replicate count (.queueInput []))).protocol = runtime.protocol ∧
      (final (perform lib) runtime
        (List.replicate count (.queueInput []))).queuedInstructions.length =
          runtime.queuedInstructions.length + count := by
  induction count generalizing runtime with
  | zero => exact ⟨rfl, rfl⟩
  | succ count induction =>
      have accepts : runtime.ensureAcceptingInput = .ok () := by
        rw [ensureAcceptingInput, ensureRunning, running]
        exact if_neg (not_not.mpr opened)
      have queued : (perform lib runtime (.queueInput [])).2 =
          { runtime with
            queuedInstructions := runtime.queuedInstructions ++ [bytesInstruction []] } := by
        change (runtime.queueInput []).2 = _
        rw [queueInput, accepts]
        change (runtime.queueInstruction 0 (bytesInstruction [])).2 = _
        rw [queueInstruction, Nat.add_zero, if_neg (Nat.not_lt.mpr room)]
      obtain ⟨protocol, length⟩ := induction { runtime with
        queuedInstructions := runtime.queuedInstructions ++ [bytesInstruction []] } running opened room
      rw [List.replicate_succ, final_cons, queued]
      refine ⟨protocol, ?_⟩
      rw [length, List.length_append, List.length_singleton, Nat.add_assoc, Nat.add_comm 1]

/-- The charge is always kept. The queue is bounded over the runs that queue some payloads exactly
if none of them is empty. -/
theorem queue_bounded_iff (lib : Libraries) (key : SessionKey) (start : MonotonicTime)
    (payloads : Set Bytes) :
    (∃ bound, ∀ operations, QueuesOnly payloads operations →
      (final (perform lib) (new lib.terminal key start) operations).queuedInputBytes =
          payloadBytes
            (final (perform lib) (new lib.terminal key start) operations).queuedInstructions ∧
        (final (perform lib) (new lib.terminal key start) operations).queuedInputBytes ≤
          1024 * 1024 ∧
        (final (perform lib) (new lib.terminal key start) operations).queuedInstructions.length ≤
          bound) ↔
      [] ∉ payloads := by
  constructor
  · intro bounded empty
    obtain ⟨bound, bounded⟩ := bounded
    have only : QueuesOnly payloads (List.replicate (bound + 1) (.queueInput [])) := by
      intro operation member payload carries
      rw [List.eq_of_mem_replicate member] at carries
      cases carries
      exact empty
    have short := (bounded _ only).2.2
    rw [(empty_inputs_pile (new lib.terminal key start) rfl rfl (Nat.zero_le _) _).2] at short
    omega
  · intro charged
    refine ⟨2 * MAXIMUM_QUEUED_INPUT_BYTES + 1, ?_⟩
    intro operations only
    have accounted := accounted_run lib key start operations
    exact ⟨accounted.charge, accounted.room,
      coalesced_length accounted (coalesced_run key start charged only)⟩

/-- While the first update waits for its acknowledgement, any number of empty inputs is accepted. -/
theorem pending_queue_unbounded :
    ¬ ∃ bound, ∀ operations,
      (final (perform plainLibraries) (new plainLibraries.terminal zeroKey ⟨0⟩)
          operations).protocol.hasPendingUpdate = true →
        (final (perform plainLibraries) (new plainLibraries.terminal zeroKey ⟨0⟩)
          operations).queuedInstructions.length ≤ bound := by
  intro bounded
  obtain ⟨bound, bounded⟩ := bounded
  let opened := final (perform plainLibraries) (new plainLibraries.terminal zeroKey ⟨0⟩)
    [.queueInput [0x6c], .poll ⟨0⟩]
  have opening : opened.lifecycle = .running ∧ opened.shutdown = .open ∧
      opened.queuedInputBytes ≤ MAXIMUM_QUEUED_INPUT_BYTES ∧
      opened.protocol.hasPendingUpdate = true := by
    decide +kernel
  obtain ⟨running, unstarted, room, pending⟩ := opening
  have short := bounded
    ([.queueInput [0x6c], .poll ⟨0⟩] ++ List.replicate (bound + 1) (.queueInput []))
  obtain ⟨protocol, length⟩ := empty_inputs_pile opened running unstarted room (bound + 1)
  rw [final_append, protocol, length] at short
  have few := short pending
  omega

end Run

end SessionRuntime

end FerrumTty.Runtime
