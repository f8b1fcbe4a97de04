import FerrumTty.Runtime.Handshake
import FerrumTty.Runtime.LocalInput
import FerrumTty.Runtime.PeerShutdown

/-!
# The frame of an input

`prediction_frame_id` is read before an input is queued. It is the number of the state that first
carries the input to the server, unless a shutdown is requested while the input still waits.
-/

namespace FerrumTty.Runtime

set_option autoImplicit false

open Crypto Wire State Session Runs

namespace SessionRuntime

/-- The delta, put behind what its base stands for, covers the position. -/
def Adds (content : UInt64 → List Instruction) (position : Nat) (update : StateUpdate)
    (batch : InstructionBatch) : Prop :=
  (content update.baseState).length ≤ position ∧
    position < (content update.baseState).length + batch.instructions.length

/-- The first message that adds the position carries the update. -/
def FirstAdds (lib : Libraries) (key : SessionKey) (content : UInt64 → List Instruction)
    (position : Nat) (sent : List (List Bytes)) (update : StateUpdate) : Prop :=
  ∃ earlier packets later batch, sent = earlier ++ packets :: later ∧
    ClientProtocol.Carries lib key packets update batch ∧ Adds content position update batch ∧
    ∀ group ∈ earlier, ∀ other otherBatch, ClientProtocol.Carries lib key group other otherBatch →
      ¬ Adds content position other otherBatch

variable {lib : Libraries}

/-- The contents explain the messages: each leads from the content of its base to the content of
its target, and contents are prefixes of the log. -/
structure Explains (lib : Libraries) (key : SessionKey) (sent : List (List Bytes))
    (log : List Instruction) (content : UInt64 → List Instruction) : Prop where
  origin : content 0 = []
  carried : ∀ packets ∈ sent, ∃ update batch, ClientProtocol.Carries lib key packets update batch
  respects : ∀ packets ∈ sent, ∀ update batch,
    ClientProtocol.Carries lib key packets update batch → (differenceOf update batch).Respects content
  within : ∀ number, content number <+: log

/-- The operation is a request for the shutdown, and it takes effect. -/
def Requests {terminal : Terminal} (runtime : SessionRuntime terminal) (operation : SessionOperation) :
    Prop :=
  runtime.lifecycle = .running ∧ runtime.shutdown = .open ∧ ∃ now, operation = .requestShutdown now

/-- A request for the shutdown takes effect while the entry of the log at the position is queued. -/
def Overtaken (lib : Libraries) (runtime : SessionRuntime lib.terminal) (log : InputLog)
    (position : Nat) (operations : List SessionOperation) : Prop :=
  ∃ between request rest, operations = between ++ request :: rest ∧
    (final (perform lib) runtime between).Requests request ∧
    (logOf log (trace (perform lib) runtime between)).drained.length ≤ position

/-- What a step may do to the log. -/
inductive LogMove (log : InputLog) : InputLog → Prop
  | kept : LogMove log log
  | pushed (instruction : Instruction) : LogMove log (log.push instruction)
  | resized (viewport : ViewportSize) : LogMove log (log.resize viewport)
  | drained : LogMove log log.drain

section Log

variable {log later : InputLog} {position : Nat} {entry : Instruction}

theorem log_step_moves (log : InputLog) (event : RuntimeStep lib) :
    LogMove log (logStep log event) := by
  unfold logStep
  split
  · split_ifs <;> constructor
  · split_ifs <;> constructor
  · split_ifs <;> constructor
  · split_ifs <;> constructor
  · split_ifs <;> constructor
  · split_ifs <;> constructor
  · constructor

theorem LogMove.drained_length (move : LogMove log later) :
    log.drained.length ≤ later.drained.length := by
  cases move with
  | kept => exact Nat.le_refl _
  | pushed instruction => exact Nat.le_refl _
  | resized viewport => rw [resize_drained]
  | drained => simp [InputLog.drain]

theorem log_of_drained (log : InputLog) (events : List (RuntimeStep lib)) :
    log.drained.length ≤ (logOf log events).drained.length := by
  induction events generalizing log with
  | nil => exact Nat.le_refl _
  | cons event rest induction =>
      exact Nat.le_trans (log_step_moves log event).drained_length (induction (logStep log event))

theorem push_entry (instruction : Instruction) (found : log.entries[position]? = some entry) :
    (log.push instruction).entries[position]? = some entry := by
  have inside : position < log.entries.length := (List.getElem?_eq_some_iff.mp found).1
  rw [InputLog.entries, InputLog.push, ← List.append_assoc]
  exact (List.getElem?_append_left inside).trans found

theorem resize_entry (viewport : ViewportSize) (found : log.entries[position]? = some entry)
    (input : isResize entry = false) : (log.resize viewport).entries[position]? = some entry := by
  unfold InputLog.resize
  split_ifs with replaces
  · rcases (Option.any_eq_true _ _).mp replaces with ⟨newest, last, resize⟩
    rcases List.getLast?_eq_some_iff.mp last with ⟨others, queued⟩
    rw [InputLog.entries, queued, ← List.append_assoc] at found
    have inside : position < (log.drained ++ others).length := by
      by_contra beyond
      have bound := (List.getElem?_eq_some_iff.mp found).1
      rw [List.length_append, List.length_singleton] at bound
      rw [List.getElem?_append_right (by omega), Nat.sub_eq_zero_of_le (by omega)] at found
      rw [List.getElem?_cons_zero, Option.some.injEq] at found
      rw [found, input] at resize
      cases resize
    rw [List.getElem?_append_left inside] at found
    rw [InputLog.entries]
    simp only [queued, List.dropLast_concat]
    rw [← List.append_assoc]
    exact (List.getElem?_append_left inside).trans found
  · exact push_entry _ found

theorem LogMove.keeps_entry (move : LogMove log later) (found : log.entries[position]? = some entry)
    (input : isResize entry = false) : later.entries[position]? = some entry := by
  cases move with
  | kept => exact found
  | pushed instruction => exact push_entry instruction found
  | resized viewport => exact resize_entry viewport found input
  | drained =>
      rw [InputLog.entries] at *
      simpa [InputLog.drain] using found

theorem run_keeps_entry (found : log.entries[position]? = some entry)
    (input : isResize entry = false) (events : List (RuntimeStep lib)) :
    (logOf log events).entries[position]? = some entry := by
  induction events generalizing log with
  | nil => exact found
  | cons event rest induction =>
      exact induction ((log_step_moves log event).keeps_entry found input)

end Log

section First

variable {key : SessionKey} {content : UInt64 → List Instruction} {position : Nat}
  {left right : List (List Bytes)} {packets : List Bytes} {update : StateUpdate}
  {batch : InstructionBatch}

theorem FirstAdds.behind (first : FirstAdds lib key content position (left ++ right) update)
    (none : ∀ group ∈ left, ∀ other otherBatch, ClientProtocol.Carries lib key group other otherBatch →
      ¬ Adds content position other otherBatch) :
    FirstAdds lib key content position right update := by
  rcases first with ⟨earlier, group, later, batch, split, carries, adds, before⟩
  have absent : group ∉ left := by
    intro member
    exact none group member update batch carries adds
  rcases split_after absent split with ⟨rest, same⟩
  rw [same, List.append_assoc, List.append_cancel_left_eq] at split
  refine ⟨rest, group, later, batch, split, carries, adds, ?_⟩
  intro other member
  exact before other (same ▸ List.mem_append_right _ member)

theorem FirstAdds.prepend (first : FirstAdds lib key content position right update)
    (none : ∀ group ∈ left, ∀ other otherBatch, ClientProtocol.Carries lib key group other otherBatch →
      ¬ Adds content position other otherBatch) :
    FirstAdds lib key content position (left ++ right) update := by
  rcases first with ⟨earlier, group, later, batch, split, carries, adds, before⟩
  refine ⟨left ++ earlier, group, later, batch, by rw [split, List.append_assoc], carries, adds, ?_⟩
  intro other member
  rcases List.mem_append.mp member with early | late
  · exact none other early
  · exact before other late

theorem FirstAdds.head (lawful : LawfulCodec lib.codec) {other : StateUpdate}
    (first : FirstAdds lib key content position (packets :: right) other)
    (carries : ClientProtocol.Carries lib key packets update batch)
    (adds : Adds content position update batch) : other = update := by
  rcases first with ⟨earlier, group, later, otherBatch, split, carried, _, before⟩
  cases earlier with
  | nil =>
      rw [List.nil_append, List.cons.injEq] at split
      rw [← split.1] at carried
      exact (carried.unique lawful carries).1
  | cons head rest =>
      rw [List.cons_append, List.cons.injEq] at split
      rw [split.1] at carries
      exact absurd adds (before head List.mem_cons_self update batch carries)

theorem short_adds_nothing (respects : (differenceOf update batch).Respects content)
    (short : (content update.targetState).length ≤ position) : ¬ Adds content position update batch := by
  intro adds
  have length := congrArg List.length respects
  rw [List.length_append] at length
  unfold Adds at adds
  simp only [differenceOf] at length
  omega

end First

section Cancelled

variable {runtime : SessionRuntime lib.terminal}

theorem cancelled_step_silent (cancelled : runtime.lifecycle = .cancelled)
    (operation : SessionOperation) :
    messages (stepAt (perform lib) runtime operation).output.actions = [] := by
  rcases step_cases lib runtime operation with ⟨output, after, outcome, kind⟩
  rw [outcome]
  cases kind with
  | poll now =>
      have idle : runtime.poll lib now = (.ok [], runtime) := by
        rw [poll, if_pos (by simp [cancelled])]
      rw [idle]
      rfl
  | receive packet now asked plain => exact plain.silent.messages
  | request now running =>
      rw [cancelled] at running
      cases running
  | host other step => exact step.plain.silent.messages

theorem cancelled_step_entries (cancelled : runtime.lifecycle = .cancelled)
    (operation : SessionOperation) (log : InputLog) :
    (logStep log (stepAt (perform lib) runtime operation)).entries = log.entries := by
  have rejects : runtime.ensureAcceptingInput = .error .sessionCancelled := by
    rw [ensureAcceptingInput, ensureRunning, cancelled]
  exact rejecting_step_entries rejects log operation

theorem cancelled_run (cancelled : runtime.lifecycle = .cancelled) (operations : List SessionOperation)
    (log : InputLog) :
    sentMessages (trace (perform lib) runtime operations) = [] ∧
      (logOf log (trace (perform lib) runtime operations)).entries = log.entries := by
  induction operations generalizing runtime log with
  | nil => exact ⟨rfl, rfl⟩
  | cons operation rest induction =>
      have silent := cancelled_step_silent cancelled operation
      rcases induction (cancelled_stays cancelled operation)
        (logStep log (stepAt (perform lib) runtime operation)) with ⟨others, kept⟩
      constructor
      · rw [sentMessages, trace, List.flatMap_cons, silent]
        exact others
      · exact kept.trans (cancelled_step_entries cancelled operation log)

theorem cancel_run (runtime : SessionRuntime lib.terminal) (rest : List SessionOperation)
    (log : InputLog) :
    sentMessages (trace (perform lib) runtime (.cancel :: rest)) = [] ∧
      (logOf log (trace (perform lib) runtime (.cancel :: rest))).entries = log.entries := by
  have cancelled := @cancelled_of_mem lib runtime [.cancel] List.mem_cons_self
  rcases cancelled_run cancelled rest log with ⟨silent, same⟩
  apply And.intro _ same
  have here : messages (stepAt (perform lib) runtime .cancel).output.actions = [] :=
    (cancel_host runtime).plain.silent.messages
  rw [sentMessages, trace, List.flatMap_cons, here]
  exact silent

end Cancelled

section Explains

variable {key : SessionKey} {runtime before after : SessionRuntime lib.terminal} {log later : InputLog}
  {content next last : UInt64 → List Instruction}

theorem Ledger.explains (ledger : Ledger key runtime log content) :
    Explains lib key [] log.entries content where
  origin := ledger.outbox.origin
  carried := by simp
  respects := by simp
  within := fun number => (ledger.outbox.within number).trans (List.prefix_append _ _)

theorem Explains.behind (lawful : LawfulCodec lib.codec) {groups sent : List (List Bytes)}
    {entries : List Instruction} (explains : Explains lib key sent entries last)
    (advance : Advance lib key before after content groups log next)
    (agree : ∀ number, after.protocol.Issued number → last number = next number) :
    Explains lib key (groups ++ sent) entries last where
  origin := explains.origin
  carried := by
    intro packets member
    rcases List.mem_append.mp member with early | late
    · rcases advance.explained packets early with ⟨update, batch, carries, _⟩
      exact ⟨update, batch, carries⟩
    · exact explains.carried packets late
  respects := by
    intro packets member update batch carries
    rcases List.mem_append.mp member with early | late
    · rcases advance.explained packets early with ⟨known, knownBatch, carried, explained⟩
      rcases carries.unique lawful carried with ⟨same, sameBatch⟩
      rw [same, sameBatch]
      exact (explained.later agree fun _ issued => issued).respects
    · exact explains.respects packets late update batch carries
  within := explains.within

theorem run_explains (lawful : LawfulLibraries lib) {operations : List SessionOperation}
    (ledger : Ledger key runtime log content)
    (succeed : PollsSucceed (trace (perform lib) runtime operations)) :
    ∃ last, (∀ number, runtime.protocol.Issued number → last number = content number) ∧
      Explains lib key (sentMessages (trace (perform lib) runtime operations))
        (logOf log (trace (perform lib) runtime operations)).entries last := by
  induction operations generalizing runtime log content with
  | nil => exact ⟨content, fun _ _ => rfl, ledger.explains⟩
  | cons operation rest induction =>
      by_cases cancels : operation = .cancel
      · rcases cancel_run runtime rest log with ⟨silent, same⟩
        rw [cancels, silent, same]
        exact ⟨content, fun _ _ => rfl, ledger.explains⟩
      · rcases step_advance lawful.aead ledger cancels (succeed _ List.mem_cons_self)
          with ⟨next, advance⟩
        rcases induction advance.ledger
          (fun event member => succeed event (List.mem_cons_of_mem _ member)) with ⟨last, agree, explains⟩
        refine ⟨last, ?_, explains.behind lawful.codec advance agree⟩
        intro number issued
        exact (agree number (advance.issued number issued)).trans (advance.agree number issued)

end Explains

/-- The number of the state that will take the queue. -/
def waitingFrame {terminal : Terminal} (runtime : SessionRuntime terminal) : UInt64 :=
  if runtime.localShutdownUnsent then MAXIMUM_STATE else runtime.protocol.nextLocalState

/-- What a poll does to a queue that is not empty: it waits under the same number, or one message
behind messages without instructions takes all of it. -/
inductive QueueOutcome (lib : Libraries) (key : SessionKey) (before after : SessionRuntime lib.terminal)
    (sent : List (List Bytes)) : Prop
  | waits (queue : after.queuedInstructions = before.queuedInstructions)
      (frame : after.shutdownIsComplete = false →
        before.shutdownIsComplete = false ∧ after.waitingFrame = before.waitingFrame)
  | leaves (opening : List (List Bytes)) (packets : List Bytes) (update : StateUpdate)
      (queue : after.queuedInstructions = []) (incomplete : before.shutdownIsComplete = false)
      (listed : sent = opening ++ [packets])
      (idle : ∀ group ∈ opening, ∀ other otherBatch,
        ClientProtocol.Carries lib key group other otherBatch → otherBatch.instructions = [])
      (carries : ClientProtocol.Carries lib key packets update ⟨before.queuedInstructions⟩)
      (base : update.baseState = before.protocol.latestLocalState)
      (target : update.targetState = before.waitingFrame)

section Poll

variable {key : SessionKey} {runtime before middle after : SessionRuntime lib.terminal}
  {log : InputLog} {content : UInt64 → List Instruction} {now : MonotonicTime}

theorem waiting_frame_of_same {terminal : Terminal} {left right : SessionRuntime terminal}
    (requested : left.shutdownIsRequested = right.shutdownIsRequested)
    (sent : left.protocol.localShutdownSent = right.protocol.localShutdownSent)
    (next : left.protocol.nextLocalState = right.protocol.nextLocalState) :
    left.waitingFrame = right.waitingFrame := by
  unfold waitingFrame localShutdownUnsent
  rw [requested, sent, next]

/-- Behind a message a shutdown that is not complete is the one from before, up to its count. -/
theorem shutdown_after_incomplete {terminal : Terminal} {left right : SessionRuntime terminal}
    {operation : ProtocolOperation} (shutdown : right.shutdown = left.shutdownAfter operation)
    (incomplete : right.shutdownIsComplete = false) :
    left.shutdownIsComplete = false ∧ right.shutdownIsRequested = left.shutdownIsRequested := by
  have counted : left.countedShutdown operation = left.shutdown ∨
      left.countedShutdown operation = left.recordShutdownTransmission.shutdown := by
    unfold countedShutdown
    split
    · exact Or.inl rfl
    · exact Or.inr rfl
  unfold shutdownIsComplete shutdownIsRequested at *
  rw [shutdown, shutdownAfter] at incomplete ⊢
  split_ifs at incomplete ⊢
  rcases counted with same | same
  · rw [same] at incomplete ⊢
    exact ⟨incomplete, rfl⟩
  · rw [same] at incomplete ⊢
    unfold recordShutdownTransmission at incomplete ⊢
    cases state : left.shutdown <;> simp_all

theorem kept_queue_waits {operation : ProtocolOperation} {output : ProtocolOutput}
    (keeps : operation.keepsHistory = true)
    (performed : before.protocol.perform lib operation = (output, after.protocol))
    (queue : after.queuedInstructions = before.queuedInstructions)
    (shutdown : after.shutdown = before.shutdownAfter operation) (sent : List (List Bytes)) :
    QueueOutcome lib key before after sent := by
  rcases ClientProtocol.perform_keeps keeps performed with ⟨channel, same⟩
  apply QueueOutcome.waits queue
  intro incomplete
  rcases shutdown_after_incomplete shutdown incomplete with ⟨earlier, requested⟩
  apply And.intro earlier
  apply waiting_frame_of_same requested
  · rw [same]
    rfl
  · rw [same]
    rfl

theorem SendOutcome.queue (lawful : LawfulAead lib.aead) {sent : List SessionAction}
    (ledger : Ledger key before log content) (waiting : before.queuedInstructions ≠ [])
    (incomplete : before.shutdownIsComplete = false)
    (sending : SendOutcome lib before now (.ok sent, after)) :
    QueueOutcome lib key before after (messages sent) := by
  cases sending with
  | waited waits => exact .waits rfl fun incomplete => ⟨incomplete, rfl⟩
  | sent operation queue packets event _ sends choice performed queued shutdown answered =>
      have completion : Silent before.peerCompletion := by
        unfold peerCompletion
        split_ifs <;> simp [Silent, isDatagram]
      have sealed := congrArg Prod.fst performed
      rcases ClientProtocol.perform_carries lawful ledger.seals sealed with
        ⟨update, stateId, out, carries⟩
      have grouped : ∀ batch, ClientProtocol.Carries lib key packets update batch →
          messages (sendActions packets ++ .diagnostic event :: before.peerCompletion) = [packets] := by
        intro batch carried
        rcases carried.nonempty with ⟨packet, others, listed⟩
        rw [listed, messages_send, completion.messages]
      have newest : ∀ back, before.protocol.sentStates.getLast? = some back →
          back.stateId = before.protocol.latestLocalState := by
        intro back last
        rw [ClientProtocol.latestLocalState, last]
        rfl
      cases choice with
      | acknowledgement sentTimestamp => exact kept_queue_waits rfl performed queued shutdown _
      | retransmission sentTimestamp => exact kept_queue_waits rfl performed queued shutdown _
      | update sentTimestamp settled present requested =>
          cases ClientProtocol.outgoing_cases out with
          | update _ _ first last room =>
              have carried := carries ⟨before.queuedInstructions⟩ rfl
              apply QueueOutcome.leaves [] packets _ queued incomplete _ (by simp) carried
              · exact newest _ last
              · rw [waitingFrame, if_neg (by simp [requested])]
                rfl
              · exact grouped _ carried
      | shutdown sentTimestamp settled requested =>
          cases ClientProtocol.outgoing_cases out with
          | shutdown _ _ first last unsent =>
              have carried := carries ⟨before.queuedInstructions⟩ rfl
              apply QueueOutcome.leaves [] packets _ queued incomplete _ (by simp) carried
              · exact newest _ last
              · rw [waitingFrame, if_pos requested]
                rfl
              · exact grouped _ carried
      | shutdownAck sentTimestamp settled answered _ =>
          have shutdownSent := shutdown_sent_of_acknowledged ledger.outbox settled answered
          exact absurd (ledger.closed shutdownSent).1 waiting

theorem AssociationOutcome.queue (lawful : LawfulLibraries lib) {opening : List SessionAction}
    (ledger : Ledger key before log content)
    (association : AssociationOutcome lib before now (.ok opening, middle)) :
    (∀ group ∈ messages opening, ∀ other otherBatch,
        ClientProtocol.Carries lib key group other otherBatch → otherBatch.instructions = []) ∧
      middle.queuedInstructions = before.queuedInstructions ∧
      middle.shutdown = before.shutdown ∧ middle.waitingFrame = before.waitingFrame ∧
      middle.protocol.latestLocalState = before.protocol.latestLocalState := by
  cases association with
  | kept opened => exact ⟨by simp [messages], rfl, rfl, rfl, rfl⟩
  | opened packets protocol event due performed =>
      rcases ClientProtocol.perform_carries lawful.aead ledger.seals (congrArg Prod.fst performed)
        with ⟨update, stateId, out, carries⟩
      rcases ClientProtocol.perform_keeps rfl performed with ⟨channel, same⟩
      refine ⟨?_, rfl, rfl, ?_, ?_⟩
      · cases ClientProtocol.outgoing_cases out with
        | association _ first last =>
            have carried := carries _ ClientProtocol.empty_batch_encode
            rcases carried.nonempty with ⟨packet, others, listed⟩
            have group : messages (sendActions packets ++ [.diagnostic event]) = [packets] := by
              rw [listed, messages_send]
              rfl
            intro other member update batch carriesOther
            rw [group, List.mem_singleton] at member
            rw [member] at carriesOther
            rw [(carriesOther.unique lawful.codec carried).2]
      · rw [same]
        rfl
      · rw [same]
        rfl

theorem connection_queue (runtime : SessionRuntime lib.terminal) (now : MonotonicTime) :
    (runtime.connectionStateAction now).2.protocol = runtime.protocol ∧
      (runtime.connectionStateAction now).2.queuedInstructions = runtime.queuedInstructions ∧
      (runtime.connectionStateAction now).2.shutdown = runtime.shutdown := by
  obtain ⟨state, noted⟩ := connection_frame runtime now
  rw [noted]
  exact ⟨rfl, rfl, rfl⟩

theorem PollOutcome.queue (lawful : LawfulLibraries lib) {actions : List SessionAction}
    (ledger : Ledger key before log content) (waiting : before.queuedInstructions ≠ [])
    (polled : PollOutcome lib before now (.ok actions, after)) :
    QueueOutcome lib key before after (messages actions) := by
  cases polled with
  | idle stopped => exact .waits rfl fun incomplete => ⟨incomplete, rfl⟩
  | ended opening middle outcome _ _ association ends =>
      have queue := (association.queue lawful ledger).2.1
      exact .waits queue (by nofun)
  | went opening sent middle after running incomplete association goesOn sending =>
      rcases association.queue lawful ledger with ⟨idle, queue, shutdown, frame, latest⟩
      rcases association.advance lawful.aead ledger with ⟨opened, apart⟩
      rcases connection_queue middle now with ⟨protocol, sameQueue, sameShutdown⟩
      have moved := opened.ledger.unmoved protocol sameQueue (by rw [sameShutdown]; exact id)
      have frames : (middle.connectionStateAction now).2.waitingFrame = before.waitingFrame := by
        rw [← frame]
        apply waiting_frame_of_same
        · rw [shutdownIsRequested, shutdownIsRequested, sameShutdown]
        · rw [protocol]
        · rw [protocol]
      have ongoing : (middle.connectionStateAction now).2.shutdownIsComplete = false := by
        rw [shutdownIsComplete, sameShutdown, shutdown]
        exact incomplete
      have queued := sameQueue.trans queue
      have outcome := sending.queue lawful.aead moved.ledger (by rw [queued]; exact waiting) ongoing
      rw [List.append_assoc, apart, messages_silent_append (connection_notes_plain middle now).silent]
      cases outcome with
      | waits kept keeps =>
          apply QueueOutcome.waits (kept.trans queued)
          intro still
          exact ⟨incomplete, (keeps still).2.trans frames⟩
      | leaves none packets update emptied _ listed silent carries base target =>
          rw [queued] at carries
          rw [protocol, latest] at base
          apply QueueOutcome.leaves (messages opening ++ none) packets update emptied incomplete _ _
            carries base (target.trans frames)
          · rw [listed, List.append_assoc]
          · intro group member
            rcases List.mem_append.mp member with early | late
            · exact idle group early
            · exact silent group late

end Poll

/-- The entry of the log at the position waits in the queue for a state of the number. -/
structure Waits (key : SessionKey) (runtime : SessionRuntime lib.terminal) (log : InputLog)
    (content : UInt64 → List Instruction) (position : Nat) (frame : UInt64) (entry : Instruction) :
    Prop where
  ledger : Ledger key runtime log content
  queued : log.drained.length ≤ position
  found : log.entries[position]? = some entry
  input : isResize entry = false
  frame : runtime.shutdownIsComplete = false → runtime.waitingFrame = frame

section Run

variable {key : SessionKey} {runtime after : SessionRuntime lib.terminal} {log later : InputLog}
  {content next last : UInt64 → List Instruction} {position : Nat} {frame : UInt64}
  {entry : Instruction}

theorem Waits.nonempty (waits : Waits key runtime log content position frame entry) :
    runtime.queuedInstructions ≠ [] := by
  intro empty
  have bound := (List.getElem?_eq_some_iff.mp waits.found).1
  have queued := waits.queued
  rw [InputLog.entries, ← waits.ledger.queue, empty, List.append_nil] at bound
  omega

theorem overtaken_cons {operation : SessionOperation} {rest : List SessionOperation} :
    Overtaken lib runtime log position (operation :: rest) ↔
      (runtime.Requests operation ∧ log.drained.length ≤ position) ∨
        Overtaken lib (perform lib runtime operation).2
          (logStep log (stepAt (perform lib) runtime operation)) position rest := by
  constructor
  · rintro ⟨between, request, others, split, requests, queued⟩
    cases between with
    | nil =>
        rw [List.nil_append, List.cons.injEq] at split
        rw [split.1]
        exact Or.inl ⟨requests, queued⟩
    | cons first more =>
        rw [List.cons_append, List.cons.injEq] at split
        rw [split.1, split.2]
        exact Or.inr ⟨more, request, others, rfl, requests, queued⟩
  · rintro (⟨requests, queued⟩ | ⟨between, request, others, split, requests, queued⟩)
    · exact ⟨[], operation, rest, rfl, requests, queued⟩
    · exact ⟨operation :: between, request, others, by rw [split]; rfl, requests, queued⟩

theorem log_step_undrained {event : RuntimeStep lib} (other : event.input.isPoll = false) :
    (logStep log event).drained = log.drained := by
  unfold logStep
  cases event with
  | mk before input output after =>
      cases input with
      | poll now => cases other
      | queueTerminalEvent event =>
          cases event with
          | bytes bytes => dsimp only; split_ifs <;> rfl
          | resize columns rows => dsimp only; split_ifs <;> simp [resize_drained]
      | queueInput bytes => dsimp only; split_ifs <;> rfl
      | queueSessionControl kind payload => dsimp only; split_ifs <;> rfl
      | queueResize columns rows => dsimp only; split_ifs <;> simp [resize_drained]
      | _ => rfl

/-- A request that takes effect claims the queue for the shutdown state. -/
theorem requested_frame {operation : SessionOperation} (ledger : Ledger key runtime log content)
    (waiting : runtime.queuedInstructions ≠ []) (requests : runtime.Requests operation) :
    (perform lib runtime operation).2.waitingFrame = MAXIMUM_STATE := by
  rcases requests with ⟨running, opened, now, same⟩
  have unsent : runtime.protocol.localShutdownSent = false := by
    apply Bool.eq_false_iff.mpr
    intro sent
    exact waiting (ledger.closed sent).1
  have granted : runtime.ensureRunning = .ok () := by
    rw [ensureRunning, running]
  rw [same]
  simp [perform, requestShutdown, granted, opened, waitingFrame, localShutdownUnsent,
    shutdownIsRequested, unsent]

theorem settled_next {terminal : Terminal} {earlier later : ClientProtocol terminal}
    (settles : ClientProtocol.Settles earlier later) :
    later.nextLocalState = earlier.nextLocalState := by
  rcases settles.history with same | ⟨acknowledgedState, same⟩
  · exact same.next
  · exact same.next.trans (ClientProtocol.acknowledgement_cases _ acknowledgedState).1

theorem HostMove.next_state {terminal : Terminal} {earlier later : ClientProtocol terminal}
    (move : HostMove earlier later) : later.nextLocalState = earlier.nextLocalState := by
  cases move with
  | kept => rfl
  | viewport columns rows =>
      exact settled_next (ClientProtocol.set_initial_remote_viewport_settles columns rows)
  | capabilities capabilities => rfl

theorem kept_frame {operation : SessionOperation} (other : operation.isPoll = false)
    (requests : ¬ runtime.Requests operation)
    (incomplete : (perform lib runtime operation).2.shutdownIsComplete = false) :
    runtime.shutdownIsComplete = false ∧
      (perform lib runtime operation).2.waitingFrame = runtime.waitingFrame := by
  rcases step_cases lib runtime operation with ⟨output, after, outcome, kind⟩
  have reached : (perform lib runtime operation).2 = after := congrArg Step.after outcome
  rw [reached] at incomplete ⊢
  cases kind with
  | poll now => cases other
  | receive packet now asked plain =>
      have receives := receive_datagram_receives lib runtime packet now
      have next := settled_next receives.settles
      rcases receives.shutdown with same | ⟨opened, requested, _⟩
      · rw [shutdownIsComplete, same] at incomplete
        apply And.intro incomplete
        apply waiting_frame_of_same _ receives.settles.shutdown_sent next
        rw [shutdownIsRequested, shutdownIsRequested, same]
      · apply And.intro (by rw [shutdownIsComplete, opened])
        apply waiting_frame_of_same _ receives.settles.shutdown_sent next
        rw [shutdownIsRequested, shutdownIsRequested, requested, opened]
  | request now running opened => exact absurd ⟨running, opened, now, rfl⟩ requests
  | host _ step =>
      rw [shutdownIsComplete, step.shutdown] at incomplete
      apply And.intro incomplete
      apply waiting_frame_of_same
      · rw [shutdownIsRequested, shutdownIsRequested, step.shutdown]
      · rw [ClientProtocol.localShutdownSent, ClientProtocol.localShutdownSent,
          step.protocol.sent_states]
      · exact step.protocol.next_state

theorem Waits.stays (waits : Waits key runtime log content position frame entry)
    {groups : List (List Bytes)} {event : RuntimeStep lib}
    (advance : Advance lib key runtime after content groups (logStep log event) next)
    (queued : (logStep log event).drained.length ≤ position) {newFrame : UInt64}
    (named : after.shutdownIsComplete = false → after.waitingFrame = newFrame) :
    Waits key after (logStep log event) next position newFrame entry where
  ledger := advance.ledger
  queued := queued
  found := (log_step_moves log event).keeps_entry waits.found waits.input
  input := waits.input
  frame := named

theorem Waits.adds_nothing (lawful : LawfulCodec lib.codec)
    (waits : Waits key after later next position frame entry) {groups : List (List Bytes)}
    (advance : Advance lib key runtime after content groups later next)
    (agree : ∀ number, after.protocol.Issued number → last number = next number) :
    ∀ group ∈ groups, ∀ update batch, ClientProtocol.Carries lib key group update batch →
      ¬ Adds last position update batch := by
  intro group member update batch carries
  rcases advance.explained group member with ⟨known, knownBatch, carried, explained⟩
  rcases carries.unique lawful carried with ⟨same, sameBatch⟩
  rw [same, sameBatch]
  apply short_adds_nothing
  · exact (explained.later agree fun _ issued => issued).respects
  · rw [agree _ explained.target]
    exact Nat.le_trans (waits.ledger.outbox.within _).length_le waits.queued

/-- The first message that adds the position names the frame, or the shutdown state if a request
came between. -/
structure Framed (lib : Libraries) (key : SessionKey) (runtime : SessionRuntime lib.terminal)
    (log : InputLog) (content : UInt64 → List Instruction) (position : Nat) (frame : UInt64)
    (operations : List SessionOperation) (last : UInt64 → List Instruction) : Prop where
  agree : ∀ number, runtime.protocol.Issued number → last number = content number
  explains : Explains lib key (sentMessages (trace (perform lib) runtime operations))
    (logOf log (trace (perform lib) runtime operations)).entries last
  overtaken : ∀ update, FirstAdds lib key last position
      (sentMessages (trace (perform lib) runtime operations)) update →
    Overtaken lib runtime log position operations → update.targetState = MAXIMUM_STATE
  direct : ∀ update, FirstAdds lib key last position
      (sentMessages (trace (perform lib) runtime operations)) update →
    ¬ Overtaken lib runtime log position operations → update.targetState = frame
  sent : .cancel ∉ operations →
    position < (logOf log (trace (perform lib) runtime operations)).drained.length →
    ∃ update, FirstAdds lib key last position
      (sentMessages (trace (perform lib) runtime operations)) update

theorem nothing_added_first {update : StateUpdate} :
    ¬ FirstAdds lib key content position [] update := by
  rintro ⟨earlier, packets, rest, batch, split, _⟩
  simp at split

theorem Waits.framed_behind (lawful : LawfulCodec lib.codec) {newFrame : UInt64}
    {operation : SessionOperation} {rest : List SessionOperation}
    (waits : Waits key (perform lib runtime operation).2
      (logStep log (stepAt (perform lib) runtime operation)) next position newFrame entry)
    (advance : Advance lib key runtime (perform lib runtime operation).2 content
      (messages (stepAt (perform lib) runtime operation).output.actions)
      (logStep log (stepAt (perform lib) runtime operation)) next)
    (queued : log.drained.length ≤ position)
    (requested : runtime.Requests operation → newFrame = MAXIMUM_STATE)
    (unrequested : ¬ runtime.Requests operation → newFrame = frame)
    (framed : Framed lib key (perform lib runtime operation).2
      (logStep log (stepAt (perform lib) runtime operation)) next position newFrame rest last) :
    Framed lib key runtime log content position frame (operation :: rest) last where
  agree := by
    intro number issued
    exact (framed.agree number (advance.issued number issued)).trans (advance.agree number issued)
  explains := framed.explains.behind lawful advance framed.agree
  overtaken := by
    intro update first overtaken
    have behind := first.behind (waits.adds_nothing lawful advance framed.agree)
    rcases overtaken_cons.mp overtaken with ⟨requests, _⟩ | onward
    · by_cases again : Overtaken lib (perform lib runtime operation).2
          (logStep log (stepAt (perform lib) runtime operation)) position rest
      · exact framed.overtaken update behind again
      · exact (framed.direct update behind again).trans (requested requests)
    · exact framed.overtaken update behind onward
  direct := by
    intro update first never
    have behind := first.behind (waits.adds_nothing lawful advance framed.agree)
    rw [overtaken_cons, not_or] at never
    have unasked : ¬ runtime.Requests operation := fun requests => never.1 ⟨requests, queued⟩
    exact (framed.direct update behind never.2).trans (unrequested unasked)
  sent := by
    intro kept left
    rcases framed.sent (fun member => kept (List.mem_cons_of_mem _ member)) left with ⟨update, first⟩
    exact ⟨update, first.prepend (waits.adds_nothing lawful advance framed.agree)⟩

theorem latest_issued {protocol : ClientProtocol lib.terminal} {sent : List Instruction}
    (outbox : protocol.Outbox content sent) : protocol.Issued protocol.latestLocalState := by
  cases outbox.inFlight with
  | settled confirmed states drained all =>
      have issued := outbox.issued ⟨confirmed, 0⟩ (by simp [states])
      simpa [ClientProtocol.latestLocalState, states] using issued
  | waiting confirmed latest states newer grown all =>
      have issued := outbox.issued ⟨latest, protocol.localInstructions.length⟩ (by simp [states])
      simpa [ClientProtocol.latestLocalState, states] using issued

/-- The poll that empties the queue sends the entry under the number it waited for. -/
theorem Waits.framed_leaving (lawful : LawfulLibraries lib) {operation : SessionOperation}
    {rest : List SessionOperation}
    (waits : Waits key runtime log content position frame entry)
    (succeed : PollsSucceed (trace (perform lib) (perform lib runtime operation).2 rest))
    (polls : ¬ runtime.Requests operation) (incomplete : runtime.shutdownIsComplete = false)
    (drains : logStep log (stepAt (perform lib) runtime operation) = log.drain)
    (advance : Advance lib key runtime (perform lib runtime operation).2 content
      (messages (stepAt (perform lib) runtime operation).output.actions)
      (logStep log (stepAt (perform lib) runtime operation)) next)
    {opening : List (List Bytes)} {packets : List Bytes} {update : StateUpdate}
    (listed : messages (stepAt (perform lib) runtime operation).output.actions = opening ++ [packets])
    (idle : ∀ group ∈ opening, ∀ other otherBatch,
      ClientProtocol.Carries lib key group other otherBatch → otherBatch.instructions = [])
    (carries : ClientProtocol.Carries lib key packets update ⟨runtime.queuedInstructions⟩)
    (base : update.baseState = runtime.protocol.latestLocalState)
    (target : update.targetState = runtime.waitingFrame) :
    ∃ last, Framed lib key runtime log content position frame (operation :: rest) last := by
  have bound := (List.getElem?_eq_some_iff.mp waits.found).1
  rcases run_explains lawful advance.ledger succeed with ⟨last, agree, explains⟩
  have kept : ∀ number, runtime.protocol.Issued number → last number = content number :=
    fun number issued =>
      (agree number (advance.issued number issued)).trans (advance.agree number issued)
  have newest : last update.baseState = log.drained := by
    rw [base, kept _ (latest_issued waits.ledger.outbox), waits.ledger.outbox.latest]
  have adds : Adds last position update ⟨runtime.queuedInstructions⟩ := by
    have queued := waits.queued
    rw [InputLog.entries, List.length_append] at bound
    rw [Adds, newest, waits.ledger.queue]
    exact ⟨queued, bound⟩
  have none : ∀ group ∈ opening, ∀ other otherBatch,
      ClientProtocol.Carries lib key group other otherBatch → ¬ Adds last position other otherBatch := by
    intro group member other batch carried added
    have nothing := idle group member other batch carried
    rw [Adds, nothing, List.length_nil] at added
    omega
  have messages : sentMessages (trace (perform lib) runtime (operation :: rest)) =
      opening ++ packets ::
        sentMessages (trace (perform lib) (perform lib runtime operation).2 rest) := by
    rw [sentMessages, trace, List.flatMap_cons, listed, List.append_assoc]
    rfl
  have names : ∀ other, FirstAdds lib key last position
      (sentMessages (trace (perform lib) runtime (operation :: rest))) other →
      other.targetState = frame := by
    intro other first
    rw [messages] at first
    have onward := first.behind none
    rw [onward.head lawful.codec carries adds, target]
    exact waits.frame incomplete
  have never : ¬ Overtaken lib runtime log position (operation :: rest) := by
    rw [overtaken_cons]
    rintro (⟨requests, _⟩ | ⟨between, request, others, _, _, queued⟩)
    · exact polls requests
    · have monotone := Nat.le_trans (log_of_drained _ _) queued
      rw [drains] at monotone
      exact absurd bound (Nat.not_lt.mpr monotone)
  refine ⟨last, kept, explains.behind lawful.codec advance agree, ?_, ?_, ?_⟩
  · intro other _ overtaken
    exact absurd overtaken never
  · intro other first _
    exact names other first
  · intro _ _
    rw [messages]
    exact ⟨update, opening, packets, _, _, rfl, carries, adds, none⟩

theorem poll_step (lawful : LawfulLibraries lib) {operation : SessionOperation}
    (waits : Waits key runtime log content position frame entry) (polls : operation.isPoll = true)
    (fine : (stepAt (perform lib) runtime operation).output.isError = false) :
    ((logStep log (stepAt (perform lib) runtime operation)).drained.length ≤ position ∧
        ((perform lib runtime operation).2.shutdownIsComplete = false →
          (perform lib runtime operation).2.waitingFrame = frame)) ∨
      (runtime.shutdownIsComplete = false ∧
        logStep log (stepAt (perform lib) runtime operation) = log.drain ∧
        ∃ opening packets update,
          messages (stepAt (perform lib) runtime operation).output.actions = opening ++ [packets] ∧
          (∀ group ∈ opening, ∀ other otherBatch,
            ClientProtocol.Carries lib key group other otherBatch → otherBatch.instructions = []) ∧
          ClientProtocol.Carries lib key packets update ⟨runtime.queuedInstructions⟩ ∧
          update.baseState = runtime.protocol.latestLocalState ∧
          update.targetState = runtime.waitingFrame) := by
  cases operation with
  | poll now =>
      rcases poll_succeeds fine with ⟨actions, output, polled⟩
      have logged : logStep log (stepAt (perform lib) runtime (.poll now)) =
          if (stepAt (perform lib) runtime (.poll now)).after.queuedInstructions.isEmpty then log.drain
          else log := rfl
      rw [logged, output]
      cases polled.queue lawful waits.ledger waits.nonempty with
      | waits queue named =>
          rw [queue, if_neg (by simpa using waits.nonempty)]
          apply Or.inl (And.intro waits.queued _)
          intro incomplete
          rcases named incomplete with ⟨earlier, same⟩
          exact same.trans (waits.frame earlier)
      | leaves opening packets update queue incomplete listed idle carries base target =>
          rw [queue]
          exact Or.inr ⟨incomplete, rfl, opening, packets, update, listed, idle, carries, base, target⟩
  | _ => cases polls

/-- While the entry waits, the first message that adds it names the frame. -/
theorem waits_run (lawful : LawfulLibraries lib) {operations : List SessionOperation}
    (waits : Waits key runtime log content position frame entry)
    (succeed : PollsSucceed (trace (perform lib) runtime operations)) :
    ∃ last, Framed lib key runtime log content position frame operations last := by
  induction operations generalizing runtime log content frame with
  | nil =>
      exact ⟨content, fun _ _ => rfl, waits.ledger.explains,
        fun _ first => absurd first nothing_added_first,
        fun _ first => absurd first nothing_added_first,
        fun _ left => absurd waits.queued (Nat.not_le_of_lt left)⟩
  | cons operation rest induction =>
      have laterSucceed : PollsSucceed (trace (perform lib) (perform lib runtime operation).2 rest) :=
        fun event member => succeed event (List.mem_cons_of_mem _ member)
      by_cases cancels : operation = .cancel
      · rw [cancels]
        rcases cancel_run runtime rest log with ⟨silent, same⟩
        refine ⟨content, fun _ _ => rfl, ?_, ?_, ?_, ?_⟩
        · rw [silent, same]
          exact waits.ledger.explains
        · rw [silent]
          exact fun _ first => absurd first nothing_added_first
        · rw [silent]
          exact fun _ first => absurd first nothing_added_first
        · intro kept
          exact absurd List.mem_cons_self kept
      · rcases step_advance lawful.aead waits.ledger cancels (succeed _ List.mem_cons_self)
          with ⟨next, advance⟩
        cases polls : operation.isPoll with
        | false =>
            have queued : (logStep log (stepAt (perform lib) runtime operation)).drained.length ≤
                position := by
              rw [log_step_undrained polls]
              exact waits.queued
            by_cases requests : runtime.Requests operation
            · have still := waits.stays advance queued
                fun _ => requested_frame waits.ledger waits.nonempty requests
              rcases induction still laterSucceed with ⟨last, framed⟩
              exact ⟨last, still.framed_behind lawful.codec advance waits.queued (fun _ => rfl)
                (fun unasked => absurd requests unasked) framed⟩
            · have named : (perform lib runtime operation).2.shutdownIsComplete = false →
                  (perform lib runtime operation).2.waitingFrame = frame := by
                intro incomplete
                rcases kept_frame polls requests incomplete with ⟨earlier, same⟩
                exact same.trans (waits.frame earlier)
              have still := waits.stays advance queued named
              rcases induction still laterSucceed with ⟨last, framed⟩
              exact ⟨last, still.framed_behind lawful.codec advance waits.queued
                (fun asked => absurd asked requests) (fun _ => rfl) framed⟩
        | true =>
            have unasked : ¬ runtime.Requests operation := by
              rintro ⟨_, _, now, same⟩
              rw [same] at polls
              cases polls
            rcases poll_step lawful waits polls (succeed _ List.mem_cons_self polls) with
              ⟨queued, named⟩ | ⟨incomplete, drains, opening, packets, update, facts⟩
            · have still := waits.stays advance queued named
              rcases induction still laterSucceed with ⟨last, framed⟩
              exact ⟨last, still.framed_behind lawful.codec advance waits.queued
                (fun asked => absurd asked unasked) (fun _ => rfl) framed⟩
            · rcases facts with ⟨listed, idle, carries, base, target⟩
              exact waits.framed_leaving lawful laterSucceed unasked incomplete drains advance listed
                idle carries base target

theorem accepted_input {bytes : Bytes} {operation : SessionOperation}
    (queues : operation = .queueInput bytes ∨ operation = .queueTerminalEvent (.bytes bytes))
    (accepted : (perform lib runtime operation).1.isError = false) :
    logStep log (stepAt (perform lib) runtime operation) = log.push (bytesInstruction bytes) ∧
      runtime.lifecycle = .running ∧ runtime.shutdown = .open := by
  have accepting : runtime.ensureAcceptingInput = .ok () := by
    cases ready : runtime.ensureAcceptingInput with
    | ok => rfl
    | error error =>
        rcases queues with same | same
        · rw [same, perform, queueInput, ready] at accepted
          cases accepted
        · rw [same, perform, queueTerminalEvent, ready] at accepted
          cases accepted
  apply And.intro _ (accepting_open accepting)
  rcases queues with same | same
  · rw [same] at accepted ⊢
    exact if_neg (Bool.eq_false_iff.mp accepted)
  · rw [same] at accepted ⊢
    exact if_neg (Bool.eq_false_iff.mp accepted)

end Run

def runLog (lib : Libraries) (key : SessionKey) (start : MonotonicTime)
    (operations : List SessionOperation) : InputLog :=
  logOf ⟨[], []⟩ (trace (perform lib) (new lib.terminal key start) operations)

def runMessages (lib : Libraries) (key : SessionKey) (start : MonotonicTime)
    (operations : List SessionOperation) : List (List Bytes) :=
  sentMessages (trace (perform lib) (new lib.terminal key start) operations)

/-- The input that is accepted behind `earlier` is an entry of the log, and the first message that
adds this entry names the frame that was read before, or the shutdown state if a request for the
shutdown took effect while the input was queued. An input that has left the queue of a session that
is not cancelled was added by some message. -/
structure NamedByFrame (lib : Libraries) (key : SessionKey) (start : MonotonicTime)
    (earlier : List SessionOperation) (operation : SessionOperation) (bytes : Bytes)
    (later : List SessionOperation) (content : UInt64 → List Instruction) (position : Nat) :
    Prop where
  explains : Explains lib key (runMessages lib key start (earlier ++ operation :: later))
    (runLog lib key start (earlier ++ operation :: later)).entries content
  behind : position = (runLog lib key start earlier).entries.length
  entry : (runLog lib key start (earlier ++ operation :: later)).entries[position]? =
    some (bytesInstruction bytes)
  overtaken : ∀ update,
    FirstAdds lib key content position (runMessages lib key start (earlier ++ operation :: later))
      update →
    Overtaken lib (final (perform lib) (new lib.terminal key start) (earlier ++ [operation]))
      (runLog lib key start (earlier ++ [operation])) position later →
    update.targetState = MAXIMUM_STATE
  direct : ∀ update,
    FirstAdds lib key content position (runMessages lib key start (earlier ++ operation :: later))
      update →
    ¬ Overtaken lib (final (perform lib) (new lib.terminal key start) (earlier ++ [operation]))
      (runLog lib key start (earlier ++ [operation])) position later →
    update.targetState =
      (final (perform lib) (new lib.terminal key start) earlier).predictionFrameId
  sent : .cancel ∉ later →
    position < (runLog lib key start (earlier ++ operation :: later)).drained.length →
    ∃ update, FirstAdds lib key content position
      (runMessages lib key start (earlier ++ operation :: later)) update

section Whole

variable {key : SessionKey} {start : MonotonicTime} {earlier later : List SessionOperation}
  {operation : SessionOperation}

theorem run_log_append : runLog lib key start (earlier ++ operation :: later) =
    logOf (runLog lib key start (earlier ++ [operation]))
      (trace (perform lib) (final (perform lib) (new lib.terminal key start) (earlier ++ [operation]))
        later) := by
  have split : earlier ++ operation :: later = (earlier ++ [operation]) ++ later := by simp
  rw [runLog, split, trace_append]
  exact List.foldl_append

theorem run_messages_append : runMessages lib key start (earlier ++ operation :: later) =
    runMessages lib key start (earlier ++ [operation]) ++
      sentMessages (trace (perform lib)
        (final (perform lib) (new lib.terminal key start) (earlier ++ [operation])) later) := by
  have split : earlier ++ operation :: later = (earlier ++ [operation]) ++ later := by simp
  rw [runMessages, split, trace_append]
  exact List.flatMap_append

theorem accepted_waits (lawful : LawfulLibraries lib) {bytes : Bytes}
    (queues : operation = .queueInput bytes ∨ operation = .queueTerminalEvent (.bytes bytes))
    (succeed : PollsSucceed (trace (perform lib) (new lib.terminal key start)
      (earlier ++ [operation])))
    (accepted : (perform lib (final (perform lib) (new lib.terminal key start) earlier)
      operation).1.isError = false) :
    ∃ content, Advance lib key (new lib.terminal key start)
        (final (perform lib) (new lib.terminal key start) (earlier ++ [operation])) (fun _ => [])
        (runMessages lib key start (earlier ++ [operation]))
        (runLog lib key start (earlier ++ [operation])) content ∧
      Waits key (final (perform lib) (new lib.terminal key start) (earlier ++ [operation]))
        (runLog lib key start (earlier ++ [operation])) content
        (runLog lib key start earlier).entries.length
        (final (perform lib) (new lib.terminal key start) earlier).predictionFrameId
        (bytesInstruction bytes) := by
  rcases @accepted_input lib _ (runLog lib key start earlier) _ _ queues accepted with
    ⟨logged, running, opened⟩
  have kept : .cancel ∉ earlier ++ [operation] := by
    intro member
    rcases List.mem_append.mp member with early | late
    · have cancelled := @cancelled_of_mem lib (new lib.terminal key start) _ early
      rw [running] at cancelled
      cases cancelled
    · rw [List.mem_singleton] at late
      rw [← late] at queues
      rcases queues with wrong | wrong <;> cases wrong
  rcases run_advance lawful.aead (new_ledger lib key start) kept succeed with ⟨content, advance⟩
  have pushed : runLog lib key start (earlier ++ [operation]) =
      (runLog lib key start earlier).push (bytesInstruction bytes) := by
    rw [← logged, runLog, trace_concat]
    exact List.foldl_append
  refine ⟨content, advance, advance.ledger, ?_, ?_, rfl, ?_⟩
  · rw [pushed, InputLog.entries, List.length_append]
    exact Nat.le_add_right _ _
  · rw [pushed, InputLog.entries, InputLog.push, ← List.append_assoc]
    exact List.getElem?_concat_length
  · intro incomplete
    rw [final_concat] at incomplete ⊢
    have other : operation.isPoll = false := by
      rcases queues with same | same <;> rw [same] <;> rfl
    have unasked : ¬ (final (perform lib) (new lib.terminal key start) earlier).Requests operation := by
      rintro ⟨_, _, now, wrong⟩
      rw [wrong] at queues
      rcases queues with other | other <;> cases other
    rw [(kept_frame other unasked incomplete).2, waitingFrame, localShutdownUnsent,
      shutdownIsRequested, opened]
    rfl

/-- Every accepted input is first sent in the state that `prediction_frame_id` named before it was
queued, or in the shutdown state if the shutdown was requested while it waited. -/
theorem prediction_frame_names_state (lawful : LawfulLibraries lib) (key : SessionKey)
    (start : MonotonicTime) (earlier : List SessionOperation) (operation : SessionOperation)
    (bytes : Bytes) (later : List SessionOperation)
    (queues : operation = .queueInput bytes ∨ operation = .queueTerminalEvent (.bytes bytes))
    (succeed : PollsSucceed (trace (perform lib) (new lib.terminal key start)
      (earlier ++ operation :: later)))
    (accepted : (perform lib (final (perform lib) (new lib.terminal key start) earlier)
      operation).1.isError = false) :
    ∃ content position, NamedByFrame lib key start earlier operation bytes later content position := by
  have split : earlier ++ operation :: later = (earlier ++ [operation]) ++ later := by simp
  rw [split] at succeed
  rcases polls_succeed_append succeed with ⟨before, behind⟩
  rcases accepted_waits lawful queues before accepted with ⟨content, advance, waits⟩
  rcases waits_run lawful waits behind with ⟨last, framed⟩
  have none := waits.adds_nothing lawful.codec advance framed.agree
  refine ⟨last, _, ?_, rfl, ?_, ?_, ?_, ?_⟩
  · rw [run_messages_append, run_log_append]
    exact framed.explains.behind lawful.codec advance framed.agree
  · rw [run_log_append]
    exact run_keeps_entry waits.found waits.input _
  · rw [run_messages_append]
    intro update first
    exact framed.overtaken update (first.behind none)
  · rw [run_messages_append]
    intro update first
    exact framed.direct update (first.behind none)
  · rw [run_messages_append, run_log_append]
    intro kept left
    rcases framed.sent kept left with ⟨update, first⟩
    exact ⟨update, first.prepend none⟩

end Whole

/-- A letter waits behind a state in flight, which is retransmitted before it is confirmed. -/
theorem waiting_letter_named :
    ∃ content position, NamedByFrame plainLibraries zeroKey ⟨0⟩ [.queueInput [0x6c], .poll ⟨0⟩]
      (.queueInput [0x73]) [0x73]
      (.poll ⟨1000⟩ :: (plainPackets [StateUpdate.new 0 0 1]).map (.receiveDatagram · ⟨1100⟩) ++
        [.poll ⟨1100⟩]) content position :=
  prediction_frame_names_state lawful_plain_libraries zeroKey ⟨0⟩ [.queueInput [0x6c], .poll ⟨0⟩]
    (.queueInput [0x73]) [0x73]
    (.poll ⟨1000⟩ :: (plainPackets [StateUpdate.new 0 0 1]).map (.receiveDatagram · ⟨1100⟩) ++
      [.poll ⟨1100⟩]) (Or.inl rfl) (by decide +kernel) (by decide +kernel)

end SessionRuntime

end FerrumTty.Runtime
