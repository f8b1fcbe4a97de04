import FerrumTty.Client.EventLoop

/-!
# What the host has taken

The actions of the session reach the socket, the screen and the log of the client. Each of the
three has taken the same first part of them, each action once and in order.
-/

namespace FerrumTty.Client

set_option autoImplicit false

open Crypto Wire State Session FerrumTty.Runtime FerrumTty.Terminal

def datagramOf : SessionAction → Option Bytes
  | .sendDatagram packet => some packet
  | _ => none

def writtenOf : SessionAction → Option Bytes
  | .writeTerminal bytes => some bytes
  | _ => none

def eventOf : SessionAction → Option DiagnosticEvent
  | .diagnostic event => some event
  | _ => none

inductive ScreenInput where
  | bytes (bytes : Bytes)
  | resize (columns rows : UInt16)
  deriving DecidableEq, Repr

def ScreenInput.bytesOf : ScreenInput → Option Bytes
  | .bytes content => some content
  | .resize _ _ => none

section Screens

variable {terminal : Terminal} {Failure : Type}

def feed (screen : AuthoritativeScreen terminal) : ScreenInput → AuthoritativeScreen terminal
  | .bytes bytes => screen.process bytes
  | .resize columns rows => screen.resize columns rows

def feedAll (screen : AuthoritativeScreen terminal) (inputs : List ScreenInput) :
    AuthoritativeScreen terminal := inputs.foldl feed screen

variable (queries : ScreenQueries terminal) (guard : TerminalGuard terminal Failure)

theorem clear_authoritative :
    (guard.clearLocalNotice queries).2.authoritative = guard.authoritative := by
  unfold TerminalGuard.clearLocalNotice
  split_ifs <;> rfl

theorem notice_authoritative (bytes : Bytes) :
    (guard.writeLocalNotice queries bytes).2.authoritative = guard.authoritative := by
  have cleared := clear_authoritative queries guard
  unfold TerminalGuard.writeLocalNotice
  rcases clear : guard.clearLocalNotice queries with ⟨result, next⟩
  rw [clear] at cleared
  cases result with
  | error failure => exact cleared
  | ok done =>
      dsimp only at cleared ⊢
      have written : (next.writeBytes bytes).2.authoritative = next.authoritative := rfl
      rcases write : next.writeBytes bytes with ⟨result, last⟩
      rw [write] at written
      cases result <;> exact written.trans cleared

theorem leave_authoritative : guard.leaveForSuspend.2.authoritative = guard.authoritative := by
  unfold TerminalGuard.leaveForSuspend TerminalGuard.deactivateTerminal
  split_ifs <;> rfl

theorem resume_authoritative :
    (guard.resumeAfterSuspend queries).2.authoritative = guard.authoritative := by
  unfold TerminalGuard.resumeAfterSuspend
  split_ifs
  · rfl
  · rcases enableSessionRawMode guard.output with ⟨result, output⟩
    cases result with
    | error failure => rfl
    | ok done =>
        dsimp only
        rcases output.issueAll (setupCommands guard.alternateScreenActive) with ⟨result, output⟩
        cases result with
        | error failure => rfl
        | ok done =>
            dsimp only
            split <;> rename_i redrawn
            all_goals
              have same := congrArg (fun called => called.2.authoritative) redrawn
              exact same.symm

theorem server_bytes_shown (bytes : Bytes) :
    (guard.writeServerBytes queries bytes).2.authoritative = guard.authoritative.process bytes ∨
      (guard.writeServerBytes queries bytes).2.authoritative = guard.authoritative ∧
        ∃ failure, (guard.writeServerBytes queries bytes).1 = .error failure := by
  have cleared := clear_authoritative queries guard
  unfold TerminalGuard.writeServerBytes
  rcases clear : guard.clearLocalNotice queries with ⟨result, next⟩
  rw [clear] at cleared
  cases result with
  | error failure => exact Or.inr ⟨cleared, failure, rfl⟩
  | ok done => exact Or.inl (congrArg (AuthoritativeScreen.process · bytes) cleared)

end Screens

/-- From one host to a later one, with the actions that it has taken in between. -/
structure Took {terminal : Terminal} (before after : LocalHost terminal)
    (actions : List SessionAction) : Prop where
  sent : after.socket.attempted = before.socket.attempted ++ actions.filterMap datagramOf
  logged : after.logged = before.logged ++ actions.filterMap eventOf
  shown : ∃ inputs, after.guard.authoritative = feedAll before.guard.authoritative inputs ∧
    inputs.filterMap ScreenInput.bytesOf = actions.filterMap writtenOf

namespace Took

variable {terminal : Terminal} {first second third : LocalHost terminal}

theorem still (socket : second.socket = first.socket) (logged : second.logged = first.logged)
    (screen : second.guard.authoritative = first.guard.authoritative) : Took first second [] where
  sent := by rw [socket]; exact (List.append_nil _).symm
  logged := by rw [logged]; exact (List.append_nil _).symm
  shown := ⟨[], screen, rfl⟩

theorem resized (columns rows : UInt16) (socket : second.socket = first.socket)
    (logged : second.logged = first.logged)
    (screen : second.guard.authoritative = first.guard.authoritative.resize columns rows) :
    Took first second [] where
  sent := by rw [socket]; exact (List.append_nil _).symm
  logged := by rw [logged]; exact (List.append_nil _).symm
  shown := ⟨[.resize columns rows], screen, rfl⟩

theorem trans {earlier later : List SessionAction} (took : Took first second earlier)
    (taken : Took second third later) : Took first third (earlier ++ later) where
  sent := by rw [taken.sent, took.sent, List.filterMap_append, List.append_assoc]
  logged := by rw [taken.logged, took.logged, List.filterMap_append, List.append_assoc]
  shown := by
    obtain ⟨inputs, screen, written⟩ := took.shown
    obtain ⟨more, shown, further⟩ := taken.shown
    refine ⟨inputs ++ more, ?_, ?_⟩
    · rw [shown, screen, feedAll, feedAll, feedAll, List.foldl_append]
    · rw [List.filterMap_append, List.filterMap_append, written, further]

end Took

section Applying

variable {terminal : Terminal} (queries : ScreenQueries terminal) (language : String)

theorem reconcile_took (state : LocalHost terminal) :
    Took state (reconcilePrediction (localHost queries) language state).2 [] := by
  unfold reconcilePrediction localHost
  dsimp only
  cases state.predictor.takeReconciliation.1 <;> exact .still rfl rfl rfl

theorem apply_action_took (state : LocalHost terminal) (action : SessionAction) :
    ∃ taken, taken <+: [action] ∧
      Took state (applyAction (localHost queries) language state action).2 taken ∧
      ((applyAction (localHost queries) language state action).1 = .ok () → taken = [action]) := by
  cases action with
  | sendDatagram packet =>
      refine ⟨_, List.prefix_refl _, ⟨rfl, (List.append_nil _).symm, [], rfl, rfl⟩, fun _ => rfl⟩
  | diagnostic event =>
      refine ⟨_, List.prefix_refl _, ⟨(List.append_nil _).symm, rfl, [], rfl, rfl⟩, fun _ => rfl⟩
  | writeTerminal bytes =>
      have reconciled := reconcile_took queries language state
      rw [applyAction]
      rcases reconcile : reconcilePrediction (localHost queries) language state with ⟨result, next⟩
      rw [reconcile] at reconciled
      cases result with
      | error message =>
          refine ⟨[], List.nil_prefix, reconciled, ?_⟩
          intro done
          cases done
      | ok done =>
          change ∃ taken, taken <+: _ ∧
            Took state { next with guard := (next.guard.writeServerBytes queries bytes).2 } taken ∧
            ((next.guard.writeServerBytes queries bytes).1.mapError _ = .ok () → _)
          rcases server_bytes_shown queries next.guard bytes with shown | ⟨kept, failure, failed⟩
          · have written : Took next
                { next with guard := (next.guard.writeServerBytes queries bytes).2 }
                [.writeTerminal bytes] :=
              ⟨(List.append_nil _).symm, (List.append_nil _).symm, [.bytes bytes], shown, rfl⟩
            exact ⟨_, List.prefix_refl _, reconciled.trans written, fun _ => rfl⟩
          · have unwritten : Took next
                { next with guard := (next.guard.writeServerBytes queries bytes).2 } [] :=
              .still rfl rfl kept
            refine ⟨[], List.nil_prefix, reconciled.trans unwritten, ?_⟩
            intro done
            rw [failed] at done
            cases done
  | _ =>
      exact ⟨_, List.prefix_refl _,
        ⟨(List.append_nil _).symm, (List.append_nil _).symm, [], rfl, rfl⟩, fun _ => rfl⟩

/-- The actions are taken in turn. All of them are, unless the host fails. -/
theorem apply_actions_took (state : LocalHost terminal) (actions : List SessionAction) :
    ∃ taken, taken <+: actions ∧
      Took state (applyActions (localHost queries) language state actions).state taken ∧
      ((applyActions (localHost queries) language state actions).result = .ok () →
        taken = actions) := by
  induction actions generalizing state with
  | nil => exact ⟨[], List.prefix_refl _, .still rfl rfl rfl, fun _ => rfl⟩
  | cons action rest induction =>
      obtain ⟨first, among, took, whole⟩ := apply_action_took queries language state action
      rw [applyActions]
      rcases applied : applyAction (localHost queries) language state action with ⟨result, next⟩
      rw [applied] at took whole
      cases result with
      | error message =>
          refine ⟨first, among.trans (List.prefix_append [action] rest), took, ?_⟩
          intro done
          cases done
      | ok done =>
          obtain ⟨later, within, taken, all⟩ := induction next
          have complete : first = [action] := whole rfl
          rw [complete] at took
          refine ⟨action :: later, ?_, took.trans taken, ?_⟩
          · exact (List.prefix_append_right_inj [action]).mpr within
          · intro finished
            rw [all finished]

end Applying

end FerrumTty.Client
