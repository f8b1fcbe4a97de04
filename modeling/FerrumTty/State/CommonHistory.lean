import FerrumTty.State.History

/-!
# The common part of two histories

`split_common_history` cuts two canonical histories at their longest common stream:
what is common and each tail make up the history again, and the tails go on
differently, as streams and as operation lists.
-/

namespace FerrumTty.State

set_option autoImplicit false

open Crypto

section CommonPrefix

variable {Item : Type} {common first second : List Item}

structure LongestCommonPrefix (common first second : List Item) : Prop where
  left : common <+: first
  right : common <+: second
  longest : ∀ shared, shared <+: first → shared <+: second → shared <+: common

/-- A common part after which the two lists go on differently is the longest one. -/
theorem longest_common_prefix_of_heads
    (heads : ∀ item ∈ first.head?, item ∉ second.head?) :
    LongestCommonPrefix common (common ++ first) (common ++ second) where
  left := List.prefix_append common first
  right := List.prefix_append common second
  longest := by
    intro shared ofFirst ofSecond
    rcases List.prefix_or_prefix_of_prefix ofFirst (List.prefix_append common first) with
      inside | ⟨more, rfl⟩
    · exact inside
    · rw [List.prefix_append_right_inj] at ofFirst ofSecond
      cases more with
      | nil => simp
      | cons item more =>
          obtain ⟨firstRest, rfl⟩ := ofFirst
          obtain ⟨secondRest, rfl⟩ := ofSecond
          exact absurd rfl (heads item rfl)

end CommonPrefix

/-- What is left of a byte run goes before the operations that the run stood before. -/
theorem canonical_byte_run_append {bytes : Bytes} {rest : List StateOperation}
    (canonical : Canonical (.hostBytes bytes :: rest)) (more : Bytes) :
    Canonical (byteRun more ++ rest) := by
  cases more with
  | nil => exact canonical.tail
  | cons value more =>
      constructor
      · intro member
        rcases List.mem_cons.mp member with empty | later
        · cases empty
        · exact canonical.tail.filled later
      · have separated := List.isChain_cons.mp canonical.separated
        refine List.isChain_cons.mpr ⟨?_, separated.2⟩
        intro following head
        have apart := separated.1 following head
        cases following with
        | hostBytes other => exact apart
        | resize columns rows => trivial
        | sessionControl control => trivial

theorem split_common_history_canonical (target delivered : List StateOperation)
    (targetCanonical : Canonical target) (deliveredCanonical : Canonical delivered) :
    Canonical (splitCommonHistory target delivered).2.1 ∧
      Canonical (splitCommonHistory target delivered).2.2 := by
  fun_induction splitCommonHistory target delivered with
  | case1 target operation delivered common targetTail deliveredTail split induction =>
      have tails := induction targetCanonical.tail deliveredCanonical.tail
      rwa [split] at tails
  | case2 target delivered targetBytes deliveredBytes commonBytes different =>
      exact ⟨canonical_byte_run_append targetCanonical _,
        canonical_byte_run_append deliveredCanonical _⟩
  | case3 => exact ⟨targetCanonical, deliveredCanonical⟩
  | case4 => exact ⟨targetCanonical, deliveredCanonical⟩

theorem operation_stream_nonempty {operation : StateOperation}
    (filled : operation ≠ .hostBytes []) : ∃ item, operation.stream.head? = some item := by
  cases operation with
  | hostBytes bytes =>
      cases bytes with
      | nil => exact absurd rfl filled
      | cons value bytes => exact ⟨.byte value, rfl⟩
  | resize columns rows => exact ⟨.viewport (viewportOf columns rows), rfl⟩
  | sessionControl control => exact ⟨.control control, rfl⟩

/-- Lists whose streams go on differently do not begin with the same operation. -/
theorem operation_heads_of_stream_heads {first second : List StateOperation}
    (filled : .hostBytes [] ∉ first)
    (heads : ∀ item ∈ (streamOf first).head?, item ∉ (streamOf second).head?) :
    ∀ operation ∈ first.head?, operation ∉ second.head? := by
  intro operation firstHead secondHead
  obtain ⟨firstRest, rfl⟩ := List.head?_eq_some_iff.mp firstHead
  obtain ⟨secondRest, rfl⟩ := List.head?_eq_some_iff.mp secondHead
  have nonempty : operation ≠ .hostBytes [] := fun empty => filled (by simp [empty])
  obtain ⟨item, start⟩ := operation_stream_nonempty nonempty
  rw [stream_of_cons, operation_stream_head nonempty, stream_of_cons,
    operation_stream_head nonempty] at heads
  exact heads item start start

theorem split_common_history_exact (target delivered : List StateOperation)
    (targetCanonical : Canonical target) (deliveredCanonical : Canonical delivered) :
    let (common, targetTail, deliveredTail) := splitCommonHistory target delivered
    streamOf common ++ streamOf targetTail = streamOf target ∧
      streamOf common ++ streamOf deliveredTail = streamOf delivered ∧
      LongestCommonPrefix (streamOf common) (streamOf target) (streamOf delivered) ∧
      (∀ item ∈ (streamOf targetTail).head?, item ∉ (streamOf deliveredTail).head?) ∧
      ∀ operation ∈ targetTail.head?, operation ∉ deliveredTail.head? := by
  obtain ⟨targetStream, deliveredStream⟩ := split_common_history_stream target delivered
  have heads := split_common_history_heads target delivered targetCanonical deliveredCanonical
  obtain ⟨tailCanonical, -⟩ :=
    split_common_history_canonical target delivered targetCanonical deliveredCanonical
  refine ⟨targetStream.symm, deliveredStream.symm, ?_, heads,
    operation_heads_of_stream_heads tailCanonical.filled heads⟩
  rw [targetStream, deliveredStream]
  exact longest_common_prefix_of_heads heads

theorem split_inside_byte_run :
    LongestCommonPrefix [.byte 97] (streamOf [.hostBytes [97, 98]])
      (streamOf [.hostBytes [97, 99], .resize 80 24]) :=
  have targetCanonical : Canonical [.hostBytes [97, 98]] :=
    ⟨by decide, List.isChain_singleton _⟩
  have deliveredCanonical : Canonical [.hostBytes [97, 99], .resize 80 24] :=
    ⟨by decide, List.isChain_pair.mpr trivial⟩
  (split_common_history_exact _ _ targetCanonical deliveredCanonical).2.2.1

end FerrumTty.State
