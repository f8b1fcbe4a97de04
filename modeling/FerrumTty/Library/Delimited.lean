import Mathlib.Data.List.Infix

/-!
# Text up to a delimiter

The first occurrence of a delimiter splits a text. Where the delimiter's first element occurs
nowhere else in it, no occurrence reaches into the delimiter that ends a content.
-/

namespace FerrumTty.Delimited

set_option autoImplicit false

variable {Element : Type*} [DecidableEq Element]

/-- What stands before and behind the first occurrence of the delimiter. -/
def splitAtFirst (delimiter : List Element) : List Element → Option (List Element × List Element)
  | [] => none
  | element :: rest =>
      if delimiter <+: element :: rest then
        some ([], (element :: rest).drop delimiter.length)
      else (splitAtFirst delimiter rest).map fun parts => (element :: parts.1, parts.2)

variable {first : Element} {others content rest : List Element}

omit [DecidableEq Element] in
/-- A delimiter that starts inside a content and ends behind it would repeat its first element. -/
theorem prefix_of_overlap (fresh : first ∉ others) {element : Element}
    (starts : first :: others <+: element :: content ++ first :: others ++ rest) :
    first :: others <+: element :: content := by
  by_cases fits : (first :: others).length ≤ (element :: content).length
  · rw [List.append_assoc] at starts
    exact List.prefix_of_prefix_length_le starts (List.prefix_append _ _) fits
  · exfalso
    obtain ⟨behind, same⟩ := starts
    have later := congrArg (fun text => text[content.length + 1]?) same
    simp only [List.length_cons] at fits
    have inside : content.length < others.length := by omega
    simp only [List.cons_append, List.append_assoc, List.getElem?_cons_succ] at later
    rw [List.getElem?_append_left inside, List.getElem?_append_right (Nat.le_refl _),
      Nat.sub_self, List.getElem?_cons_zero] at later
    exact fresh (List.mem_of_getElem? later)

theorem split_content (fresh : first ∉ others) (clean : ¬ first :: others <:+: content) :
    splitAtFirst (first :: others) (content ++ first :: others ++ rest) = some (content, rest) := by
  induction content with
  | nil =>
      rw [List.nil_append, List.cons_append, splitAtFirst, if_pos]
      · rw [← List.cons_append, List.drop_left]
      · exact List.prefix_append (first :: others) rest
  | cons element content induction =>
      have later : ¬ first :: others <:+: content :=
        fun inside => clean (List.infix_cons inside)
      have here : ¬ first :: others <+: element :: (content ++ first :: others ++ rest) :=
        fun starts => clean (prefix_of_overlap fresh starts).isInfix
      rw [List.cons_append, List.cons_append, splitAtFirst, if_neg here, induction later]
      rfl

theorem split_inside {delimiter : List Element} (inside : delimiter <:+: content)
    (something : delimiter ≠ []) (rest : List Element) :
    ∃ before behind, splitAtFirst delimiter (content ++ rest) = some (before, behind) ∧
      before.length < content.length := by
  induction content with
  | nil => exact absurd (List.infix_nil.mp inside) something
  | cons element content induction =>
      rw [List.cons_append, splitAtFirst]
      split_ifs with here
      · exact ⟨[], _, rfl, Nat.zero_lt_succ _⟩
      · have later : delimiter <:+: content := by
          rcases List.infix_cons_iff.mp inside with start | later
          · exact absurd (start.trans (List.prefix_append _ rest)) here
          · exact later
        obtain ⟨before, behind, found, shorter⟩ := induction later
        refine ⟨element :: before, behind, ?_, Nat.succ_lt_succ shorter⟩
        rw [found]
        rfl

/-- The content is read back exactly if the delimiter does not occur in it. -/
theorem split_content_iff (fresh : first ∉ others) :
    splitAtFirst (first :: others) (content ++ first :: others ++ rest) = some (content, rest) ↔
      ¬ first :: others <:+: content := by
  constructor
  · intro whole inside
    obtain ⟨before, behind, found, shorter⟩ :=
      split_inside inside (List.cons_ne_nil _ _) (first :: others ++ rest)
    rw [← List.append_assoc, whole, Option.some.injEq, Prod.mk.injEq] at found
    rw [← found.1] at shorter
    exact Nat.lt_irrefl _ shorter
  · exact split_content fresh

end FerrumTty.Delimited
