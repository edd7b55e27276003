import Mathlib.Data.List.Basic

/-! Texts around a separator that may also occur inside them: two of them, or the parts of a text
between its separators.
-/

namespace SeparatedText

variable {α : Type*}

/-- Two such texts are equal when their parts are, or when one left part ends at an earlier
separator and the text between the two separators belongs to the other right part.
Witness: the shorter left part is a prefix of the longer one.
-/
theorem append_separator_eq_iff {separator : α} {left right left' right' : List α}
    : left ++ separator :: right = left' ++ separator :: right'
      ↔ (left = left' ∧ right = right')
        ∨ (∃ middle, left' = left ++ separator :: middle
            ∧ right = middle ++ separator :: right')
        ∨ (∃ middle, left = left' ++ separator :: middle
            ∧ right' = middle ++ separator :: right) := by
  constructor
  · intro same
    rcases List.append_eq_append_iff.mp same with ⟨between, longer, rest⟩ | ⟨between, longer, rest⟩
    · cases between with
      | nil => exact Or.inl ⟨by simpa using longer.symm, (List.cons.inj rest).2⟩
      | cons first middle =>
          obtain ⟨rfl, tail⟩ := List.cons.inj rest
          exact Or.inr (Or.inl ⟨middle, longer, tail⟩)
    · cases between with
      | nil => exact Or.inl ⟨by simpa using longer, (List.cons.inj rest).2.symm⟩
      | cons first middle =>
          obtain ⟨rfl, tail⟩ := List.cons.inj rest
          exact Or.inr (Or.inr ⟨middle, longer, tail⟩)
  · intro parts
    rcases parts with ⟨rfl, rfl⟩ | ⟨middle, rfl, rfl⟩ | ⟨middle, rfl, rfl⟩ <;> simp

/-- The last separator is found when the right parts are free of it. -/
theorem eq_of_right_free {separator : α} {left right left' right' : List α}
    (free : separator ∉ right) (free' : separator ∉ right')
    (same : left ++ separator :: right = left' ++ separator :: right')
    : left = left' ∧ right = right' := by
  rcases append_separator_eq_iff.mp same with equal | ⟨middle, _, rfl⟩ | ⟨middle, _, rfl⟩
  · exact equal
  · exact absurd (by simp) free
  · exact absurd (by simp) free'

/-- Joining two lists of parts joins their texts with a separator. -/
theorem intercalate_append {separator : List α} {front back : List (List α)}
    (nonempty : front ≠ []) (nonempty' : back ≠ [])
    : separator.intercalate (front ++ back)
      = separator.intercalate front ++ separator ++ separator.intercalate back := by
  induction front with
  | nil => exact absurd rfl nonempty
  | cons part front ih =>
      cases front with
      | nil => simp [List.intercalate_cons_of_ne_nil nonempty']
      | cons next front =>
          have more : next :: front ≠ [] := List.cons_ne_nil _ _
          rw [List.cons_append, List.intercalate_cons_of_ne_nil (by simp), ih more,
            List.intercalate_cons_of_ne_nil more]
          simp only [List.append_assoc]

/-- No part of a text holds the separator. -/
theorem not_mem_of_mem_splitOn [BEq α] [LawfulBEq α] {separator : α} {text part : List α}
    (member : part ∈ text.splitOn separator)
    : separator ∉ part := by
  induction text generalizing part with
  | nil =>
      obtain rfl := List.mem_singleton.mp member
      exact List.not_mem_nil
  | cons head text ih =>
      rw [List.splitOn_cons_eq_if_modifyHead] at member
      split at member
      · rcases List.mem_cons.mp member with rfl | later
        · exact List.not_mem_nil
        · exact ih later
      case isFalse other =>
        obtain ⟨first, later, parts⟩ :=
          List.exists_cons_of_ne_nil (List.splitOn_ne_nil separator text)
        rw [parts] at member ih
        rcases List.mem_cons.mp member with rfl | inLater
        · intro inside
          rcases List.mem_cons.mp inside with rfl | inFirst
          · exact other (beq_self_eq_true _)
          · exact ih List.mem_cons_self inFirst
        · exact ih (List.mem_cons_of_mem _ inLater)

/-- The parts of a text end in the parts of another when the text is the other, or ends in it
behind a separator.
-/
theorem splitOn_suffix_iff [BEq α] [LawfulBEq α] {separator : α} {text ending : List α}
    : ending.splitOn separator <:+ text.splitOn separator
      ↔ text = ending ∨ ∃ front, text = front ++ separator :: ending := by
  refine ⟨?_, ?_⟩
  · intro ends
    obtain ⟨front, joined⟩ := ends
    have rebuilt := congrArg [separator].intercalate joined
    rw [List.intercalate_splitOn] at rebuilt
    by_cases nonempty : front = []
    · subst nonempty
      rw [List.nil_append, List.intercalate_splitOn] at rebuilt
      exact .inl rebuilt.symm
    · rw [intercalate_append nonempty (List.splitOn_ne_nil separator ending),
        List.intercalate_splitOn] at rebuilt
      refine .inr ⟨[separator].intercalate front, ?_⟩
      rw [← rebuilt, List.append_assoc, List.singleton_append]
  · intro parts
    rcases parts with rfl | ⟨front, rfl⟩
    · exact List.suffix_rfl
    · rw [List.splitOn_append_cons_self]
      exact List.suffix_append _ _

end SeparatedText
