import Mathlib.Algebra.GroupWithZero.Nat
import Mathlib.Data.List.Infix

/-! Searching and slicing sequences whose elements have positive widths.
An offset counts widths, not elements, so a slice exists only at an element boundary.
-/

namespace WeightedText

variable {α : Type*} {width : α → Nat}

/-- Total width of a sequence. -/
def extent (width : α → Nat) (text : List α) : Nat :=
  (text.map width).sum

/-- The sequence cut at an offset. There is no cut outside it or inside an element. -/
def splitAt? (width : α → Nat) : List α → Nat → Option (List α × List α)
  | text, 0 => some ([], text)
  | [], _ + 1 => none
  | head :: rest, offset + 1 =>
      if width head ≤ offset + 1 then
        (splitAt? width rest (offset + 1 - width head)).map fun cut =>
          (head :: cut.1, cut.2)
      else none

/-- The part before an offset. -/
def sliceTo (width : α → Nat) (text : List α) (offset : Nat) : Option (List α) :=
  (splitAt? width text offset).map Prod.fst

/-- The part from an offset on. -/
def sliceFrom (width : α → Nat) (text : List α) (offset : Nat) : Option (List α) :=
  (splitAt? width text offset).map Prod.snd

@[simp] theorem extent_nil : extent width [] = 0 := rfl

@[simp] theorem extent_cons (head : α) (rest : List α)
    : extent width (head :: rest) = width head + extent width rest := by
  simp [extent]

@[simp] theorem extent_append (left right : List α)
    : extent width (left ++ right) = extent width left + extent width right := by
  simp [extent]

@[simp] theorem splitAt?_zero (text : List α) : splitAt? width text 0 = some ([], text) := by
  cases text <;> rfl

/-- Every cut falls on the end of a prefix, and every prefix end admits that cut.
Witness: induction on the text; positive widths rule out a second prefix of equal extent.
-/
theorem splitAt?_eq_some_iff (positive : ∀ a, 0 < width a) {text : List α} {offset : Nat}
    {left right : List α}
    : splitAt? width text offset = some (left, right)
      ↔ text = left ++ right ∧ extent width left = offset := by
  induction text generalizing offset left with
  | nil =>
      cases offset with
      | zero =>
          constructor
          · rintro ⟨⟩
            exact ⟨rfl, rfl⟩
          · rintro ⟨empty, _⟩
            obtain ⟨rfl, rfl⟩ := List.append_eq_nil_iff.mp empty.symm
            rfl
      | succ offset =>
          simp only [splitAt?, reduceCtorEq, false_iff, not_and]
          intro empty
          obtain ⟨rfl, rfl⟩ := List.append_eq_nil_iff.mp empty.symm
          simp
  | cons head rest ih =>
      cases offset with
      | zero =>
          simp only [splitAt?_zero, Option.some.injEq, Prod.mk.injEq]
          constructor
          · rintro ⟨rfl, rfl⟩
            exact ⟨rfl, rfl⟩
          · rintro ⟨same, none⟩
            cases left with
            | nil => exact ⟨rfl, same⟩
            | cons first left =>
                have wide := positive first
                simp only [extent_cons] at none
                omega
      | succ offset =>
          simp only [splitAt?]
          split
          case isTrue fits =>
            simp only [Option.map_eq_some_iff, Prod.mk.injEq, Prod.exists]
            constructor
            · rintro ⟨before, after, cut, rfl, rfl⟩
              obtain ⟨same, reached⟩ := ih.mp cut
              refine ⟨by rw [same, List.cons_append], ?_⟩
              simp only [extent_cons]
              omega
            · rintro ⟨same, reached⟩
              cases left with
              | nil => simp at reached
              | cons first left =>
                  obtain ⟨rfl, tailSame⟩ := List.cons.inj same
                  simp only [extent_cons] at reached
                  exact ⟨left, right, ih.mpr ⟨tailSame, by omega⟩, rfl, rfl⟩
          case isFalse wide =>
            simp only [reduceCtorEq, false_iff, not_and]
            intro same reached
            cases left with
            | nil => simp at reached
            | cons first left =>
                obtain ⟨rfl, _⟩ := List.cons.inj same
                simp only [extent_cons] at reached
                omega

theorem sliceTo_extent (positive : ∀ a, 0 < width a) (left right : List α)
    : sliceTo width (left ++ right) (extent width left) = some left := by
  simp [sliceTo, (splitAt?_eq_some_iff positive).mpr ⟨rfl, rfl⟩]

theorem sliceFrom_extent (positive : ∀ a, 0 < width a) (left right : List α)
    : sliceFrom width (left ++ right) (extent width left) = some right := by
  simp [sliceFrom, (splitAt?_eq_some_iff positive).mpr ⟨rfl, rfl⟩]

/-- Cutting past the start drops at least one element. -/
theorem sliceFrom_length_lt (positive : ∀ a, 0 < width a) {text right : List α}
    {offset : Nat} (cut : sliceFrom width text offset = some right) (past : 0 < offset)
    : right.length < text.length := by
  obtain ⟨⟨left, right⟩, split, rfl⟩ := Option.map_eq_some_iff.mp cut
  obtain ⟨rfl, reached⟩ := (splitAt?_eq_some_iff positive).mp split
  cases left with
  | nil => simp at reached; omega
  | cons head rest => simp only [List.cons_append, List.length_cons, List.length_append]; omega

theorem sliceFrom_length_le (positive : ∀ a, 0 < width a) {text right : List α}
    {offset : Nat} (cut : sliceFrom width text offset = some right)
    : right.length ≤ text.length := by
  obtain ⟨⟨left, right⟩, split, rfl⟩ := Option.map_eq_some_iff.mp cut
  obtain ⟨rfl, _⟩ := (splitAt?_eq_some_iff positive).mp split
  simp

/-- No proper nonempty suffix of the pattern is also its prefix, so two occurrences never
overlap.
-/
def Unbordered (pattern : List α) : Prop :=
  ∀ border, border <:+ pattern → border <+: pattern → border = [] ∨ border = pattern

theorem unbordered_singleton (a : α) : Unbordered [a] := by
  intro border suffix _
  rcases List.suffix_cons_iff.mp suffix with same | empty
  · exact Or.inr same
  · exact Or.inl (List.suffix_nil.mp empty)

theorem unbordered_pair {a b : α} (distinct : a ≠ b) : Unbordered [a, b] := by
  intro border suffix leading
  rcases List.suffix_cons_iff.mp suffix with same | shorter
  · exact Or.inr same
  · rcases List.suffix_cons_iff.mp shorter with same | empty
    · subst same
      obtain ⟨same, _⟩ := List.cons_prefix_cons.mp leading
      exact absurd same.symm distinct
    · exact Or.inl (List.suffix_nil.mp empty)

variable [DecidableEq α]

/-- The text before and after the first occurrence of a pattern. -/
def breakOn (pattern : List α) : List α → Option (List α × List α)
  | [] => if pattern = [] then some ([], []) else none
  | head :: rest =>
      if pattern <+: head :: rest then some ([], (head :: rest).drop pattern.length)
      else (breakOn pattern rest).map fun parts => (head :: parts.1, parts.2)

/-- Offset of the first occurrence of a pattern. -/
def find (width : α → Nat) (pattern text : List α) : Option Nat :=
  (breakOn pattern text).map fun parts => extent width parts.1

/-- The parts rebuild the text around the pattern, which the left part does not contain.
Witness: induction on the text.
-/
theorem breakOn_eq_some {pattern text left right : List α} (nonempty : pattern ≠ [])
    (found : breakOn pattern text = some (left, right))
    : text = left ++ pattern ++ right ∧ ¬ pattern <:+: left := by
  induction text generalizing left with
  | nil => simp [breakOn, nonempty] at found
  | cons head rest ih =>
      rw [breakOn] at found
      split at found
      case isTrue here =>
        obtain ⟨rfl, rfl⟩ := Prod.mk.inj (Option.some.inj found)
        refine ⟨?_, fun inside => nonempty (List.infix_nil.mp inside)⟩
        obtain ⟨tail, same⟩ := here
        rw [← same]
        simp
      case isFalse absent =>
        obtain ⟨⟨before, after⟩, split, same⟩ := Option.map_eq_some_iff.mp found
        obtain ⟨rfl, rfl⟩ := Prod.mk.inj same
        obtain ⟨rebuilt, free⟩ := ih split
        refine ⟨by simp [rebuilt], fun inside => ?_⟩
        rcases List.infix_cons_iff.mp inside with leading | later
        · apply absent
          rw [rebuilt, List.append_assoc]
          exact leading.trans (List.prefix_append (head :: before) _)
        · exact free later

/-- Cutting where a pattern was found yields the text before it. -/
theorem sliceTo_of_breakOn (positive : ∀ a, 0 < width a) {pattern text left right : List α}
    (nonempty : pattern ≠ []) (found : breakOn pattern text = some (left, right))
    : sliceTo width text (extent width left) = some left := by
  obtain ⟨rfl, _⟩ := breakOn_eq_some nonempty found
  rw [List.append_assoc]
  exact sliceTo_extent positive left _

/-- Cutting past a found pattern yields the text after it. -/
theorem sliceFrom_of_breakOn (positive : ∀ a, 0 < width a) {pattern text left right : List α}
    (nonempty : pattern ≠ []) (found : breakOn pattern text = some (left, right))
    : sliceFrom width text (extent width left + extent width pattern) = some right := by
  obtain ⟨rfl, _⟩ := breakOn_eq_some nonempty found
  rw [← extent_append]
  exact sliceFrom_extent positive _ right

/-- A search fails exactly on texts without the pattern. -/
theorem breakOn_eq_none_iff {pattern text : List α} (nonempty : pattern ≠ [])
    : breakOn pattern text = none ↔ ¬ pattern <:+: text := by
  induction text with
  | nil => simp [breakOn, nonempty]
  | cons head rest ih =>
      rw [breakOn]
      split
      case isTrue here =>
        simp only [reduceCtorEq, false_iff, not_not]
        exact here.isInfix
      case isFalse absent =>
        rw [Option.map_eq_none_iff, ih, List.infix_cons_iff]
        simp [absent]

/-- Before the first pattern placed after pattern-free text there is no other occurrence.
Witness: an occurrence starting in that text would overlap the placed one in a border.
-/
theorem breakOn_append {pattern left : List α} (right : List α) (nonempty : pattern ≠ [])
    (unbordered : Unbordered pattern) (free : ¬ pattern <:+: left)
    : breakOn pattern (left ++ pattern ++ right) = some (left, right) := by
  induction left with
  | nil =>
      cases pattern with
      | nil => exact absurd rfl nonempty
      | cons first pattern =>
          rw [List.nil_append, List.cons_append, breakOn]
          simp
  | cons head left ih =>
      rw [List.cons_append, List.cons_append, breakOn, if_neg, ih]
      · rfl
      · exact fun inside => free (List.infix_cons inside)
      · intro leading
        rw [← List.cons_append, ← List.cons_append, List.append_assoc] at leading
        rcases List.prefix_or_prefix_of_prefix leading (List.prefix_append _ _) with
          inside | ⟨border, same⟩
        · exact free inside.isInfix
        · rw [← same, List.prefix_append_right_inj, same] at leading
          have lengths := congrArg List.length same
          simp only [List.length_append, List.length_cons] at lengths
          have shorter : border <+: pattern :=
            List.prefix_of_prefix_length_le leading (List.prefix_append _ _) (by omega)
          rcases unbordered border ⟨_, same⟩ shorter with rfl | rfl
          · exact free (by simp [← same])
          · omega

end WeightedText
