import Cafce.Library.SeparatedText
import Cafce.Library.WeightedText

/-! Texts spelled in units of a code whose words can be told apart at any unit.
Searching the units for a spelled pattern finds the pattern, and every cut between two
elements of a text falls on a boundary between two words.
-/

namespace EncodedText

open WeightedText

variable {α β : Type*}

/-- Words begin with a leading unit and hold no other, and no word begins another. -/
structure Code (α β : Type*) where
  encode : α → List β
  leads : β → Bool
  led : ∀ a, ∃ first rest, encode a = first :: rest ∧ leads first = true
    ∧ ∀ unit ∈ rest, leads unit = false
  prefixFree : ∀ {a b}, encode a <+: encode b → a = b

/-- The units of a text. -/
def Code.spell (code : Code α β) (text : List α) : List β :=
  text.flatMap code.encode

/-- An offset at which units can be cut: at either end, or before a leading unit. -/
def isBoundary (leads : β → Bool) (units : List β) (offset : Nat) : Bool :=
  if offset = 0 then true
  else if units.length ≤ offset then offset = units.length
  else (units[offset]?).any leads

@[simp] theorem Code.spell_nil (code : Code α β) : code.spell [] = [] := rfl

@[simp] theorem Code.spell_cons (code : Code α β) (head : α) (rest : List α)
    : code.spell (head :: rest) = code.encode head ++ code.spell rest := rfl

@[simp] theorem Code.spell_append (code : Code α β) (left right : List α)
    : code.spell (left ++ right) = code.spell left ++ code.spell right :=
  List.flatMap_append

theorem Code.spell_ne_nil (code : Code α β) {text : List α} (nonempty : text ≠ [])
    : code.spell text ≠ [] := by
  cases text with
  | nil => exact absurd rfl nonempty
  | cons head rest =>
      obtain ⟨first, units, encoded, _⟩ := code.led head
      simp [encoded]

theorem le_of_isBoundary {leads : β → Bool} {units : List β} {offset : Nat}
    (boundary : isBoundary leads units offset = true)
    : offset ≤ units.length := by
  rw [isBoundary] at boundary
  split at boundary
  · omega
  · split at boundary
    · exact le_of_eq (of_decide_eq_true boundary)
    · omega

/-- A cut between two elements of a text is a boundary of its units. -/
theorem Code.isBoundary_spell (code : Code α β) (left right : List α)
    : isBoundary code.leads (code.spell (left ++ right)) (code.spell left).length = true := by
  rw [isBoundary, Code.spell_append]
  cases right with
  | nil => simp
  | cons head right =>
      obtain ⟨first, rest, encoded, leading, _⟩ := code.led head
      simp [encoded, leading]

/-- A spelled pattern leads a spelled text only as a pattern leads a text. -/
theorem Code.spell_prefix_iff (code : Code α β) {pattern text : List α}
    : code.spell pattern <+: code.spell text ↔ pattern <+: text := by
  refine ⟨?_, ?_⟩
  · intro leading
    induction pattern generalizing text with
    | nil => exact List.nil_prefix
    | cons a pattern ih =>
        cases text with
        | nil =>
            have empty := List.prefix_nil.mp leading
            exact absurd empty (code.spell_ne_nil (List.cons_ne_nil a pattern))
        | cons b text =>
            rw [Code.spell_cons, Code.spell_cons] at leading
            have first := (List.prefix_append (code.encode a) _).trans leading
            have same : a = b := by
              rcases List.prefix_or_prefix_of_prefix first (List.prefix_append _ _) with
                shorter | shorter
              · exact code.prefixFree shorter
              · exact (code.prefixFree shorter).symm
            subst same
            rw [List.prefix_append_right_inj] at leading
            exact List.cons_prefix_cons.mpr ⟨rfl, ih leading⟩
  · intro leading
    obtain ⟨rest, rfl⟩ := leading
    rw [Code.spell_append]
    exact List.prefix_append _ _

/-- A separator that is one unit is spelled nowhere else. -/
theorem Code.not_mem_spell (code : Code α β) {separator : α} {unit : β}
    (single : code.encode separator = [unit]) {text : List α} (free : separator ∉ text)
    : unit ∉ code.spell text := by
  obtain ⟨_, _, encoded, leading, _⟩ := code.led separator
  obtain ⟨rfl, _⟩ := List.cons.inj (single.symm.trans encoded)
  intro member
  obtain ⟨a, inText, inWord⟩ := List.mem_flatMap.mp member
  obtain ⟨first, rest, word, _, trailing⟩ := code.led a
  rw [word] at inWord
  rcases List.mem_cons.mp inWord with rfl | later
  · have same : separator = a := by
      apply code.prefixFree
      rw [single, word]
      exact ⟨rest, rfl⟩
    exact free (same ▸ inText)
  · rw [trailing _ later] at leading
    cases leading

theorem Code.spell_intercalate (code : Code α β) {separator : α} {unit : β}
    (single : code.encode separator = [unit]) (parts : List (List α))
    : code.spell ([separator].intercalate parts) = [unit].intercalate (parts.map code.spell) := by
  induction parts with
  | nil => rfl
  | cons part parts ih =>
      cases parts with
      | nil => simp
      | cons next parts =>
          have more : next :: parts ≠ [] := List.cons_ne_nil _ _
          have spelledMore : (next :: parts).map code.spell ≠ [] := List.cons_ne_nil _ _
          rw [List.intercalate_cons_of_ne_nil more, List.map_cons,
            List.intercalate_cons_of_ne_nil spelledMore, Code.spell_append, Code.spell_append,
            ih, Code.spell_cons, Code.spell_nil, List.append_nil, single]

variable [DecidableEq α] [DecidableEq β]

/-- No pattern that begins with a leading unit is found at units that do not lead. -/
theorem breakOn_skip {leads : β → Bool} {first : β} {pattern units : List β} (rest : List β)
    (leading : leads first = true) (trailing : ∀ unit ∈ units, leads unit = false)
    : breakOn (first :: pattern) (units ++ rest)
      = (breakOn (first :: pattern) rest).map fun parts => (units ++ parts.1, parts.2) := by
  induction units with
  | nil => simp
  | cons unit units ih =>
      obtain ⟨trails, trailing⟩ := List.forall_mem_cons.mp trailing
      have absent : ¬ first :: pattern <+: unit :: (units ++ rest) := by
        intro here
        obtain ⟨rfl, _⟩ := List.cons_prefix_cons.mp here
        rw [leading] at trails
        cases trails
      rw [List.cons_append, breakOn, if_neg absent, ih trailing, Option.map_map]
      rfl

/-- Breaking the units of a text on a spelled pattern is breaking the text on the pattern.
Witness: induction on the text; between two words no unit leads.
-/
theorem Code.breakOn_spell (code : Code α β) {pattern : List α} (nonempty : pattern ≠ [])
    (text : List α)
    : breakOn (code.spell pattern) (code.spell text)
      = (breakOn pattern text).map fun parts => (code.spell parts.1, code.spell parts.2) := by
  induction text with
  | nil => simp [breakOn, nonempty, code.spell_ne_nil nonempty]
  | cons head text ih =>
      obtain ⟨first, rest, encoded, _, trailing⟩ := code.led head
      have spelled : code.spell (head :: text) = first :: (rest ++ code.spell text) := by
        rw [Code.spell_cons, encoded, List.cons_append]
      by_cases here : pattern <+: head :: text
      · have found := code.spell_prefix_iff.mpr here
        obtain ⟨after, rebuilt⟩ := here
        rw [spelled] at found
        rw [spelled, breakOn, if_pos found, breakOn, if_pos ⟨after, rebuilt⟩, ← spelled,
          ← rebuilt]
        simp
      · have absent : ¬ code.spell pattern <+: first :: (rest ++ code.spell text) := by
          rwa [← spelled, code.spell_prefix_iff]
        cases pattern with
        | nil => exact absurd rfl nonempty
        | cons opening pattern =>
            obtain ⟨lead, units, openingEncoded, leading, _⟩ := code.led opening
            have skipped : breakOn (lead :: (units ++ code.spell pattern))
                  (rest ++ code.spell text)
                = (breakOn (lead :: (units ++ code.spell pattern)) (code.spell text)).map
                  fun parts => (rest ++ parts.1, parts.2) :=
              breakOn_skip (code.spell text) leading trailing
            rw [Code.spell_cons, openingEncoded, List.cons_append] at absent ih ⊢
            rw [spelled, breakOn, if_neg absent, skipped, ih, breakOn, if_neg here]
            simp [encoded, Option.map_map, Function.comp_def]

/-- Splitting the units of a text at such a separator is splitting the text. -/
theorem Code.splitOn_spell (code : Code α β) {separator : α} {unit : β}
    (single : code.encode separator = [unit]) (text : List α)
    : (code.spell text).splitOn unit = (text.splitOn separator).map code.spell := by
  have free : ∀ part ∈ (text.splitOn separator).map code.spell, unit ∉ part := by
    intro part member
    obtain ⟨chars, inside, rfl⟩ := List.mem_map.mp member
    exact code.not_mem_spell single (SeparatedText.not_mem_of_mem_splitOn inside)
  rw [← List.splitOn_intercalate unit free (by simp [List.splitOn_ne_nil]),
    ← code.spell_intercalate single, List.intercalate_splitOn]

end EncodedText
