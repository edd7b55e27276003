import Cafce.Model.ByteExpansion

/-! The expansion loop on the bytes of a text, pass by pass: every offset it slices at lies
between two characters, what is left is a shorter text, and no byte of the input is lost.
-/

namespace Cafce

open DelimitedTemplate EncodedText WeightedText

/-- The parts that a pass takes off the front: a literal, `${`, a name and `}`. -/
def consumed (remaining : List UInt8) : List (List UInt8) :=
  match byteFind "$\x7b" remaining with
  | none => []
  | some dollarPos =>
      let afterBrace := remaining.drop (dollarPos + 2)
      match byteFind "\x7d" afterBrace with
      | none => []
      | some closePos =>
          [remaining.take dollarPos, asBytes "$\x7b", afterBrace.take closePos, asBytes "\x7d"]

/-- The loop over the input comes to its head with these bytes left and this result written,
after it has consumed the pieces.
-/
inductive Reaches (var : Variables) (input : List UInt8)
    : List (List UInt8) → List UInt8 → List UInt8 → Prop
  | start : Reaches var input [] input []
  | pass {pieces : List (List UInt8)} {remaining result rest next : List UInt8} :
      Reaches var input pieces remaining result
      → byteStep var remaining result = some (.continued rest next)
      → Reaches var input (pieces ++ consumed remaining) rest next

/-- The offset lies in the bytes and on a boundary, with a text before and a text behind it. -/
structure Cuts (bytes : List UInt8) (offset : Nat) : Prop where
  within : offset ≤ bytes.length
  boundary : isCharBoundary bytes offset = true
  before : (fromUtf8? (bytes.take offset)).isSome
  behind : (fromUtf8? (bytes.drop offset)).isSome

/-- What one pass can rely on: its offsets cut the bytes they index, no slice panics, the bytes
are UTF-8, and a pass that continues leaves fewer of them.
-/
structure SafePass (var : Variables) (remaining result : List UInt8) : Prop where
  opening : ∀ dollarPos, byteFind "$\x7b" remaining = some dollarPos
    → Cuts remaining dollarPos ∧ Cuts remaining (dollarPos + 2)
  closing : ∀ dollarPos closePos, byteFind "$\x7b" remaining = some dollarPos
    → byteFind "\x7d" (remaining.drop (dollarPos + 2)) = some closePos
    → Cuts (remaining.drop (dollarPos + 2)) closePos
      ∧ Cuts (remaining.drop (dollarPos + 2)) (closePos + 1)
  steps : (byteStep var remaining result).isSome
  text : (fromUtf8? remaining).isSome
  shorter : ∀ rest next, byteStep var remaining result = some (.continued rest next)
    → rest.length < remaining.length

/-- What the loop does on the bytes of a text, at every head it comes to and in the end. -/
structure SafeExpansion (var : Variables) (s : String) : Prop where
  passes : ∀ pieces remaining result, Reaches var (asBytes s) pieces remaining result
    → SafePass var remaining result
  rebuilds : ∀ pieces remaining result, Reaches var (asBytes s) pieces remaining result
    → pieces.flatten ++ remaining = asBytes s
  returns : byteLoop var (asBytes s) [] = some ((expandEnvVars var s).map asBytes)

/-- An offset between two characters cuts their bytes. -/
theorem cuts_spell (left right : List Char)
    : Cuts (utf8.spell (left ++ right)) (utf8.spell left).length := by
  have boundary := utf8.isBoundary_spell left right
  refine ⟨le_of_isBoundary boundary, boundary, ?_, ?_⟩ <;> simp [fromUtf8?_spell]

/-- Where a pattern is found, both its ends cut the text. -/
theorem cuts_of_breakOn {pattern text left right : List Char} (nonempty : pattern ≠ [])
    (found : breakOn pattern text = some (left, right))
    : Cuts (utf8.spell text) (utf8.spell left).length
      ∧ Cuts (utf8.spell text) ((utf8.spell left).length + (utf8.spell pattern).length) := by
  obtain ⟨rfl, _⟩ := breakOn_eq_some nonempty found
  have before := cuts_spell left (pattern ++ right)
  have behind := cuts_spell (left ++ pattern) right
  rw [← List.append_assoc] at before
  rw [Code.spell_append utf8 left pattern, List.length_append] at behind
  exact ⟨before, behind⟩

theorem cuts_opening {text left right : List Char}
    (opened : breakOn references.opening text = some (left, right))
    : Cuts (utf8.spell text) (utf8.spell left).length
      ∧ Cuts (utf8.spell text) ((utf8.spell left).length + 2) :=
  cuts_of_breakOn references.opening_ne_nil opened

theorem cuts_closing {text left right : List Char}
    (closed : breakOn references.closing text = some (left, right))
    : Cuts (utf8.spell text) (utf8.spell left).length
      ∧ Cuts (utf8.spell text) ((utf8.spell left).length + 1) :=
  cuts_of_breakOn references.closing_ne_nil closed

/-- Behind the opening delimiter, the text after it begins. -/
theorem drop_opening {text left right : List Char}
    (opened : breakOn references.opening text = some (left, right))
    : (utf8.spell text).drop ((utf8.spell left).length + 2) = utf8.spell right :=
  (byteSliceFrom_eq_some (byteSliceFrom_opening opened)).2.symm

/-- A pass over the bytes of a text is safe. -/
theorem safePass_spell (var : Variables) (remaining result : List Char)
    : SafePass var (utf8.spell remaining) (utf8.spell result) where
  opening := by
    intro dollarPos found
    rw [byteFind_opening, Option.map_eq_some_iff] at found
    obtain ⟨⟨literal, after⟩, opened, rfl⟩ := found
    exact cuts_opening opened
  closing := by
    intro dollarPos closePos found closing
    rw [byteFind_opening, Option.map_eq_some_iff] at found
    obtain ⟨⟨literal, after⟩, opened, rfl⟩ := found
    rw [drop_opening opened, byteFind_closing, Option.map_eq_some_iff] at closing
    obtain ⟨⟨name, rest⟩, closed, rfl⟩ := closing
    rw [drop_opening opened]
    exact cuts_closing closed
  steps := by simp [byteStep_spell, expandStep_eq]
  text := by simp [fromUtf8?_spell]
  shorter := fun _ _ step => byteStep_shorter step

/-- A pass that continues goes on behind the first complete reference of the text. -/
theorem exists_of_byteStep_continued {var : Variables} {remaining result : List Char}
    {rest next : List UInt8}
    (step : byteStep var (utf8.spell remaining) (utf8.spell result)
      = some (.continued rest next))
    : ∃ literal after name behind value,
        breakOn references.opening remaining = some (literal, after)
        ∧ breakOn references.closing after = some (name, behind)
        ∧ rest = utf8.spell behind
        ∧ next = utf8.spell (result ++ literal ++ value) := by
  rw [byteStep_spell, expandStep_eq] at step
  cases opened : breakOn references.opening remaining with
  | none => simp [opened, Expansion.bytes] at step
  | some parts =>
      obtain ⟨literal, after⟩ := parts
      cases closed : breakOn references.closing after with
      | none => simp [opened, closed, Expansion.bytes] at step
      | some parts =>
          obtain ⟨name, behind⟩ := parts
          cases found : charEnv var name with
          | none => simp [opened, closed, found, Expansion.bytes] at step
          | some value =>
              simp only [opened, closed, found, Option.map_some, Expansion.bytes,
                Option.some.injEq, ByteExpansion.continued.injEq] at step
              exact ⟨literal, after, name, behind, value, rfl, closed, step.1.symm, step.2.symm⟩

/-- The consumed parts stand in front of what a pass leaves. -/
theorem consumed_append {remaining literal after name rest : List Char}
    (opened : breakOn references.opening remaining = some (literal, after))
    (closed : breakOn references.closing after = some (name, rest))
    : (consumed (utf8.spell remaining)).flatten ++ utf8.spell rest = utf8.spell remaining := by
  rw [consumed, byteFind_opening, opened]
  simp only [Option.map_some, drop_opening opened, byteFind_closing, closed]
  obtain ⟨rfl, _⟩ := breakOn_eq_some references.opening_ne_nil opened
  obtain ⟨rfl, _⟩ := breakOn_eq_some references.closing_ne_nil closed
  have openingBytes : asBytes "$\x7b" = utf8.spell references.opening := asBytes_eq_spell _
  have closingBytes : asBytes "\x7d" = utf8.spell references.closing := asBytes_eq_spell _
  simp [openingBytes, closingBytes, List.append_assoc]

/-- At every head of the loop the bytes left are a text, and with the pieces they are the input.
Witness: induction on the passes; each goes on behind a complete reference.
-/
theorem Reaches.spelled {var : Variables} {text : List Char} {pieces : List (List UInt8)}
    {remaining result : List UInt8}
    (reached : Reaches var (utf8.spell text) pieces remaining result)
    : ∃ chars written,
        remaining = utf8.spell chars
        ∧ result = utf8.spell written
        ∧ pieces.flatten ++ remaining = utf8.spell text := by
  induction reached with
  | start => exact ⟨text, [], rfl, rfl, by simp⟩
  | pass reached step ih =>
      obtain ⟨chars, written, rfl, rfl, rebuilt⟩ := ih
      obtain ⟨literal, after, name, behind, value, opened, closed, rfl, rfl⟩ :=
        exists_of_byteStep_continued step
      refine ⟨behind, written ++ literal ++ value, rfl, rfl, ?_⟩
      rw [List.flatten_append, List.append_assoc, consumed_append opened closed, rebuilt]

/-- On every text and in every environment the loop cuts the text between characters only,
shortens it at every pass, keeps every byte of it and comes to an end.
-/
theorem safeExpansion (var : Variables) (s : String) : SafeExpansion var s where
  passes := by
    intro pieces remaining result reached
    rw [asBytes_eq_spell] at reached
    obtain ⟨chars, written, rfl, rfl, _⟩ := reached.spelled
    exact safePass_spell var chars written
  rebuilds := by
    intro pieces remaining result reached
    rw [asBytes_eq_spell] at reached ⊢
    obtain ⟨_, _, _, _, rebuilt⟩ := reached.spelled
    exact rebuilt
  returns := byteLoop_asBytes var s

end Cafce
