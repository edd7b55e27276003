import Cafce.Library.EncodedText
import Cafce.Model.Setting

/-! The expansion of variable references on the bytes of a text: the same loop as on its
characters, with the offsets, the slices and the boundary checks of the source.
-/

namespace Cafce

open DelimitedTemplate EncodedText WeightedText

/-- `u8::is_utf8_char_boundary` -/
def isUtf8CharBoundary (byte : UInt8) : Bool :=
  byte < 128 || 192 ≤ byte

/-- `str::is_char_boundary` -/
def isCharBoundary (bytes : List UInt8) (index : Nat) : Bool :=
  isBoundary isUtf8CharBoundary bytes index

/-- `str::find` -/
def byteFind (pattern : String) (bytes : List UInt8) : Option Nat :=
  (breakOn (asBytes pattern) bytes).map fun parts => parts.1.length

/-- `&text[..index]`; indexing panics where the index is no boundary. -/
def byteSliceTo (bytes : List UInt8) (index : Nat) : Option (List UInt8) :=
  if isCharBoundary bytes index then some (bytes.take index) else none

/-- `&text[index..]`; indexing panics where the index is no boundary. -/
def byteSliceFrom (bytes : List UInt8) (index : Nat) : Option (List UInt8) :=
  if isCharBoundary bytes index then some (bytes.drop index) else none

/-- What one pass of the loop of `expand_env_vars` does. -/
inductive ByteExpansion
  | finished (result : List UInt8)
  | failed (error : SettingError)
  | continued (remaining result : List UInt8)
deriving DecidableEq, Repr

/-- One pass of the loop: `none` where a slice would panic or a name would not be a text. -/
def byteStep (var : Variables) (remaining result : List UInt8) : Option ByteExpansion :=
  match byteFind "$\x7b" remaining with
  | none => some (.finished (result ++ remaining))
  | some dollarPos => do
      let literal ← byteSliceTo remaining dollarPos
      let afterBrace ← byteSliceFrom remaining (dollarPos + 2)
      match byteFind "\x7d" afterBrace with
      | none => some (.failed .unterminatedVariableRef)
      | some closePos => do
          let varName ← (byteSliceTo afterBrace closePos).bind fromUtf8?
          match var varName with
          | none => some (.failed (.undefinedVariable varName))
          | some value => do
              let rest ← byteSliceFrom afterBrace (closePos + 1)
              some (.continued rest (result ++ literal ++ asBytes value))

theorem byteSliceFrom_eq_some {bytes rest : List UInt8} {index : Nat}
    (cut : byteSliceFrom bytes index = some rest)
    : index ≤ bytes.length ∧ rest = bytes.drop index := by
  rw [byteSliceFrom] at cut
  split at cut
  case isTrue boundary => exact ⟨le_of_isBoundary boundary, (Option.some.inj cut).symm⟩
  case isFalse => cases cut

/-- A pass that continues has consumed a part of the bytes. -/
theorem byteStep_shorter {var : Variables} {remaining result rest next : List UInt8}
    (step : byteStep var remaining result = some (.continued rest next))
    : rest.length < remaining.length := by
  rw [byteStep] at step
  split at step
  · cases step
  · obtain ⟨literal, _, step⟩ := Option.bind_eq_some_iff.mp step
    obtain ⟨afterBrace, opened, step⟩ := Option.bind_eq_some_iff.mp step
    split at step
    · cases step
    · obtain ⟨varName, _, step⟩ := Option.bind_eq_some_iff.mp step
      split at step
      · cases step
      · obtain ⟨after, closed, step⟩ := Option.bind_eq_some_iff.mp step
        cases step
        obtain ⟨within, rfl⟩ := byteSliceFrom_eq_some opened
        obtain ⟨_, rfl⟩ := byteSliceFrom_eq_some closed
        simp only [List.length_drop]
        omega

/-- The loop of `expand_env_vars`: `none` where it would panic. -/
def byteLoop (var : Variables) (remaining result : List UInt8)
    : Option (Except SettingError (List UInt8)) :=
  match _step : byteStep var remaining result with
  | none => none
  | some (.finished result) => some (.ok result)
  | some (.failed error) => some (.error error)
  | some (.continued rest next) => byteLoop var rest next
termination_by remaining.length
decreasing_by exact byteStep_shorter _step

theorem isUtf8CharBoundary_eq_true_iff {byte : UInt8}
    : isUtf8CharBoundary byte = true ↔ byte.toNat < 128 ∨ 192 ≤ byte.toNat := by
  simp [isUtf8CharBoundary, UInt8.lt_iff_toNat_lt, UInt8.le_iff_toNat_le]

/-- A character is one byte, or a byte from 192 on and continuation bytes. -/
theorem utf8EncodeChar_led (char : Char)
    : ∃ first rest, String.utf8EncodeChar char = first :: rest
      ∧ isUtf8CharBoundary first = true
      ∧ ∀ byte ∈ rest, isUtf8CharBoundary byte = false := by
  have continuation {byte : UInt8} : isUtf8CharBoundary byte = false
      ↔ 128 ≤ byte.toNat ∧ byte.toNat < 192 := by
    rw [← Bool.not_eq_true, isUtf8CharBoundary_eq_true_iff]
    omega
  simp only [isUtf8CharBoundary_eq_true_iff, continuation]
  rw [String.utf8EncodeChar]
  generalize char.val.toNat = value
  split
  · refine ⟨_, _, rfl, ?_, by simp⟩
    rw [UInt8.toNat_ofNat']
    omega
  · split
    · refine ⟨_, _, rfl, ?_, ?_⟩ <;> simp <;> omega
    · split <;> refine ⟨_, _, rfl, ?_, ?_⟩ <;> simp <;> omega

/-- A character is decoded from its first bytes, whatever follows them. -/
theorem utf8EncodeChar_prefixFree {a b : Char}
    (leading : String.utf8EncodeChar a <+: String.utf8EncodeChar b)
    : a = b := by
  obtain ⟨rest, same⟩ := leading
  have first : ((String.utf8EncodeChar a).toByteArray
      ++ rest.toByteArray).utf8DecodeChar? 0 = some a :=
    ByteArray.utf8DecodeChar?_utf8EncodeChar_append
  have whole : ((String.utf8EncodeChar b).toByteArray
      ++ ([] : List UInt8).toByteArray).utf8DecodeChar? 0 = some b :=
    ByteArray.utf8DecodeChar?_utf8EncodeChar_append
  rw [← List.toByteArray_append, same] at first
  rw [← List.toByteArray_append, List.append_nil, first] at whole
  exact Option.some.inj whole

/-- UTF-8 -/
def utf8 : Code Char UInt8 where
  encode := String.utf8EncodeChar
  leads := isUtf8CharBoundary
  led := utf8EncodeChar_led
  prefixFree := utf8EncodeChar_prefixFree

theorem asBytes_eq_spell (text : String) : asBytes text = utf8.spell text.toList :=
  asBytes_eq_flatMap text

theorem asBytes_ofList (text : List Char) : asBytes (String.ofList text) = utf8.spell text := by
  rw [asBytes_eq_spell, String.toList_ofList]

theorem fromUtf8?_spell (text : List Char)
    : fromUtf8? (utf8.spell text) = some (String.ofList text) := by
  rw [← asBytes_ofList, fromUtf8?_asBytes]

theorem byteFind_spell {pattern : String} (nonempty : pattern.toList ≠ []) (text : List Char)
    : byteFind pattern (utf8.spell text)
      = (breakOn pattern.toList text).map fun parts => (utf8.spell parts.1).length := by
  rw [byteFind, asBytes_eq_spell, utf8.breakOn_spell nonempty, Option.map_map]
  rfl

theorem byteSliceTo_spell (left right : List Char)
    : byteSliceTo (utf8.spell (left ++ right)) (utf8.spell left).length
      = some (utf8.spell left) := by
  have boundary : isCharBoundary (utf8.spell (left ++ right)) (utf8.spell left).length = true :=
    utf8.isBoundary_spell left right
  rw [byteSliceTo, if_pos boundary, Code.spell_append, List.take_left]

theorem byteSliceFrom_spell (left right : List Char)
    : byteSliceFrom (utf8.spell (left ++ right)) (utf8.spell left).length
      = some (utf8.spell right) := by
  have boundary : isCharBoundary (utf8.spell (left ++ right)) (utf8.spell left).length = true :=
    utf8.isBoundary_spell left right
  rw [byteSliceFrom, if_pos boundary, Code.spell_append, List.drop_left]

/-- Slicing where a pattern was found yields the text before it. -/
theorem byteSliceTo_of_breakOn {pattern text left right : List Char} (nonempty : pattern ≠ [])
    (found : breakOn pattern text = some (left, right))
    : byteSliceTo (utf8.spell text) (utf8.spell left).length = some (utf8.spell left) := by
  obtain ⟨rfl, _⟩ := breakOn_eq_some nonempty found
  rw [List.append_assoc]
  exact byteSliceTo_spell left _

/-- Slicing past a found pattern yields the text behind it. -/
theorem byteSliceFrom_of_breakOn {pattern text left right : List Char}
    (nonempty : pattern ≠ []) (found : breakOn pattern text = some (left, right))
    : byteSliceFrom (utf8.spell text)
        ((utf8.spell left).length + (utf8.spell pattern).length)
      = some (utf8.spell right) := by
  obtain ⟨rfl, _⟩ := breakOn_eq_some nonempty found
  rw [← List.length_append, ← Code.spell_append]
  exact byteSliceFrom_spell _ right

theorem byteFind_opening (text : List Char)
    : byteFind "$\x7b" (utf8.spell text)
      = (breakOn references.opening text).map fun parts => (utf8.spell parts.1).length :=
  byteFind_spell references.opening_ne_nil text

theorem byteFind_closing (text : List Char)
    : byteFind "\x7d" (utf8.spell text)
      = (breakOn references.closing text).map fun parts => (utf8.spell parts.1).length :=
  byteFind_spell references.closing_ne_nil text

/-- The opening delimiter takes two bytes. -/
theorem byteSliceFrom_opening {text left right : List Char}
    (opened : breakOn references.opening text = some (left, right))
    : byteSliceFrom (utf8.spell text) ((utf8.spell left).length + 2)
      = some (utf8.spell right) := by
  have width : (utf8.spell references.opening).length = 2 := by decide
  rw [← width]
  exact byteSliceFrom_of_breakOn references.opening_ne_nil opened

/-- The closing delimiter takes one byte. -/
theorem byteSliceFrom_closing {text left right : List Char}
    (closed : breakOn references.closing text = some (left, right))
    : byteSliceFrom (utf8.spell text) ((utf8.spell left).length + 1)
      = some (utf8.spell right) := by
  have width : (utf8.spell references.closing).length = 1 := by decide
  rw [← width]
  exact byteSliceFrom_of_breakOn references.closing_ne_nil closed

/-- A pass over characters, as a pass over their bytes. -/
def Expansion.bytes : Expansion → ByteExpansion
  | .finished result => .finished (utf8.spell result)
  | .failed error => .failed error
  | .continued remaining result => .continued (utf8.spell remaining) (utf8.spell result)

/-- A pass over the bytes of a text is the pass over its characters. -/
theorem byteStep_spell (var : Variables) (remaining result : List Char)
    : byteStep var (utf8.spell remaining) (utf8.spell result)
      = (expandStep var remaining result).map Expansion.bytes := by
  rw [expandStep_eq, byteStep, byteFind_opening]
  cases opened : breakOn references.opening remaining with
  | none => simp [Expansion.bytes]
  | some parts =>
      obtain ⟨literal, after⟩ := parts
      have before := byteSliceTo_of_breakOn references.opening_ne_nil opened
      have behind := byteSliceFrom_opening opened
      simp only [Option.map_some, before, behind, byteFind_closing, Option.bind_eq_bind,
        Option.bind_some]
      cases closed : breakOn references.closing after with
      | none => rfl
      | some parts =>
          obtain ⟨name, rest⟩ := parts
          have inside := byteSliceTo_of_breakOn references.closing_ne_nil closed
          have outside := byteSliceFrom_closing closed
          simp only [Option.map_some, inside, outside, fromUtf8?_spell, Option.bind_some,
            charEnv]
          cases var (String.ofList name) with
          | none => rfl
          | some value => simp [Expansion.bytes, asBytes_eq_spell]

theorem byteLoop_eq (var : Variables) (remaining result : List UInt8)
    : byteLoop var remaining result
      = (byteStep var remaining result).bind fun
        | .finished result => some (.ok result)
        | .failed error => some (.error error)
        | .continued rest next => byteLoop var rest next := by
  rw [byteLoop]
  split <;> simp_all

/-- The loop over the bytes of a text is the loop over its characters.
Witness: induction along the loop over the characters, pass by pass.
-/
theorem byteLoop_spell (var : Variables) (remaining result : List Char)
    : byteLoop var (utf8.spell remaining) (utf8.spell result)
      = (expandLoop var remaining result).map fun outcome => outcome.map utf8.spell := by
  have pass := byteStep_spell var remaining result
  fun_induction expandLoop var remaining result with
  | case1 remaining result step =>
      rw [byteLoop_eq, pass, step]
      rfl
  | case2 remaining result text step =>
      rw [byteLoop_eq, pass, step]
      rfl
  | case3 remaining result error step =>
      rw [byteLoop_eq, pass, step]
      rfl
  | case4 remaining result rest next step ih =>
      rw [byteLoop_eq, pass, step]
      exact ih (byteStep_spell var rest next)

/-- On the bytes of a text the loop returns the bytes of its expansion. -/
theorem byteLoop_asBytes (var : Variables) (s : String)
    : byteLoop var (asBytes s) [] = some ((expandEnvVars var s).map asBytes) := by
  have loop := byteLoop_spell var s.toList []
  rw [← asBytes_eq_spell, Code.spell_nil] at loop
  simp only [loop, expandEnvVars, expandLoop_eq, Option.get_some, Option.map_some]
  cases expanded [] ((parse references s.toList).eval (charEnv var)) <;>
    simp [Except.map, asBytes_ofList]

end Cafce
