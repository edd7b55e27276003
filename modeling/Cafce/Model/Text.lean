import Cafce.Library.WeightedText

/-! Strings of the source: UTF-8 bytes, decoding, and searches and slices by byte offset.
A `str` is its sequence of Unicode scalar values, so it is valid UTF-8 by construction;
offsets count the bytes of their encoding.
-/

namespace Cafce

/-- An error of the standard library, a dependency or a service, known by its text. -/
structure ForeignError where
  message : String
deriving DecidableEq, Repr

/-- `str::as_bytes` -/
def asBytes (text : String) : List UInt8 :=
  text.toByteArray.data.toList

/-- `String::from_utf8` -/
def fromUtf8? (bytes : List UInt8) : Option String :=
  String.fromUTF8? bytes.toByteArray

theorem asBytes_injective : Function.Injective asBytes := by
  intro left right same
  exact String.toByteArray_inj.mp (ByteArray.ext (Array.toList_inj.mp same))

theorem asBytes_eq_flatMap (text : String)
    : asBytes text = text.toList.flatMap String.utf8EncodeChar := by
  simp [asBytes, ← String.utf8Encode_toList, List.utf8Encode]

theorem toByteArray_asBytes (text : String) : (asBytes text).toByteArray = text.toByteArray := by
  apply ByteArray.ext
  simp [asBytes]

@[simp] theorem fromUtf8?_asBytes (text : String) : fromUtf8? (asBytes text) = some text := by
  have valid : (asBytes text).toByteArray.IsValidUTF8 := by
    rw [toByteArray_asBytes]
    exact text.isValidUTF8
  rw [fromUtf8?, String.fromUTF8?, dif_pos valid, Option.some.injEq]
  apply String.toByteArray_inj.mp
  rw [← toByteArray_asBytes text]
  rfl

/-- Second bytes that can follow the lead byte of a sequence of three or four. -/
def acceptsSecond (lead second : UInt8) : Bool :=
  if lead = 0xE0 then 0xA0 ≤ second && second ≤ 0xBF
  else if lead = 0xED then 0x80 ≤ second && second ≤ 0x9F
  else if lead = 0xF0 then 0x90 ≤ second && second ≤ 0xBF
  else if lead = 0xF4 then 0x80 ≤ second && second ≤ 0x8F
  else 0x80 ≤ second && second ≤ 0xBF

/-- Bytes that one replacement character stands for where no character can be decoded. -/
def invalidLength (lead : UInt8) (rest : List UInt8) : Nat :=
  if 0xE0 ≤ lead && lead ≤ 0xF4 && acceptsSecond lead (rest.getD 0 0) then
    if 0xF0 ≤ lead && 0x80 ≤ rest.getD 1 0 && rest.getD 1 0 ≤ 0xBF then 3 else 2
  else 1

/-- Characters of a byte string, with U+FFFD for what is not UTF-8. -/
def lossyChars : List UInt8 → List Char
  | [] => []
  | lead :: rest =>
      match (lead :: rest).toByteArray.utf8DecodeChar? 0 with
      | some char => char :: lossyChars (rest.drop (char.utf8Size - 1))
      | none => '\uFFFD' :: lossyChars (rest.drop (invalidLength lead rest - 1))
termination_by bytes => bytes.length
decreasing_by all_goals simp only [List.length_drop, List.length_cons]; omega

/-- `String::from_utf8_lossy` -/
def fromUtf8Lossy (bytes : List UInt8) : String :=
  String.ofList (lossyChars bytes)

/-- Lossy decoding loses nothing of an encoded text, by induction on its characters. -/
@[simp] theorem fromUtf8Lossy_asBytes (text : String) : fromUtf8Lossy (asBytes text) = text := by
  have chars (cs : List Char) : lossyChars (cs.flatMap String.utf8EncodeChar) = cs := by
    induction cs with
    | nil => simp [lossyChars]
    | cons char cs ih =>
        have size := String.length_utf8EncodeChar char
        have positive := char.utf8Size_pos
        have decoded : (String.utf8EncodeChar char
            ++ cs.flatMap String.utf8EncodeChar).toByteArray.utf8DecodeChar? 0
            = some char := by
          rw [List.toByteArray_append]
          exact ByteArray.utf8DecodeChar?_utf8EncodeChar_append
        rw [List.flatMap_cons]
        cases encoded : String.utf8EncodeChar char with
        | nil => simp only [encoded, List.length_nil] at size; omega
        | cons lead rest =>
            rw [encoded, List.cons_append] at decoded
            have skip : rest.length = char.utf8Size - 1 := by
              simp only [encoded, List.length_cons] at size
              omega
            rw [List.cons_append, lossyChars, decoded]
            simp only
            rw [List.drop_left' skip, ih]
  rw [fromUtf8Lossy, asBytes_eq_flatMap, chars, String.ofList_toList]

/-- `str::find`: byte offset of the first occurrence. -/
def strFind (pattern : String) (text : List Char) : Option Nat :=
  WeightedText.find Char.utf8Size pattern.toList text

/-- `&text[..offset]`; indexing panics where there is no slice. -/
def sliceTo (text : List Char) (offset : Nat) : Option (List Char) :=
  WeightedText.sliceTo Char.utf8Size text offset

/-- `&text[offset..]`; indexing panics where there is no slice. -/
def sliceFrom (text : List Char) (offset : Nat) : Option (List Char) :=
  WeightedText.sliceFrom Char.utf8Size text offset

end Cafce
