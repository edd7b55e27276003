import Cafce.Library.SeparatedText
import Cafce.Model.ByteExpansion
import Cafce.Model.Paths

/-! What lossy decoding keeps of bytes that need not be UTF-8: the separators, and so the parts
of a path. A part that is not UTF-8 becomes another one.
-/

namespace Cafce

open DirectoryTree EncodedText

-----------------------------------------------------------------------------------------
-- The decoder, step by step
-----------------------------------------------------------------------------------------

/-- A character is decoded where its encoding begins the bytes. -/
theorem utf8DecodeChar?_eq_some_iff {bytes : List UInt8} {char : Char}
    : bytes.toByteArray.utf8DecodeChar? 0 = some char ↔ utf8.encode char <+: bytes := by
  constructor
  · intro decoded
    obtain ⟨rest, same⟩ := ByteArray.exists_of_utf8DecodeChar?_eq_some decoded
    have units := congrArg (fun whole => whole.data.toList) same
    exact ⟨rest.data.toList, by simpa [utf8] using units.symm⟩
  · intro leading
    obtain ⟨rest, rfl⟩ := leading
    rw [List.toByteArray_append]
    exact ByteArray.utf8DecodeChar?_utf8EncodeChar_append

theorem lossyChars_encode_append (char : Char) (rest : List UInt8)
    : lossyChars (utf8.encode char ++ rest) = char :: lossyChars rest := by
  obtain ⟨lead, units, encoded, _⟩ := utf8.led char
  have decoded := utf8DecodeChar?_eq_some_iff.mpr (List.prefix_append (utf8.encode char) rest)
  have size : (utf8.encode char).length = char.utf8Size := String.length_utf8EncodeChar char
  rw [encoded, List.cons_append] at decoded ⊢
  rw [encoded, List.length_cons] at size
  have skip : units.length = char.utf8Size - 1 := by
    omega
  rw [lossyChars, decoded]
  simp only
  rw [List.drop_left' skip]

/-- No character begins the bytes. -/
def Undecodable (bytes : List UInt8) : Prop :=
  ∀ char, ¬ utf8.encode char <+: bytes

theorem lossyChars_of_undecodable {lead : UInt8} {rest : List UInt8}
    (undecodable : Undecodable (lead :: rest))
    : lossyChars (lead :: rest)
      = '\uFFFD' :: lossyChars (rest.drop (invalidLength lead rest - 1)) := by
  have missed : (lead :: rest).toByteArray.utf8DecodeChar? 0 = none := by
    rw [Option.eq_none_iff_forall_ne_some]
    exact fun char decoded => undecodable char (utf8DecodeChar?_eq_some_iff.mp decoded)
  rw [lossyChars, missed]

/-- The induction that decoding makes: a character off the front, or a part that is none. -/
theorem lossy_induction {motive : List UInt8 → Prop} (nil : motive [])
    (char : ∀ char rest, motive rest → motive (utf8.encode char ++ rest))
    (invalid : ∀ lead rest, Undecodable (lead :: rest)
      → motive (rest.drop (invalidLength lead rest - 1)) → motive (lead :: rest))
    (bytes : List UInt8)
    : motive bytes := by
  induction length : bytes.length using Nat.strong_induction_on generalizing bytes with
  | _ count ih =>
      cases bytes with
      | nil => exact nil
      | cons lead rest =>
          subst length
          by_cases decodable : ∃ first, utf8.encode first <+: lead :: rest
          · obtain ⟨first, later, joined⟩ := decodable
            obtain ⟨unit, units, encoded, _⟩ := utf8.led first
            rw [← joined]
            refine char first later (ih later.length ?_ later rfl)
            rw [← joined, encoded, List.length_append, List.length_cons]
            omega
          · refine invalid lead rest (not_exists.mp decodable) (ih _ ?_ _ rfl)
            simp only [List.length_drop, List.length_cons]
            omega

-----------------------------------------------------------------------------------------
-- Separators
-----------------------------------------------------------------------------------------

theorem utf8_encode_slash : utf8.encode '/' = [PathBuf.separator] := by
  decide

/-- What begins no character begins none with a separator after it, since a separator is no
later unit of a character.
-/
theorem Undecodable.append_separator {bytes : List UInt8} (undecodable : Undecodable bytes)
    (nonempty : bytes ≠ []) (right : List UInt8)
    : Undecodable (bytes ++ PathBuf.separator :: right) := by
  intro char leading
  rcases List.prefix_or_prefix_of_prefix leading (List.prefix_append bytes _) with
    shorter | ⟨between, longer⟩
  · exact undecodable char shorter
  · obtain ⟨lead, units, encoded, _, trailing⟩ := utf8.led char
    obtain ⟨first, later, rfl⟩ := List.exists_cons_of_ne_nil nonempty
    rw [← longer, List.prefix_append_right_inj] at leading
    cases between with
    | nil =>
        rw [List.append_nil] at longer
        exact undecodable char (longer ▸ List.prefix_refl _)
    | cons unit between =>
        obtain ⟨rfl, _⟩ := List.cons_prefix_cons.mp leading
        rw [encoded, List.cons_append] at longer
        obtain ⟨_, inside⟩ := List.cons.inj longer
        have trails := trailing PathBuf.separator (by simp [← inside])
        exact absurd trails (by decide)

/-- No sequence goes on with a separator, or with nothing. -/
theorem acceptsSecond_eq_false (lead : UInt8)
    : acceptsSecond lead PathBuf.separator = false ∧ acceptsSecond lead 0 = false := by
  unfold acceptsSecond
  split_ifs <;> decide

/-- So the length of an invalid part is decided before a separator. -/
theorem invalidLength_append_separator (lead : UInt8) (left right : List UInt8)
    : invalidLength lead (left ++ PathBuf.separator :: right) = invalidLength lead left
      ∧ invalidLength lead left - 1 ≤ left.length := by
  cases left with
  | nil => simp [invalidLength, acceptsSecond_eq_false]
  | cons second left =>
      cases left with
      | nil =>
          have low : decide (0x80 ≤ PathBuf.separator) = false
              ∧ decide ((0x80 : UInt8) ≤ 0) = false := by
            decide
          simp only [invalidLength, List.cons_append, List.nil_append, List.getD_cons_zero,
            List.getD_cons_succ, List.getD_nil, List.length_cons, List.length_nil, low.1, low.2,
            Bool.and_false, Bool.false_and, Bool.false_eq_true, if_false, true_and]
          split_ifs <;> omega
      | cons third left =>
          simp only [invalidLength, List.cons_append, List.getD_cons_zero,
            List.getD_cons_succ, List.length_cons, true_and]
          split_ifs <;> omega

/-- Separators stay where they are, by the induction of the decoder. -/
theorem lossyChars_append_separator (left right : List UInt8)
    : lossyChars (left ++ PathBuf.separator :: right)
      = lossyChars left ++ '/' :: lossyChars right := by
  induction left using lossy_induction with
  | nil =>
      have first := lossyChars_encode_append '/' right
      rw [utf8_encode_slash] at first
      simpa [lossyChars] using first
  | char char left ih =>
      rw [List.append_assoc, lossyChars_encode_append, lossyChars_encode_append, ih]
      rfl
  | invalid lead left undecodable ih =>
      obtain ⟨same, within⟩ := invalidLength_append_separator lead left right
      have still := undecodable.append_separator (List.cons_ne_nil _ _) right
      rw [List.cons_append] at still ⊢
      rw [lossyChars_of_undecodable still, lossyChars_of_undecodable undecodable, same,
        List.drop_append_of_le_length within, ih]
      rfl

/-- Decoding makes no separator. -/
theorem separator_mem_of_slash_mem {bytes : List UInt8} (member : '/' ∈ lossyChars bytes)
    : PathBuf.separator ∈ bytes := by
  induction bytes using lossy_induction with
  | nil => simp [lossyChars] at member
  | char char rest ih =>
      rw [lossyChars_encode_append] at member
      rcases List.mem_cons.mp member with rfl | later
      · rw [utf8_encode_slash]
        exact List.mem_cons_self
      · exact List.mem_append_right _ (ih later)
  | invalid lead rest undecodable ih =>
      rw [lossyChars_of_undecodable undecodable] at member
      have later := (List.mem_cons.mp member).resolve_left (by decide)
      exact List.mem_cons_of_mem _ (List.mem_of_mem_drop (ih later))

/-- Splitting decoded bytes is decoding the split bytes, by induction on their number. -/
theorem splitOn_lossyChars (bytes : List UInt8)
    : (lossyChars bytes).splitOn '/' = (bytes.splitOn PathBuf.separator).map lossyChars := by
  induction length : bytes.length using Nat.strong_induction_on generalizing bytes with
  | _ count ih =>
      by_cases member : PathBuf.separator ∈ bytes
      · obtain ⟨left, right, rfl, free⟩ := List.eq_append_cons_of_mem member
        have shorter : right.length < count := by
          rw [← length, List.length_append, List.length_cons]
          omega
        have slashFree : '/' ∉ lossyChars left := fun inside =>
          free (separator_mem_of_slash_mem inside)
        rw [lossyChars_append_separator, List.splitOn_append_cons_self_of_not_mem slashFree,
          List.splitOn_append_cons_self_of_not_mem free, List.map_cons, ih _ shorter right rfl]
      · have slashFree : '/' ∉ lossyChars bytes := fun inside =>
          member (separator_mem_of_slash_mem inside)
        rw [List.splitOn_eq_singleton slashFree, List.splitOn_eq_singleton member,
          List.map_singleton]

-----------------------------------------------------------------------------------------
-- Parts and components
-----------------------------------------------------------------------------------------

/-- A part of a path as it reads after lossy decoding. -/
def lossyPart (part : OsString) : OsString :=
  asBytes (fromUtf8Lossy part)

theorem lossyPart_eq_spell (part : OsString) : lossyPart part = utf8.spell (lossyChars part) :=
  asBytes_ofList _

/-- Bytes that are no text show it when they are decoded. -/
theorem replacement_mem_of_no_text {bytes : List UInt8}
    (lost : ¬ ∃ chars, bytes = utf8.spell chars)
    : '\uFFFD' ∈ lossyChars bytes := by
  induction bytes using lossy_induction with
  | nil => exact absurd ⟨[], rfl⟩ lost
  | char char rest ih =>
      rw [lossyChars_encode_append]
      refine List.mem_cons_of_mem _ (ih fun spelled => lost ?_)
      obtain ⟨chars, rfl⟩ := spelled
      exact ⟨char :: chars, rfl⟩
  | invalid lead rest undecodable ih =>
      rw [lossyChars_of_undecodable undecodable]
      exact List.mem_cons_self

/-- A part that is text stays as it is; any other becomes another part. -/
theorem lossyPart_eq_iff {part : OsString}
    : lossyPart part = part ↔ ∃ chars, part = utf8.spell chars := by
  rw [lossyPart_eq_spell]
  constructor
  · intro same
    exact ⟨_, same.symm⟩
  · intro text
    obtain ⟨chars, rfl⟩ := text
    rw [← lossyPart_eq_spell, ← asBytes_ofList, lossyPart, fromUtf8Lossy_asBytes]

/-- Such a part becomes no plain text. -/
theorem lossyPart_ne_spell {part : OsString} (lost : ¬ ∃ chars, part = utf8.spell chars)
    {chars : List Char} (plain : '\uFFFD' ∉ chars)
    : lossyPart part ≠ utf8.spell chars := by
  intro same
  rw [lossyPart, ← asBytes_ofList] at same
  have decoded := String.ofList_injective (asBytes_injective same)
  exact plain (decoded ▸ replacement_mem_of_no_text lost)

theorem lossyPart_eq_dot_iff {part : OsString} : lossyPart part = [0x2E] ↔ part = [0x2E] := by
  have dot : utf8.spell ['.'] = [0x2E] := by
    decide
  by_cases text : ∃ chars, part = utf8.spell chars
  · rw [lossyPart_eq_iff.mpr text]
  · constructor
    · intro same
      exact absurd (same.trans dot.symm) (lossyPart_ne_spell text (by decide))
    · intro same
      exact absurd ⟨['.'], same.trans dot.symm⟩ text

namespace PathBuf

/-- `Path::to_str` -/
def toStr (path : PathBuf) : Option String :=
  fromUtf8? path.bytes

/-- A path has a text when its bytes are UTF-8. -/
theorem toStr_isSome_iff {path : PathBuf}
    : path.toStr.isSome ↔ ∃ chars, path.bytes = utf8.spell chars := by
  constructor
  · intro decodes
    obtain ⟨text, decoded⟩ := Option.isSome_iff_exists.mp decodes
    refine ⟨text.toList, ?_⟩
    rw [← asBytes_eq_spell]
    rw [toStr, fromUtf8?, String.fromUTF8?] at decoded
    split at decoded
    · obtain rfl := Option.some.inj decoded
      simp [asBytes, String.fromUTF8]
    · cases decoded
  · intro spelled
    obtain ⟨chars, spelled⟩ := spelled
    rw [toStr, spelled, fromUtf8?_spell]
    rfl

/-- A path has a text when all of its parts have. -/
theorem toStr_isSome_iff_parts {path : PathBuf}
    : path.toStr.isSome ↔ ∀ part ∈ path.parts, ∃ chars, part = utf8.spell chars := by
  rw [toStr_isSome_iff]
  constructor
  · intro spelled part member
    obtain ⟨chars, spelled⟩ := spelled
    rw [parts, spelled, utf8.splitOn_spell utf8_encode_slash] at member
    obtain ⟨inner, _, rfl⟩ := List.mem_map.mp member
    exact ⟨inner, rfl⟩
  · intro each
    choose! spelling spells using each
    refine ⟨['/'].intercalate (path.parts.map spelling), ?_⟩
    have same : (path.parts.map spelling).map utf8.spell = path.parts := by
      rw [List.map_map]
      exact (List.map_congr_left fun part member => (spells part member).symm).trans
        (List.map_id _)
    rw [utf8.spell_intercalate utf8_encode_slash, same, parts, List.intercalate_splitOn]

/-- A part that is not UTF-8 is a component of its own. -/
theorem innerComponent_of_undecodable {part : OsString}
    (undecodable : ¬ ∃ chars, part = utf8.spell chars)
    : innerComponent part = some (.normal part) := by
  have other (chars : List Char) : part ≠ utf8.spell chars :=
    fun same => undecodable ⟨chars, same⟩
  have dot : utf8.spell ['.'] = [0x2E] := by
    decide
  have dots : utf8.spell ['.', '.'] = [0x2E, 0x2E] := by
    decide
  rw [innerComponent, if_neg, if_neg]
  · exact dots ▸ other ['.', '.']
  · intro plain
    rcases plain with empty | single
    · exact other [] empty
    · exact other ['.'] (single.trans dot.symm)

theorem inner_subset_components {path : PathBuf} : path.inner ⊆ path.components := by
  intro component member
  rw [components]
  split
  · exact List.mem_cons_of_mem _ member
  · split
    · exact List.mem_cons_of_mem _ member
    · exact member

/-- The parts of the lossy text of a path are the lossy texts of its parts. -/
theorem parts_lossy (path : PathBuf)
    : (ofStr path.toStringLossy).parts = path.parts.map lossyPart := by
  have spelled : (ofStr path.toStringLossy).bytes = utf8.spell (lossyChars path.bytes) :=
    asBytes_ofList _
  rw [parts, spelled, utf8.splitOn_spell utf8_encode_slash, splitOn_lossyChars, List.map_map,
    parts]
  exact List.map_congr_left fun part _ => (lossyPart_eq_spell part).symm

/-- A component as it reads after lossy decoding. -/
def lossyComponent : Component OsString → Component OsString
  | .normal name => .normal (lossyPart name)
  | component => component

theorem innerComponent_lossyPart (part : OsString)
    : innerComponent (lossyPart part) = (innerComponent part).map lossyComponent := by
  by_cases text : ∃ chars, part = utf8.spell chars
  · have same := lossyPart_eq_iff.mpr text
    rw [same, innerComponent]
    split_ifs
    · rfl
    · rfl
    · rw [Option.map_some, lossyComponent, same]
  · -- the replacement character stands in the part, so it is neither empty nor made of dots
    have dot : ¬ (lossyPart part = [] ∨ lossyPart part = [0x2E]) := by
      rw [lossyPart_eq_dot_iff]
      rintro (empty | rfl)
      · exact lossyPart_ne_spell text List.not_mem_nil empty
      · exact text ⟨['.'], by decide⟩
    have dots : lossyPart part ≠ [0x2E, 0x2E] := by
      have spelled : utf8.spell ['.', '.'] = [0x2E, 0x2E] := by
        decide
      exact spelled ▸ lossyPart_ne_spell text (by decide)
    rw [innerComponent_of_undecodable text, innerComponent, if_neg dot, if_neg dots]
    rfl

/-- Decoding keeps a leading separator and makes none. -/
theorem isAbsolute_lossy (path : PathBuf)
    : (ofStr path.toStringLossy).isAbsolute = path.isAbsolute := by
  have spelled : (ofStr path.toStringLossy).bytes = utf8.spell (lossyChars path.bytes) :=
    asBytes_ofList _
  rw [isAbsolute, isAbsolute, spelled, decide_eq_decide]
  induction path.bytes using lossy_induction with
  | nil => simp [lossyChars]
  | char char rest _ =>
      obtain ⟨unit, units, encoded, _⟩ := utf8.led char
      rw [lossyChars_encode_append, Code.spell_cons, encoded]
      rfl
  | invalid lead rest undecodable _ =>
      rw [lossyChars_of_undecodable undecodable, Code.spell_cons]
      constructor
      · intro replaced
        exact absurd (Option.some.inj replaced) (by decide)
      · intro leading
        obtain rfl := Option.some.inj leading
        exact absurd ⟨rest, by rw [utf8_encode_slash]; rfl⟩ (undecodable '/')

theorem components_lossy (path : PathBuf)
    : (ofStr path.toStringLossy).components = path.components.map lossyComponent := by
  have inside : (path.parts.map lossyPart).filterMap innerComponent
      = (path.parts.filterMap innerComponent).map lossyComponent := by
    rw [List.filterMap_map, List.map_filterMap]
    exact List.filterMap_congr fun part _ => innerComponent_lossyPart part
  have leading : (path.parts.map lossyPart).head? = some [0x2E]
      ↔ path.parts.head? = some [0x2E] := by
    rw [List.head?_map]
    cases path.parts.head? with
    | none => rfl
    | some part =>
        rw [Option.map_some, Option.some.injEq, Option.some.injEq, lossyPart_eq_dot_iff]
  rw [components, components, isAbsolute_lossy, parts_lossy, inside]
  simp only [leading]
  split_ifs <;> rfl

/-- No path starts both with a path that is no text and with the lossy text of that path. -/
theorem not_startsWith_lossy {path base : PathBuf} (undecodable : base.toStr = none)
    (lossy : path.startsWith (ofStr base.toStringLossy))
    : ¬ path.startsWith base := by
  intro starts
  rw [startsWith_iff] at lossy starts
  have same : base.components.map lossyComponent = base.components := by
    rw [components_lossy] at lossy
    have shorter := List.prefix_of_prefix_length_le lossy starts (by simp)
    exact shorter.eq_of_length (by simp)
  have lost : ¬ base.toStr.isSome := by
    rw [undecodable]
    exact Bool.false_ne_true
  rw [toStr_isSome_iff_parts] at lost
  push Not at lost
  obtain ⟨part, isPart, undecoded⟩ := lost
  have noText : ¬ ∃ chars, part = utf8.spell chars := fun ⟨chars, spelled⟩ =>
    undecoded chars spelled
  have named : Component.normal part ∈ base.components :=
    inner_subset_components
      (List.mem_filterMap.mpr ⟨part, isPart, innerComponent_of_undecodable noText⟩)
  have kept : lossyComponent (.normal part) = .normal part :=
    List.map_inj_left.mp (same.trans (List.map_id _).symm) _ named
  exact noText (lossyPart_eq_iff.mp (Component.normal.inj kept))

end PathBuf

end Cafce
