import Mathlib.Data.List.Basic

/-! Hashing a list of messages through the printed digests of its members.
Equal hashes of two lists yield equal lists or an explicit collision among the messages
that were hashed on the way.
-/

namespace HashList

variable {α β δ : Type*}

/-- A nonempty list of words starts with its first word. -/
theorem intercalate_cons (separator : α) (word : List α) (words : List (List α))
    : [separator].intercalate (word :: words)
      = word ++ if words = [] then [] else separator :: [separator].intercalate words := by
  cases words with
  | nil => simp
  | cons next words => simp [List.intercalate_cons_cons]

/-- Words of one fixed positive length are read back from their separated concatenation.
Witness: induction on the first list, comparing the first words by their length.
-/
theorem intercalate_injective {separator : α} {length : Nat} (positive : 0 < length)
    {left right : List (List α)} (leftLength : ∀ word ∈ left, word.length = length)
    (rightLength : ∀ word ∈ right, word.length = length)
    (same : [separator].intercalate left = [separator].intercalate right)
    : left = right := by
  have nonempty {word : List α} {words : List (List α)} (fixed : word.length = length)
      : [separator].intercalate (word :: words) ≠ [] := by
    intro empty
    rw [intercalate_cons] at empty
    have none := List.length_eq_zero_iff.mpr (List.append_eq_nil_iff.mp empty).1
    omega
  induction left generalizing right with
  | nil =>
      cases right with
      | nil => rfl
      | cons word right =>
          exact absurd same.symm (nonempty (rightLength word List.mem_cons_self))
  | cons first left ih =>
      cases right with
      | nil => exact absurd same (nonempty (leftLength first List.mem_cons_self))
      | cons second right =>
          obtain ⟨firstLength, leftRest⟩ := List.forall_mem_cons.mp leftLength
          obtain ⟨secondLength, rightRest⟩ := List.forall_mem_cons.mp rightLength
          rw [intercalate_cons, intercalate_cons] at same
          obtain ⟨rfl, rest⟩ := List.append_inj same (firstLength.trans secondLength.symm)
          congr 1
          by_cases leftEmpty : left = []
          · by_cases rightEmpty : right = []
            · rw [leftEmpty, rightEmpty]
            · rw [if_pos leftEmpty, if_neg rightEmpty] at rest
              cases rest
          · by_cases rightEmpty : right = []
            · rw [if_neg leftEmpty, if_pos rightEmpty] at rest
              cases rest
            · rw [if_neg leftEmpty, if_neg rightEmpty] at rest
              exact ih leftRest rightRest (List.cons.inj rest).2

/-- Different lists of one length differ at some position. -/
theorem exists_index_of_ne {left right : List β} (length : left.length = right.length)
    (different : left ≠ right)
    : ∃ (index : Nat) (a b : β), left[index]? = some a ∧ right[index]? = some b ∧ a ≠ b := by
  by_contra none
  simp only [not_exists, not_and, not_not] at none
  refine different (List.ext_getElem length fun index leftBound rightBound => ?_)
  exact none index _ _ (List.getElem?_eq_getElem leftBound)
    (List.getElem?_eq_getElem rightBound)

/-- A hash function whose digests print as words of one length, together with an encoding
of printed text as a message.
-/
structure Scheme (α β δ : Type*) where
  hash : β → δ
  word : δ → List α
  encode : List α → β
  separator : α
  wordLength : Nat
  word_length : ∀ digest, (word digest).length = wordLength
  wordLength_pos : 0 < wordLength
  word_injective : Function.Injective word
  encode_injective : Function.Injective encode

/-- The separated digest words of the messages. -/
def Scheme.digestText (scheme : Scheme α β δ) (messages : List β) : List α :=
  [scheme.separator].intercalate (messages.map fun message => scheme.word (scheme.hash message))

/-- Where the digest word of a message stands in the text, by induction on the list. -/
theorem Scheme.getElem?_digestText (scheme : Scheme α β δ) {messages : List β}
    {index offset : Nat} {message : β} (found : messages[index]? = some message)
    (inside : offset < scheme.wordLength)
    : (scheme.digestText messages)[index * (scheme.wordLength + 1) + offset]?
      = (scheme.word (scheme.hash message))[offset]? := by
  induction messages generalizing index with
  | nil => cases found
  | cons first messages ih =>
      have firstLength := scheme.word_length (scheme.hash first)
      rw [digestText, List.map_cons, intercalate_cons]
      cases index with
      | zero =>
          obtain rfl : first = message := Option.some.inj found
          rw [Nat.zero_mul, Nat.zero_add, List.getElem?_append_left (firstLength ▸ inside)]
      | succ index =>
          have rest : messages ≠ [] := by
            rintro rfl
            cases found
          have past : (index + 1) * (scheme.wordLength + 1) + offset
              = (scheme.word (scheme.hash first)).length
                + (index * (scheme.wordLength + 1) + offset + 1) := by
            rw [firstLength, Nat.succ_mul]
            omega
          rw [past, List.getElem?_append_right (Nat.le_add_right _ _), Nat.add_sub_cancel_left,
            if_neg (by simpa using rest), List.getElem?_cons_succ]
          exact ih found

/-- The hash of a list of messages. -/
def Scheme.listHash (scheme : Scheme α β δ) (messages : List β) : δ :=
  scheme.hash (scheme.encode (scheme.digestText messages))

/-- Every message hashed while hashing the list. -/
def Scheme.fed (scheme : Scheme α β δ) (messages : List β) : List β :=
  messages ++ [scheme.encode (scheme.digestText messages)]

/-- Two different messages among the given ones share a digest. -/
def Collision (hash : β → δ) (messages : List β) : Prop :=
  ∃ left ∈ messages, ∃ right ∈ messages, left ≠ right ∧ hash left = hash right

theorem Collision.mono {hash : β → δ} {fewer more : List β} (collision : Collision hash fewer)
    (included : fewer ⊆ more)
    : Collision hash more := by
  obtain ⟨left, leftMember, right, rightMember, different, same⟩ := collision
  exact ⟨left, included leftMember, right, included rightMember, different, same⟩

/-- Lists with the same digests, position by position, are equal or hold a collision. -/
theorem collision_of_map_eq {hash : β → δ} {left right : List β}
    (same : left.map hash = right.map hash)
    : left = right ∨ Collision hash (left ++ right) := by
  induction left generalizing right with
  | nil => exact Or.inl (List.map_eq_nil_iff.mp same.symm).symm
  | cons first left ih =>
      cases right with
      | nil => cases same
      | cons second right =>
          obtain ⟨headSame, tailSame⟩ := List.cons.inj same
          by_cases equal : first = second
          · subst equal
            rcases ih tailSame with rfl | collision
            · exact Or.inl rfl
            · refine Or.inr (collision.mono ?_)
              intro message member
              rcases List.mem_append.mp member with inLeft | inRight
              · simp [inLeft]
              · simp [inRight]
          · exact Or.inr ⟨first, by simp, second, by simp, equal, headSame⟩

/-- Equal list hashes come from equal lists or from a collision among what was hashed.
Witness: a collision of the two digest texts, else equal texts and hence equal digests.
-/
theorem Scheme.listHash_eq {scheme : Scheme α β δ} {left right : List β}
    (same : scheme.listHash left = scheme.listHash right)
    : left = right ∨ Collision scheme.hash (scheme.fed left ++ scheme.fed right) := by
  by_cases texts : scheme.digestText left = scheme.digestText right
  · have words := intercalate_injective scheme.wordLength_pos
      (by simp [scheme.word_length]) (by simp [scheme.word_length]) texts
    have digests : left.map scheme.hash = right.map scheme.hash := by
      apply List.map_injective_iff.mpr scheme.word_injective
      rw [List.map_map, List.map_map]
      exact words
    rcases collision_of_map_eq digests with equal | collision
    · exact Or.inl equal
    · refine Or.inr (collision.mono ?_)
      intro message member
      rcases List.mem_append.mp member with inLeft | inRight
      · simp [fed, inLeft]
      · simp [fed, inRight]
  · exact Or.inr ⟨_, by simp [fed], _, by simp [fed],
      fun equal => texts (scheme.encode_injective equal), same⟩

end HashList
