import Cafce.Library.SeparatedText
import Cafce.Model.CacheKey

/-! Cache keys determine the prefix and the hashed contents, up to SHA-256 collisions. -/

namespace Cafce

open HashList

/-- Contents of the matched files, in ascending path order. -/
def MatchedContents (generator : CacheKeyGenerator) (files : FileView) (keyConfig : Key)
    (contents : List (List UInt8))
    : Prop :=
  ∃ matched,
    (FileMatcher.mk generator.maxFiles).resolvePatterns files keyConfig.files
      generator.basePath = .ok matched
    ∧ matched.mapM files.read = .ok contents

/-- The byte strings that SHA-256 is fed: every content and the list of their digests. -/
def hashedMessages (sha256 : List UInt8 → Digest) (contents : List (List UInt8))
    : List (List UInt8) :=
  if contents = [] then []
  else
    contents
      ++ [asBytes ("\n".intercalate (contents.map fun content => lowerHex (sha256 content)))]

theorem hashedMessages_eq_fed {sha256 : List UInt8 → Digest} {contents : List (List UInt8)}
    (nonempty : contents ≠ [])
    : hashedMessages sha256 contents = (hashScheme sha256).fed contents := by
  rw [hashedMessages, if_neg nonempty, HashCalculator.intercalate_digests]
  rfl

theorem hyphen_not_mem_bareKey (sha256 : List UInt8 → Digest) (contents : List (List UInt8))
    : '-' ∉ (CacheKeyGenerator.keyOfContents sha256 none contents).toList := by
  rcases CacheKeyGenerator.bareKey_cases sha256 contents with ⟨_, same⟩ | ⟨_, same⟩
  · rw [same]
    decide
  · rw [same]
    intro member
    exact absurd (hexChars_isLowerHex _ '-' member) (by decide)

/-- Equal keys have equal prefixes and equal remainders: the last hyphen tells them apart. -/
theorem keyOfContents_split {sha256 : List UInt8 → Digest}
    {leftPrefix rightPrefix : Option String} {left right : List (List UInt8)}
    (same : CacheKeyGenerator.keyOfContents sha256 leftPrefix left
      = CacheKeyGenerator.keyOfContents sha256 rightPrefix right)
    : leftPrefix = rightPrefix
      ∧ CacheKeyGenerator.keyOfContents sha256 none left
        = CacheKeyGenerator.keyOfContents sha256 none right := by
  have leftFree := hyphen_not_mem_bareKey sha256 left
  have rightFree := hyphen_not_mem_bareKey sha256 right
  have chars := congrArg String.toList same
  cases leftPrefix with
  | none =>
      cases rightPrefix with
      | none => exact ⟨rfl, same⟩
      | some rightPrefix =>
          rw [chars, CacheKeyGenerator.toList_prefixedKey] at leftFree
          exact absurd (by simp) leftFree
  | some leftPrefix =>
      cases rightPrefix with
      | none =>
          rw [← chars, CacheKeyGenerator.toList_prefixedKey] at rightFree
          exact absurd (by simp) rightFree
      | some rightPrefix =>
          rw [CacheKeyGenerator.toList_prefixedKey, CacheKeyGenerator.toList_prefixedKey] at chars
          obtain ⟨prefixes, bare⟩ :=
            SeparatedText.eq_of_right_free leftFree rightFree chars
          exact ⟨by rw [String.toList_inj.mp prefixes], String.toList_inj.mp bare⟩

/-- No printed digest is the fallback, by their lengths. -/
theorem default_ne_hexChars (digest : Digest) : "default".toList ≠ hexChars digest := by
  intro same
  have lengths := congrArg List.length same
  rw [hexChars_length] at lengths
  exact absurd lengths (by decide)

/-- Equal remainders come from two empty matches, from equal contents or from a collision. -/
theorem bareKey_eq {sha256 : List UInt8 → Digest} {left right : List (List UInt8)}
    (same : CacheKeyGenerator.keyOfContents sha256 none left
      = CacheKeyGenerator.keyOfContents sha256 none right)
    : (left = [] ∧ right = [])
      ∨ (left ≠ [] ∧ right ≠ []
        ∧ (left = right
          ∨ Collision sha256 (hashedMessages sha256 left ++ hashedMessages sha256 right))) := by
  have chars := congrArg String.toList same
  rcases CacheKeyGenerator.bareKey_cases sha256 left with ⟨leftEmpty, leftText⟩ | ⟨leftSome, leftText⟩
  · rcases CacheKeyGenerator.bareKey_cases sha256 right with ⟨rightEmpty, _⟩ | ⟨_, rightText⟩
    · exact Or.inl ⟨leftEmpty, rightEmpty⟩
    · rw [leftText, rightText] at chars
      exact absurd chars (default_ne_hexChars _)
  · rcases CacheKeyGenerator.bareKey_cases sha256 right with ⟨_, rightText⟩ | ⟨rightSome, rightText⟩
    · rw [leftText, rightText] at chars
      exact absurd chars.symm (default_ne_hexChars _)
    · refine Or.inr ⟨leftSome, rightSome, ?_⟩
      rw [leftText, rightText] at chars
      rw [hashedMessages_eq_fed leftSome, hashedMessages_eq_fed rightSome]
      exact Scheme.listHash_eq (hexChars_injective chars)

/-- A key that was generated is made of the contents of the matched files. -/
theorem matchedContents_of_ok {generator : CacheKeyGenerator}
    {sha256 : List UInt8 → Digest} {files : FileView} {keyConfig : Key} {key : String}
    (success : (generator.generateKey sha256 files keyConfig).outcome = .ok key)
    : ∃ contents,
        MatchedContents generator files keyConfig contents
        ∧ CacheKeyGenerator.keyOfContents sha256 keyConfig.keyPrefix contents = key := by
  obtain ⟨matched, contents, resolution, read, made⟩ :=
    CacheKeyGenerator.generateKey_eq_ok_iff.mp success
  refine ⟨contents, ⟨matched, resolution, ?_⟩, made⟩
  rw [Fallible.mapM_eq_ok_iff] at read ⊢
  exact read.imp fun file content found => Fallible.mapError_eq_ok_iff.mp found

/-- Two runs that yield the same key have the same prefix, and both matched no file, or both
matched files of the same contents in path order, or two different messages that were hashed
collide.
Witness: the last hyphen separates the prefix; the remainders differ in length unless both
are the fallback or both are hashes.
-/
theorem generateKey_unambiguous {sha256 : List UInt8 → Digest}
    {left right : CacheKeyGenerator} {leftFiles rightFiles : FileView}
    {leftConfig rightConfig : Key} {key : String}
    (leftRun : (left.generateKey sha256 leftFiles leftConfig).outcome = .ok key)
    (rightRun : (right.generateKey sha256 rightFiles rightConfig).outcome = .ok key)
    : leftConfig.keyPrefix = rightConfig.keyPrefix
      ∧ ∃ leftContents rightContents,
        MatchedContents left leftFiles leftConfig leftContents
        ∧ MatchedContents right rightFiles rightConfig rightContents
        ∧ ((leftContents = [] ∧ rightContents = [])
          ∨ (leftContents ≠ [] ∧ rightContents ≠ []
            ∧ (leftContents = rightContents
              ∨ Collision sha256 (hashedMessages sha256 leftContents
                  ++ hashedMessages sha256 rightContents)))) := by
  obtain ⟨leftContents, leftMatched, leftMade⟩ := matchedContents_of_ok leftRun
  obtain ⟨rightContents, rightMatched, rightMade⟩ := matchedContents_of_ok rightRun
  obtain ⟨prefixes, bare⟩ := keyOfContents_split (leftMade.trans rightMade.symm)
  exact ⟨prefixes, leftContents, rightContents, leftMatched, rightMatched, bareKey_eq bare⟩

/-- A view in which every pattern matches the one file `./a`. -/
def oneFile (content : List UInt8) : FileView where
  glob _ := .ok [.ok (PathBuf.ofStr "./a")]
  isFile _ := true
  read _ := .ok content

/-- A digest that only tells lengths apart. -/
def lengthDigest (message : List UInt8) : Digest :=
  Vector.replicate 32 (UInt8.ofNat message.length)

/-- Different contents under one key: the two lists of digests collide. -/
theorem generateKey_unambiguous_lengthDigest
    : (some "v-1" = some "v-1")
      ∧ ∃ leftContents rightContents,
        MatchedContents ⟨50, PathBuf.ofStr "."⟩ (oneFile [1, 2]) ⟨["a"], some "v-1"⟩
          leftContents
        ∧ MatchedContents ⟨50, PathBuf.ofStr "."⟩ (oneFile [3]) ⟨["a"], some "v-1"⟩
          rightContents
        ∧ ((leftContents = [] ∧ rightContents = [])
          ∨ (leftContents ≠ [] ∧ rightContents ≠ []
            ∧ (leftContents = rightContents
              ∨ Collision lengthDigest (hashedMessages lengthDigest leftContents
                  ++ hashedMessages lengthDigest rightContents)))) := by
  have key (content : List UInt8) (nonempty : content = [1, 2] ∨ content = [3])
      : ((CacheKeyGenerator.mk 50 (PathBuf.ofStr ".")).generateKey lengthDigest
          (oneFile content) ⟨["a"], some "v-1"⟩).outcome
        = .ok ("v-1-" ++ lowerHex (Vector.replicate 32 64)) := by
    rcases nonempty with rfl | rfl <;> decide
  exact generateKey_unambiguous (key [1, 2] (Or.inl rfl)) (key [3] (Or.inr rfl))

end Cafce
