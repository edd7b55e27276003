import Cafce.Correctness.HashOrder
import Cafce.Correctness.PartialView

/-! One file under several spellings. Paths are told apart by their components, so a file that
two patterns reach by different `..` counts twice, and its place in the order depends on how
it is spelled.
-/

namespace Cafce

open DirectoryTree Fallible FileMatcher HashList KeyedSort

-----------------------------------------------------------------------------------------
-- Contents that no hash function confuses are equal
-----------------------------------------------------------------------------------------

/-- A hash function that marks one message and shows one character of every message. -/
def markingHash (marked : List UInt8) (index : Nat) (message : List UInt8) : Digest :=
  Vector.ofFn fun position =>
    if position.val = 0 then if message = marked then 1 else 0
    else ((fromUtf8Lossy message).toList[index]?.map fun char => char.toNat.toUInt8).getD 0

theorem hexChars_second (digest : Digest)
    : (hexChars digest)[1]? = some (Nat.digitChar (digest[0].toNat % 16)) := by
  obtain ⟨first, rest, bytes⟩ : ∃ first rest, digest.toList = first :: rest := by
    cases bytes : digest.toList with
    | nil =>
        have length := digest.length_toList
        simp [bytes] at length
    | cons first rest => exact ⟨first, rest, rfl⟩
  have head : digest[0] = first := by
    have same : digest.toList[0]? = some first := by rw [bytes, List.getElem?_cons_zero]
    simpa using same
  rw [hexChars, bytes, head]
  rfl

/-- The characters of a digest stand in the text of the digests, 65 for each content. -/
theorem getElem?_digestText (sha256 : List UInt8 → Digest) {contents : List (List UInt8)}
    {index offset : Nat} {content : List UInt8} (found : contents[index]? = some content)
    (inside : offset < 64)
    : ((hashScheme sha256).digestText contents)[index * 65 + offset]?
      = (hexChars (sha256 content))[offset]? := by
  have width : (hashScheme sha256).wordLength = 64 := rfl
  have position := (hashScheme sha256).getElem?_digestText found (width ▸ inside)
  rw [width] at position
  exact position

/-- The text of the digests shows at which position the marked message stands. -/
theorem digestText_marked {contents : List (List UInt8)} {index : Nat}
    {content : List UInt8} (marked : List UInt8) (shownIndex : Nat)
    (found : contents[index]? = some content)
    : ((hashScheme (markingHash marked shownIndex)).digestText contents)[index * 65 + 1]?
      = some (if content = marked then '1' else '0') := by
  have bit : (markingHash marked shownIndex content)[0]
      = if content = marked then 1 else 0 := by
    simp [markingHash]
  rw [getElem?_digestText _ found (by decide), hexChars_second, bit]
  split <;> rfl

/-- Every hash after the first byte shows a character of the text that was hashed. -/
theorem markingHash_shows (marked : List UInt8) {index : Nat} {text : List Char} {char : Char}
    (found : text[index]? = some char)
    : (markingHash marked index (asBytes (String.ofList text)))[1] = char.toNat.toUInt8 := by
  simp [markingHash, fromUtf8Lossy_asBytes, found]

/-- Different lists of contents of one length are hashed differently by some hash function. -/
theorem exists_separating_hash {left right : List (List UInt8)}
    (length : left.length = right.length) (different : left ≠ right)
    : ∃ sha256, (hashScheme sha256).listHash left ≠ (hashScheme sha256).listHash right := by
  obtain ⟨index, content, other, leftFound, rightFound, apart⟩ :=
    exists_index_of_ne length different
  refine ⟨markingHash content (index * 65 + 1), ?_⟩
  intro same
  have leftShown := markingHash_shows content
    (digestText_marked content (index * 65 + 1) leftFound)
  have rightShown := markingHash_shows content
    (digestText_marked content (index * 65 + 1) rightFound)
  rw [if_pos rfl] at leftShown
  rw [if_neg apart.symm] at rightShown
  have bytes : ('1'.toNat.toUInt8) = '0'.toNat.toUInt8 := by
    rw [← leftShown, ← rightShown]
    exact congrArg (fun digest : Digest => digest[1]) same
  exact absurd bytes (by decide)

/-- Lists of one length that make the same key whatever the hash function are equal. -/
theorem contents_eq_of_keys {left right : List (List UInt8)}
    (length : left.length = right.length)
    (same : ∀ sha256, CacheKeyGenerator.keyOfContents sha256 none left
      = CacheKeyGenerator.keyOfContents sha256 none right)
    : left = right := by
  by_contra different
  obtain ⟨sha256, apart⟩ := exists_separating_hash length different
  have chars := congrArg String.toList (same sha256)
  rcases CacheKeyGenerator.bareKey_cases sha256 left with ⟨rfl, _⟩ | ⟨nonempty, leftText⟩
  · exact different (List.length_eq_zero_iff.mp length.symm).symm
  · rcases CacheKeyGenerator.bareKey_cases sha256 right with ⟨rfl, _⟩ | ⟨_, rightText⟩
    · exact nonempty (List.length_eq_zero_iff.mp length)
    · rw [leftText, rightText] at chars
      exact apart (hexChars_injective chars)

-----------------------------------------------------------------------------------------
-- Files behind the selected paths
-----------------------------------------------------------------------------------------

section

variable (glob : GlobCrate) (fs : FileSystem) (basePath : PathBuf)

/-- Locations of the files that the patterns select. -/
def selectedFiles (patterns : List String) : Set (List OsString) :=
  {place | ∃ path, Passes glob fs basePath patterns path ∧ fs.location path = some place}

/-- The patterns are accepted and select readable files inside the base path. -/
structure SelectsInside (patterns : List String) : Prop where
  accepted : ∀ pattern ∈ patterns, ¬ Rejected (fs.view glob) basePath pattern
  readable : ∀ path, Passes glob fs basePath patterns path
    → ∃ content, fs.read path = .ok content
  inside : ∀ path, Passes glob fs basePath patterns path → fs.Inside basePath path

/-- Two lists of patterns select the same files below an absolute base path. -/
structure SelectSameFiles (left right : List String) : Prop where
  absolute : basePath.isAbsolute
  leftInside : SelectsInside glob fs basePath left
  rightInside : SelectsInside glob fs basePath right
  same : selectedFiles glob fs basePath left = selectedFiles glob fs basePath right

/-- The paths lead to the given files, to each of them once. -/
structure DenotesOnce (places : Set (List OsString)) (paths : List PathBuf) : Prop where
  members : ∀ place, some place ∈ paths.map fs.location ↔ place ∈ places
  once : (paths.map fs.location).Nodup

/-- The patterns resolve to the selected files once each, or there are more files than the
limit allows and their number is reported.
-/
structure ResolvesToFiles (maxFiles : Nat) (patterns : List String) : Prop where
  exceeded : maxFiles < (selectedFiles glob fs basePath patterns).ncard
    → (FileMatcher.mk maxFiles).resolvePatterns (fs.view glob) patterns basePath
      = .error (.cacheKey
          (.tooManyFiles (selectedFiles glob fs basePath patterns).ncard maxFiles))
  listed : (selectedFiles glob fs basePath patterns).ncard ≤ maxFiles → ∃ paths,
    (FileMatcher.mk maxFiles).resolvePatterns (fs.view glob) patterns basePath = .ok paths
    ∧ DenotesOnce fs (selectedFiles glob fs basePath patterns) paths

/-- Every file counts once in both lists, and unless there are too many they make one key. -/
structure CountsFilesOnce (maxFiles : Nat) (left right : List String) : Prop where
  leftFiles : ResolvesToFiles glob fs basePath maxFiles left
  rightFiles : ResolvesToFiles glob fs basePath maxFiles right
  sameKey : (selectedFiles glob fs basePath left).ncard ≤ maxFiles
    → ∀ sha256 keyPrefix, ∃ key,
      ((CacheKeyGenerator.mk maxFiles basePath).generateKey sha256 (fs.view glob)
        ⟨left, keyPrefix⟩).outcome = .ok key
      ∧ ((CacheKeyGenerator.mk maxFiles basePath).generateKey sha256 (fs.view glob)
        ⟨right, keyPrefix⟩).outcome = .ok key

/-- No two selected paths with different components lead to one file. -/
def NoAliases (patterns : List String) : Prop :=
  ∀ left right, Passes glob fs basePath patterns left
    → Passes glob fs basePath patterns right
    → fs.location left = fs.location right → left.components = right.components

/-- In the order of their spellings the selected files have the same contents on both sides,
position by position.
-/
def SameContentOrder (left right : List String) : Prop :=
  ∀ lefts rights, ListsSelected (fs.view glob) basePath left lefts
    → ListsSelected (fs.view glob) basePath right rights
    → lefts.mapM fs.read = rights.mapM fs.read

end

section Listed

variable {glob : GlobCrate} {fs : FileSystem} {basePath : PathBuf} {patterns : List String}
  {paths : List PathBuf}

/-- Listed paths lead to the selected files. -/
theorem mem_locations_iff (lists : ListsSelected (fs.view glob) basePath patterns paths)
    (place : List OsString)
    : some place ∈ paths.map fs.location ↔ place ∈ selectedFiles glob fs basePath patterns := by
  rw [List.mem_map]
  constructor
  · intro listed
    obtain ⟨path, member, found⟩ := listed
    exact ⟨path, passes_iff_selected.mpr (lists.sound path member), found⟩
  · intro selected
    obtain ⟨path, passes, found⟩ := selected
    obtain ⟨same, member, components⟩ := lists.complete path (passes_iff_selected.mp passes)
    refine ⟨same, member, ?_⟩
    rwa [FileSystem.location, components]

/-- Files are counted through the listed locations. -/
theorem ncard_selectedFiles (lists : ListsSelected (fs.view glob) basePath patterns paths)
    : (selectedFiles glob fs basePath patterns).ncard
      = (paths.map fs.location).toFinset.card := by
  have places : some '' selectedFiles glob fs basePath patterns
      = (paths.map fs.location).toFinset := by
    ext found
    rw [Finset.mem_coe, List.mem_toFinset]
    constructor
    · rintro ⟨place, selected, rfl⟩
      exact (mem_locations_iff lists place).mpr selected
    · intro listed
      obtain ⟨path, member, leads⟩ := List.mem_map.mp listed
      obtain ⟨place, located⟩ := FileSystem.location_of_isFile (lists.sound path member).file
      obtain rfl : some place = found := located.symm.trans leads
      exact ⟨place, (mem_locations_iff lists place).mp listed, rfl⟩
  rw [← Set.ncard_image_of_injective _ (Option.some_injective _), places,
    Set.ncard_coe_finset]

/-- There are no aliases exactly when no two listed paths lead to one file. -/
theorem noAliases_iff_nodup (lists : ListsSelected (fs.view glob) basePath patterns paths)
    : NoAliases glob fs basePath patterns ↔ (paths.map fs.location).Nodup := by
  rw [List.nodup_map_iff_inj_on (List.Nodup.of_map _ lists.keys_nodup)]
  constructor
  · intro none left leftMember right rightMember located
    have components := none left right
      (passes_iff_selected.mpr (lists.sound left leftMember))
      (passes_iff_selected.mpr (lists.sound right rightMember)) located
    exact List.inj_on_of_nodup_map lists.keys_nodup leftMember rightMember
      (PathBuf.key_eq_iff.mpr components)
  · intro once left right leftPasses rightPasses located
    obtain ⟨first, firstMember, firstSame⟩ :=
      lists.complete left (passes_iff_selected.mp leftPasses)
    obtain ⟨second, secondMember, secondSame⟩ :=
      lists.complete right (passes_iff_selected.mp rightPasses)
    have together : fs.location first = fs.location second := by
      rw [FileSystem.location, FileSystem.location, firstSame, secondSame]
      exact located
    rw [← firstSame, ← secondSame, once first firstMember second secondMember together]

/-- As many paths as files are listed exactly when there are no aliases. -/
theorem length_eq_ncard_iff (lists : ListsSelected (fs.view glob) basePath patterns paths)
    : paths.length = (selectedFiles glob fs basePath patterns).ncard
      ↔ NoAliases glob fs basePath patterns := by
  have counted := Multiset.toFinset_card_eq_card_iff_nodup
    (m := ((paths.map fs.location : List _) : Multiset (Option (List OsString))))
  rw [noAliases_iff_nodup lists, ncard_selectedFiles lists]
  simpa [eq_comm] using counted

/-- The contents of the selected files in order do not depend on how equal paths are spelled. -/
theorem contents_of_lists {others : List PathBuf} {contents : List (List UInt8)}
    (lists : ListsSelected (fs.view glob) basePath patterns paths)
    (otherLists : ListsSelected (fs.view glob) basePath patterns others)
    (read : paths.mapM fs.read = .ok contents)
    : others.mapM fs.read = .ok contents := by
  have agree : EqualPathsAgree (fs.view glob) (paths ++ others) := by
    intro left leftMember right rightMember components content success
    have file (path : PathBuf) (member : path ∈ paths ++ others) : fs.isFile path := by
      rcases List.mem_append.mp member with here | there
      · exact (lists.sound path here).file
      · exact (otherLists.sound path there).file
    have same := FileSystem.read_eq_of_isFile components (file left leftMember)
      (file right rightMember)
    exact same.symm.trans success
  have keys : paths.map PathBuf.key = others.map PathBuf.key :=
    keys_eq_of_strict lists.strict otherLists.strict fun k => by
      rw [lists.keys, otherLists.keys]
  have related := readFiles_related agree (List.subset_append_left _ _)
    (List.subset_append_right _ _) keys
  obtain ⟨_, success, rfl⟩ := related.exists_of_ok (mapM_readFile_eq_ok_iff.mpr read)
  exact mapM_readFile_eq_ok_iff.mp success

/-- Without aliases the limit and the list count the files. -/
theorem resolved_of_noAliases (maxFiles : Nat)
    (accepted : ∀ pattern ∈ patterns, ¬ Rejected (fs.view glob) basePath pattern)
    (none : NoAliases glob fs basePath patterns)
    : ∃ paths,
        ListsSelected (fs.view glob) basePath patterns paths
        ∧ paths.length = (selectedFiles glob fs basePath patterns).ncard
        ∧ (FileMatcher.mk maxFiles).resolvePatterns (fs.view glob) patterns basePath
          = if maxFiles < (selectedFiles glob fs basePath patterns).ncard then
              .error (.cacheKey
                (.tooManyFiles (selectedFiles glob fs basePath patterns).ncard maxFiles))
            else .ok paths := by
  obtain ⟨paths, lists, result⟩ :=
    resolvePatterns_of_accepted (FileMatcher.mk maxFiles) accepted
  have length := (length_eq_ncard_iff lists).mpr none
  refine ⟨paths, lists, length, ?_⟩
  rw [result, ← lists.length_eq, length]

/-- Resolution counts files exactly when there are no aliases. -/
theorem resolvesToFiles_iff (maxFiles : Nat)
    (accepted : ∀ pattern ∈ patterns, ¬ Rejected (fs.view glob) basePath pattern)
    : ResolvesToFiles glob fs basePath maxFiles patterns
      ↔ NoAliases glob fs basePath patterns := by
  constructor
  · intro resolves
    obtain ⟨paths, lists, result⟩ :=
      resolvePatterns_of_accepted (FileMatcher.mk maxFiles) accepted
    rcases Nat.lt_or_ge maxFiles (selectedFiles glob fs basePath patterns).ncard with
      beyond | within
    · rw [resolves.exceeded beyond] at result
      split at result
      · have counts : (selectedFiles glob fs basePath patterns).ncard
            = selectedCount (fs.view glob) basePath patterns := by
          simpa using result
        exact (length_eq_ncard_iff lists).mp (lists.length_eq.trans counts.symm)
      · cases result
    · obtain ⟨others, success, once⟩ := resolves.listed within
      rw [success] at result
      split at result
      · cases result
      · obtain rfl := Except.ok.inj result
        exact (noAliases_iff_nodup lists).mpr once.once
  · intro none
    obtain ⟨paths, lists, _, result⟩ := resolved_of_noAliases maxFiles accepted none
    constructor
    · intro beyond
      rw [result, if_pos beyond]
    · intro within
      rw [if_neg (Nat.not_lt.mpr within)] at result
      exact ⟨paths, result, mem_locations_iff lists, (noAliases_iff_nodup lists).mp none⟩

/-- Readable selected files have as many contents as paths are listed. -/
theorem exists_contents
    (readable : ∀ path, Passes glob fs basePath patterns path
      → ∃ content, fs.read path = .ok content)
    (lists : ListsSelected (fs.view glob) basePath patterns paths)
    : ∃ contents, paths.mapM fs.read = .ok contents ∧ contents.length = paths.length := by
  obtain ⟨contents, read⟩ := exists_mapM_eq_ok_iff.mpr fun path member =>
    readable path (passes_iff_selected.mpr (lists.sound path member))
  exact ⟨contents, read, (mapM_eq_ok_iff.mp read).length_eq.symm⟩

/-- The key of listed paths is made of their contents. -/
theorem outcome_of_listed {maxFiles : Nat} {contents : List (List UInt8)}
    (success : (FileMatcher.mk maxFiles).resolvePatterns (fs.view glob) patterns basePath
      = .ok paths)
    (read : paths.mapM fs.read = .ok contents) (sha256 : List UInt8 → Digest)
    (keyPrefix : Option String)
    : ((CacheKeyGenerator.mk maxFiles basePath).generateKey sha256 (fs.view glob)
        ⟨patterns, keyPrefix⟩).outcome
      = .ok (CacheKeyGenerator.keyOfContents sha256 keyPrefix contents) :=
  CacheKeyGenerator.generateKey_eq_ok_iff.mpr
    ⟨paths, contents, success, mapM_readFile_eq_ok_iff.mpr read, rfl⟩

/-- Without aliases and within the limit the key is made of as many contents as there are
files, in the order of their spellings.
-/
theorem exists_key_of_noAliases {maxFiles : Nat}
    (inside : SelectsInside glob fs basePath patterns)
    (none : NoAliases glob fs basePath patterns)
    (within : (selectedFiles glob fs basePath patterns).ncard ≤ maxFiles)
    : ∃ paths contents,
        ListsSelected (fs.view glob) basePath patterns paths
        ∧ paths.mapM fs.read = .ok contents
        ∧ contents.length = (selectedFiles glob fs basePath patterns).ncard
        ∧ ∀ sha256 keyPrefix,
          ((CacheKeyGenerator.mk maxFiles basePath).generateKey sha256 (fs.view glob)
            ⟨patterns, keyPrefix⟩).outcome
          = .ok (CacheKeyGenerator.keyOfContents sha256 keyPrefix contents) := by
  obtain ⟨paths, lists, length, result⟩ :=
    resolved_of_noAliases maxFiles inside.accepted none
  rw [if_neg (Nat.not_lt.mpr within)] at result
  obtain ⟨contents, read, count⟩ := exists_contents inside.readable lists
  exact ⟨paths, contents, lists, read, count.trans length, outcome_of_listed result read⟩

end Listed

/-- Every file counts once in both lists exactly when no file is selected under two spellings
in either of them and, unless there are too many files, the spellings put equal contents into
the same positions.
Witness: without aliases the listed paths are the files, and contents that no hash function
confuses are equal.
-/
theorem countsFilesOnce_iff {glob : GlobCrate} {fs : FileSystem} {basePath : PathBuf}
    {left right : List String} (select : SelectSameFiles glob fs basePath left right)
    (maxFiles : Nat)
    : CountsFilesOnce glob fs basePath maxFiles left right
      ↔ (NoAliases glob fs basePath left ∧ NoAliases glob fs basePath right)
        ∧ (maxFiles < (selectedFiles glob fs basePath left).ncard
          ∨ SameContentOrder glob fs basePath left right) := by
  have leftFiles := resolvesToFiles_iff maxFiles select.leftInside.accepted
  have rightFiles := resolvesToFiles_iff maxFiles select.rightInside.accepted
  constructor
  · intro counts
    have leftNone := leftFiles.mp counts.leftFiles
    have rightNone := rightFiles.mp counts.rightFiles
    refine ⟨⟨leftNone, rightNone⟩, ?_⟩
    rcases Nat.lt_or_ge maxFiles (selectedFiles glob fs basePath left).ncard with beyond | within
    · exact Or.inl beyond
    · right
      obtain ⟨lefts, leftContents, leftLists, leftRead, leftCount, leftKey⟩ :=
        exists_key_of_noAliases select.leftInside leftNone within
      obtain ⟨rights, rightContents, rightLists, rightRead, rightCount, rightKey⟩ :=
        exists_key_of_noAliases select.rightInside rightNone (select.same ▸ within)
      have length : leftContents.length = rightContents.length := by
        rw [leftCount, rightCount, select.same]
      have same : leftContents = rightContents := by
        apply contents_eq_of_keys length
        intro sha256
        obtain ⟨key, leftMade, rightMade⟩ := counts.sameKey within sha256 none
        exact Except.ok.inj (((leftKey sha256 none).symm.trans leftMade).trans
          (rightMade.symm.trans (rightKey sha256 none)))
      intro otherLefts otherRights otherLeftLists otherRightLists
      rw [contents_of_lists leftLists otherLeftLists leftRead,
        contents_of_lists rightLists otherRightLists rightRead, same]
  · intro condition
    obtain ⟨⟨leftNone, rightNone⟩, order⟩ := condition
    refine ⟨leftFiles.mpr leftNone, rightFiles.mpr rightNone, ?_⟩
    intro within sha256 keyPrefix
    obtain ⟨lefts, contents, leftLists, leftRead, _, leftKey⟩ :=
      exists_key_of_noAliases select.leftInside leftNone within
    obtain ⟨rights, rightContents, rightLists, rightRead, _, rightKey⟩ :=
      exists_key_of_noAliases select.rightInside rightNone (select.same ▸ within)
    have sameOrder := order.resolve_left (Nat.not_lt.mpr within) lefts rights leftLists rightLists
    obtain rfl := Except.ok.inj (leftRead.symm.trans (sameOrder.trans rightRead))
    exact ⟨_, leftKey sha256 keyPrefix, rightKey sha256 keyPrefix⟩

-----------------------------------------------------------------------------------------
-- The file `/b/k`, also spelled `/b/p/../k`
-----------------------------------------------------------------------------------------

/-- What glob yields for the patterns `k` and `p/../k` below `/b`. -/
def aliasTable : List (String × List (Except ForeignError PathBuf)) :=
  [("/b/k", [.ok (PathBuf.ofStr "/b/k")]), ("/b/p/../k", [.ok (PathBuf.ofStr "/b/p/../k")])]

theorem matched_plain
    : ["k"].mapM (FileMatcher.matchPattern (twoLevels.view (tableGlob aliasTable))
        (PathBuf.ofStr "/b")) = .ok [[PathBuf.ofStr "/b/k"]] := by
  have plain : FileMatcher.matchPattern (twoLevels.view (tableGlob aliasTable))
      (PathBuf.ofStr "/b") "k" = .ok [PathBuf.ofStr "/b/k"] :=
    matchPattern_tableGlob aliasTable "/b/k" (by decide) (by decide) (by decide)
  rw [List.mapM_cons, plain]
  rfl

theorem matched_aliased
    : ["k", "p/../k"].mapM (FileMatcher.matchPattern (twoLevels.view (tableGlob aliasTable))
        (PathBuf.ofStr "/b"))
      = .ok [[PathBuf.ofStr "/b/k"], [PathBuf.ofStr "/b/p/../k"]] := by
  have plain : FileMatcher.matchPattern (twoLevels.view (tableGlob aliasTable))
      (PathBuf.ofStr "/b") "k" = .ok [PathBuf.ofStr "/b/k"] :=
    matchPattern_tableGlob aliasTable "/b/k" (by decide) (by decide) (by decide)
  have detour : FileMatcher.matchPattern (twoLevels.view (tableGlob aliasTable))
      (PathBuf.ofStr "/b") "p/../k" = .ok [PathBuf.ofStr "/b/p/../k"] :=
    matchPattern_tableGlob aliasTable "/b/p/../k" (by decide) (by decide) (by decide)
  rw [List.mapM_cons, List.mapM_cons, plain, detour]
  rfl

/-- Either list selects the file `/b/k` only. -/
theorem aliasTable_selects {patterns : List String} {found : List (List PathBuf)}
    (matched : patterns.mapM (FileMatcher.matchPattern (twoLevels.view (tableGlob aliasTable))
      (PathBuf.ofStr "/b")) = .ok found)
    (nonempty : found.flatten ≠ [])
    (leads : ∀ path ∈ found.flatten, twoLevels.location path = some [asBytes "b", asBytes "k"]
      ∧ twoLevels.read path = .ok (asBytes "1"))
    : SelectsInside (tableGlob aliasTable) twoLevels (PathBuf.ofStr "/b") patterns
      ∧ selectedFiles (tableGlob aliasTable) twoLevels (PathBuf.ofStr "/b") patterns
        = {[asBytes "b", asBytes "k"]} := by
  have passes_iff (path : PathBuf)
      : Passes (tableGlob aliasTable) twoLevels (PathBuf.ofStr "/b") patterns path
        ↔ path ∈ found.flatten :=
    passes_iff_selected.trans (mem_matched_iff matched).symm
  constructor
  · refine ⟨exists_matched_iff.mp ⟨found, matched⟩, ?_, ?_⟩
    · intro path passes
      exact ⟨_, (leads path ((passes_iff path).mp passes)).2⟩
    · intro path passes
      have base : twoLevels.location (PathBuf.ofStr "/b") = some [asBytes "b"] := by decide
      exact ⟨_, _, base, (leads path ((passes_iff path).mp passes)).1, by decide⟩
  · ext place
    rw [Set.mem_singleton_iff]
    constructor
    · intro selected
      obtain ⟨path, passes, located⟩ := selected
      have place := (leads path ((passes_iff path).mp passes)).1
      exact (Option.some.inj (place.symm.trans located)).symm
    · rintro rfl
      obtain ⟨path, member⟩ := List.exists_mem_of_ne_nil _ nonempty
      exact ⟨path, (passes_iff path).mpr member, (leads path member).1⟩

theorem aliasTable_selectSame
    : SelectSameFiles (tableGlob aliasTable) twoLevels (PathBuf.ofStr "/b") ["k"]
        ["k", "p/../k"] := by
  obtain ⟨plain, plainFiles⟩ := aliasTable_selects matched_plain (by decide) (by decide)
  obtain ⟨aliased, aliasedFiles⟩ := aliasTable_selects matched_aliased (by decide) (by decide)
  exact ⟨by decide, plain, aliased, plainFiles.trans aliasedFiles.symm⟩

/-- Counting compared for the two lists. -/
theorem countsFilesOnce_iff_aliasTable
    : CountsFilesOnce (tableGlob aliasTable) twoLevels (PathBuf.ofStr "/b") 50 ["k"]
        ["k", "p/../k"]
      ↔ (NoAliases (tableGlob aliasTable) twoLevels (PathBuf.ofStr "/b") ["k"]
          ∧ NoAliases (tableGlob aliasTable) twoLevels (PathBuf.ofStr "/b") ["k", "p/../k"])
        ∧ (50 < (selectedFiles (tableGlob aliasTable) twoLevels (PathBuf.ofStr "/b")
              ["k"]).ncard
          ∨ SameContentOrder (tableGlob aliasTable) twoLevels (PathBuf.ofStr "/b") ["k"]
              ["k", "p/../k"]) :=
  countsFilesOnce_iff aliasTable_selectSame 50

/-- The file counts twice: it is listed under both spellings, and a limit of one file is
exceeded.
-/
theorem aliased_file_counts_twice
    : SelectSameFiles (tableGlob aliasTable) twoLevels (PathBuf.ofStr "/b") ["k"]
        ["k", "p/../k"]
      ∧ twoLevels.location (PathBuf.ofStr "/b/p/../k")
        = twoLevels.location (PathBuf.ofStr "/b/k")
      ∧ (FileMatcher.mk 50).resolvePatterns (twoLevels.view (tableGlob aliasTable))
          ["k", "p/../k"] (PathBuf.ofStr "/b")
        = .ok [PathBuf.ofStr "/b/k", PathBuf.ofStr "/b/p/../k"]
      ∧ (FileMatcher.mk 1).resolvePatterns (twoLevels.view (tableGlob aliasTable))
          ["k", "p/../k"] (PathBuf.ofStr "/b") = .error (.cacheKey (.tooManyFiles 2 1))
      ∧ ∀ maxFiles ∈ [1, 50],
        ¬ CountsFilesOnce (tableGlob aliasTable) twoLevels (PathBuf.ofStr "/b") maxFiles ["k"]
            ["k", "p/../k"] := by
  have two : (FileMatcher.mk 50).resolvePatterns (twoLevels.view (tableGlob aliasTable))
      ["k", "p/../k"] (PathBuf.ofStr "/b")
      = .ok [PathBuf.ofStr "/b/k", PathBuf.ofStr "/b/p/../k"] := by
    rw [resolvePatterns_eq, matched_aliased]
    decide
  have beyond : (FileMatcher.mk 1).resolvePatterns (twoLevels.view (tableGlob aliasTable))
      ["k", "p/../k"] (PathBuf.ofStr "/b") = .error (.cacheKey (.tooManyFiles 2 1)) := by
    rw [resolvePatterns_eq, matched_aliased]
    decide
  have one : (selectedFiles (tableGlob aliasTable) twoLevels (PathBuf.ofStr "/b")
      ["k", "p/../k"]).ncard = 1 := by
    rw [(aliasTable_selects matched_aliased (by decide) (by decide)).2, Set.ncard_singleton]
  refine ⟨aliasTable_selectSame, by decide, two, beyond, ?_⟩
  simp only [List.forall_mem_cons]
  refine ⟨?_, ?_, by simp⟩
  · intro counts
    obtain ⟨paths, success, _⟩ := counts.rightFiles.listed (by rw [one])
    cases beyond.symm.trans success
  · intro counts
    obtain ⟨paths, success, once⟩ := counts.rightFiles.listed (by rw [one]; decide)
    obtain rfl := Except.ok.inj (two.symm.trans success)
    exact absurd once.once (by decide)

end Cafce
