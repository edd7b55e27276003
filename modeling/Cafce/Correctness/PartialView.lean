import Cafce.Correctness.Containment
import Cafce.Correctness.PatternResolution

/-! Keys of what glob could read. Items that glob reports as unreadable are dropped, so a key
can be made although part of the tree was not seen.
-/

namespace Cafce

open DirectoryTree Fallible FileMatcher

/-- Without a rejected pattern the key is made of the listed paths, unless they are too many. -/
theorem outcome_of_accepted (generator : CacheKeyGenerator) {files : FileView}
    {patterns : List String}
    (accepted : ∀ pattern ∈ patterns, ¬ Rejected files generator.basePath pattern)
    : ∃ paths,
        ListsSelected files generator.basePath patterns paths
        ∧ ∀ sha256 keyPrefix,
          (generator.generateKey sha256 files ⟨patterns, keyPrefix⟩).outcome
          = if generator.maxFiles < selectedCount files generator.basePath patterns then
              .error (.cacheKey (.tooManyFiles
                (selectedCount files generator.basePath patterns) generator.maxFiles))
            else (paths.mapM (readFile files)).map
              (CacheKeyGenerator.keyOfContents sha256 keyPrefix) := by
  obtain ⟨paths, lists, result⟩ :=
    resolvePatterns_of_accepted (FileMatcher.mk generator.maxFiles) accepted
  refine ⟨paths, lists, ?_⟩
  intro sha256 keyPrefix
  rw [CacheKeyGenerator.outcome_generateKey, result]
  split <;> rfl

/-- A rejected pattern leaves no key. -/
theorem outcome_of_rejected (generator : CacheKeyGenerator) {files : FileView}
    {patterns : List String}
    (rejected : ∃ pattern ∈ patterns, Rejected files generator.basePath pattern)
    (sha256 : List UInt8 → Digest) (keyPrefix : Option String)
    : ∃ error,
        (generator.generateKey sha256 files ⟨patterns, keyPrefix⟩).outcome = .error error := by
  obtain ⟨error, failed, _⟩ :=
    resolvePatterns_of_rejected (FileMatcher.mk generator.maxFiles) rejected
  exact ⟨error, by rw [CacheKeyGenerator.outcome_generateKey, failed, error_bind]⟩

section

variable (glob : GlobCrate) (fs : FileSystem) (generator : CacheKeyGenerator)
  (patterns : List String)

/-- While expanding some pattern glob yields an item that it could not read. -/
def YieldsError : Prop :=
  ∃ pattern ∈ patterns, ∃ items error,
    glob fs (fullPattern generator.basePath pattern) = .ok items ∧ .error error ∈ items

/-- No key is made when glob could not read something that relative patterns lead to. -/
def NoPartialKey : Prop :=
  (∀ pattern ∈ patterns, (PathBuf.ofStr pattern).isAbsolute = false)
  → YieldsError glob fs generator patterns
  → ∀ sha256 keyPrefix, ∃ error,
    (generator.generateKey sha256 (fs.view glob) ⟨patterns, keyPrefix⟩).outcome = .error error

/-- Some selected file cannot be read. -/
def SelectsUnreadable : Prop :=
  ∃ path error, Passes glob fs generator.basePath patterns path ∧ fs.read path = .error error

end

/-- Listed paths can all be read exactly when no selected file is unreadable. -/
theorem exists_contents_iff {glob : GlobCrate} {fs : FileSystem}
    {generator : CacheKeyGenerator} {patterns : List String} {paths : List PathBuf}
    (lists : ListsSelected (fs.view glob) generator.basePath patterns paths)
    : (∃ contents, paths.mapM (readFile (fs.view glob)) = .ok contents)
      ↔ ¬ SelectsUnreadable glob fs generator patterns := by
  rw [exists_mapM_eq_ok_iff]
  constructor
  · intro readable unreadable
    obtain ⟨path, error, passes, fails⟩ := unreadable
    obtain ⟨same, member, components⟩ := lists.complete path (passes_iff_selected.mp passes)
    obtain ⟨content, success⟩ := readable same member
    have reads : fs.read same = .ok content := mapError_eq_ok_iff.mp success
    have equal := FileSystem.read_eq_of_isFile components (lists.sound same member).file
      passes.file
    cases reads.symm.trans (equal.trans fails)
  · intro none path member
    cases reads : fs.read path with
    | ok content => exact ⟨content, mapError_eq_ok_iff.mpr reads⟩
    | error error =>
        exact absurd ⟨path, error, passes_iff_selected.mpr (lists.sound path member), reads⟩ none

/-- Items that glob could not read prevent a key exactly when something else does: a rejected
pattern, the limit, or a selected file that cannot be read.
Witness: the key is made of the listed paths, which do not depend on the dropped items.
-/
theorem noPartialKey_iff (glob : GlobCrate) (fs : FileSystem) (generator : CacheKeyGenerator)
    (patterns : List String)
    : NoPartialKey glob fs generator patterns
      ↔ (∃ pattern ∈ patterns, Rejected (fs.view glob) generator.basePath pattern)
        ∨ ¬ YieldsError glob fs generator patterns
        ∨ generator.maxFiles < selectedCount (fs.view glob) generator.basePath patterns
        ∨ SelectsUnreadable glob fs generator patterns := by
  by_cases rejected :
      ∃ pattern ∈ patterns, Rejected (fs.view glob) generator.basePath pattern
  · refine ⟨fun _ => Or.inl rejected, ?_⟩
    intro _ _ _ sha256 keyPrefix
    exact outcome_of_rejected generator rejected sha256 keyPrefix
  · have accepted : ∀ pattern ∈ patterns,
        ¬ Rejected (fs.view glob) generator.basePath pattern :=
      fun pattern member refused => rejected ⟨pattern, member, refused⟩
    obtain ⟨paths, lists, outcome⟩ := outcome_of_accepted generator accepted
    constructor
    · intro noKey
      by_contra otherwise
      simp only [not_or, not_not] at otherwise
      obtain ⟨_, yieldsError, within, readable⟩ := otherwise
      have relative : ∀ pattern ∈ patterns, (PathBuf.ofStr pattern).isAbsolute = false :=
        fun pattern member => isAbsolute_of_accepted (accepted pattern member)
      obtain ⟨contents, read⟩ := (exists_contents_iff lists).mpr readable
      obtain ⟨error, failed⟩ :=
        noKey relative yieldsError (fun _ => Vector.replicate 32 0) none
      rw [outcome, if_neg within, read] at failed
      cases failed
    · intro reasons _ yieldsError sha256 keyPrefix
      rw [outcome]
      split
      case isTrue => exact ⟨_, rfl⟩
      case isFalse within =>
        rcases reasons with refused | silent | exceeded | unreadable
        · exact absurd refused rejected
        · exact absurd yieldsError silent
        · exact absurd exceeded within
        · cases read : paths.mapM (readFile (fs.view glob)) with
          | error error => exact ⟨error, rfl⟩
          | ok contents =>
              exact absurd unreadable ((exists_contents_iff lists).mp ⟨contents, read⟩)

/-- The glob crate on the patterns of a table, with what it yields for them. -/
def tableGlob (table : List (String × List (Except ForeignError PathBuf))) : GlobCrate :=
  fun _ pattern => .ok ((table.lookup pattern).getD [])

/-- What a pattern below a UTF-8 base path selects from the items of the table. -/
theorem matchPattern_tableGlob
    (table : List (String × List (Except ForeignError PathBuf))) (full : String)
    {fs : FileSystem} {base pattern : String} {selected : List PathBuf}
    (relative : (PathBuf.ofStr pattern).isAbsolute = false)
    (joined : (PathBuf.ofStr (escape base)).join (PathBuf.ofStr pattern) = PathBuf.ofStr full)
    (passing : ((((table.lookup full).getD []).filterMap Except.toOption).filter fun path =>
      fs.isFile path && path.startsWith (PathBuf.ofStr base)) = selected)
    : matchPattern (fs.view (tableGlob table)) (PathBuf.ofStr base) pattern = .ok selected := by
  refine matchPattern_eq_ok_iff.mpr ⟨relative, _, ?_, passing⟩
  rw [fullPattern_ofStr joined]
  rfl

/-- The key of one pattern, from what it selects and the contents of the files. -/
theorem outcome_of_selects (generator : CacheKeyGenerator) {files : FileView}
    {pattern : String} {selected paths : List PathBuf} {contents : List (List UInt8)}
    (selects : matchPattern files generator.basePath pattern = .ok selected)
    (merged : (FileMatcher.mk generator.maxFiles).resolved [selected] = .ok paths)
    (read : paths.mapM (readFile files) = .ok contents) (sha256 : List UInt8 → Digest)
    (keyPrefix : Option String)
    : (generator.generateKey sha256 files ⟨[pattern], keyPrefix⟩).outcome
      = .ok (CacheKeyGenerator.keyOfContents sha256 keyPrefix contents) := by
  have resolution : (FileMatcher.mk generator.maxFiles).resolvePatterns files [pattern]
      generator.basePath = .ok paths := by
    rw [resolvePatterns_eq, List.mapM_cons, selects]
    exact merged
  exact CacheKeyGenerator.generateKey_eq_ok_iff.mpr ⟨paths, contents, resolution, read, rfl⟩

/-- A directory `/b` with a file `k` in it and one in a directory `p` below it. -/
def twoLevels : FileSystem where
  tree := Tree.ofFiles
    [([asBytes "b", asBytes "k"], .ok (asBytes "1")),
      ([asBytes "b", asBytes "p", asBytes "k"], .ok (asBytes "2"))]
  currentDir := []
  currentDir_dir := rfl

/-- What glob yields when `/b/p` cannot be listed, in its order. -/
def unlistedTable : List (String × List (Except ForeignError PathBuf)) :=
  [("/b/**/k", [.ok (PathBuf.ofStr "/b/k"), .error { message := "Permission denied" }]),
    ("/b/p/*", [.error { message := "Permission denied" }])]

/-- The key is made of the given contents although glob reported an unreadable item. -/
def KeyDespiteError (glob : GlobCrate) (fs : FileSystem) (generator : CacheKeyGenerator)
    (patterns : List String) (contents : List (List UInt8))
    : Prop :=
  YieldsError glob fs generator patterns
  ∧ ∀ sha256 keyPrefix,
    (generator.generateKey sha256 (fs.view glob) ⟨patterns, keyPrefix⟩).outcome
    = .ok (CacheKeyGenerator.keyOfContents sha256 keyPrefix contents)

theorem KeyDespiteError.not_noPartialKey {glob : GlobCrate} {fs : FileSystem}
    {generator : CacheKeyGenerator} {patterns : List String} {contents : List (List UInt8)}
    (made : KeyDespiteError glob fs generator patterns contents)
    (relative : ∀ pattern ∈ patterns, (PathBuf.ofStr pattern).isAbsolute = false)
    : ¬ NoPartialKey glob fs generator patterns := by
  intro noKey
  obtain ⟨error, failed⟩ := noKey relative made.1 (fun _ => Vector.replicate 32 0) none
  cases (made.2 _ _).symm.trans failed

/-- With `/b/p` unreadable, `**/k` gives the key of `/b/k` alone and `p/*` the fallback key. -/
theorem unlisted_directory_key
    : KeyDespiteError (tableGlob unlistedTable) twoLevels ⟨50, PathBuf.ofStr "/b"⟩ ["**/k"]
        [asBytes "1"]
      ∧ KeyDespiteError (tableGlob unlistedTable) twoLevels ⟨50, PathBuf.ofStr "/b"⟩ ["p/*"] []
      ∧ ¬ NoPartialKey (tableGlob unlistedTable) twoLevels ⟨50, PathBuf.ofStr "/b"⟩ ["**/k"]
      ∧ ¬ NoPartialKey (tableGlob unlistedTable) twoLevels ⟨50, PathBuf.ofStr "/b"⟩
          ["p/*"] := by
  have everywhere : matchPattern (twoLevels.view (tableGlob unlistedTable))
      (PathBuf.ofStr "/b") "**/k" = .ok [PathBuf.ofStr "/b/k"] :=
    matchPattern_tableGlob unlistedTable "/b/**/k" (by decide) (by decide) (by decide)
  have below : matchPattern (twoLevels.view (tableGlob unlistedTable))
      (PathBuf.ofStr "/b") "p/*" = .ok [] :=
    matchPattern_tableGlob unlistedTable "/b/p/*" (by decide) (by decide) (by decide)
  have everywhereFull : fullPattern (PathBuf.ofStr "/b") "**/k" = "/b/**/k" :=
    fullPattern_ofStr (by decide)
  have belowFull : fullPattern (PathBuf.ofStr "/b") "p/*" = "/b/p/*" :=
    fullPattern_ofStr (by decide)
  have merged : (FileMatcher.mk 50).resolved [[PathBuf.ofStr "/b/k"]]
      = .ok [PathBuf.ofStr "/b/k"] := by
    decide
  have read : [PathBuf.ofStr "/b/k"].mapM (readFile (twoLevels.view (tableGlob unlistedTable)))
      = .ok [asBytes "1"] := by
    decide
  have one : KeyDespiteError (tableGlob unlistedTable) twoLevels ⟨50, PathBuf.ofStr "/b"⟩
      ["**/k"] [asBytes "1"] := by
    refine ⟨⟨"**/k", by simp, _, { message := "Permission denied" }, rfl, ?_⟩,
      outcome_of_selects _ everywhere merged read⟩
    rw [everywhereFull]
    decide
  have none : KeyDespiteError (tableGlob unlistedTable) twoLevels ⟨50, PathBuf.ofStr "/b"⟩
      ["p/*"] [] := by
    refine ⟨⟨"p/*", by simp, _, { message := "Permission denied" }, rfl, ?_⟩,
      outcome_of_selects _ below rfl rfl⟩
    rw [belowFull]
    decide
  exact ⟨one, none, one.not_noPartialKey (by decide), none.not_noPartialKey (by decide)⟩

end Cafce
