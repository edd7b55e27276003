import Cafce.Correctness.PatternResolution

/-! Which files a key can be made of: where the resolved paths lead relative to the base path.
The filter compares components and keeps `..`, so a path can start with the base and lead
out of it.
-/

namespace Cafce

open DirectoryTree

namespace FileSystem

/-- The path leads to a location at or below that of the base path. -/
def Inside (fs : FileSystem) (basePath path : PathBuf) : Prop :=
  ∃ base place,
    fs.location basePath = some base ∧ fs.location path = some place ∧ base <+: place

/-- The location that a path spells, with each `..` cancelling the name before it. -/
def spelled (fs : FileSystem) (path : PathBuf) : List OsString :=
  lexical fs.currentDir path.components

/-- A path that leads somewhere is inside a base that it starts with exactly when it spells
a location below the one the base spells.
-/
theorem inside_iff_spelled {fs : FileSystem} {basePath path : PathBuf}
    (file : fs.isFile path) (starts : path.startsWith basePath)
    : fs.Inside basePath path ↔ fs.spelled basePath <+: fs.spelled path := by
  obtain ⟨place, found⟩ := location_of_isFile file
  obtain ⟨base, foundBase⟩ := Tree.walk_prefix found (PathBuf.startsWith_iff.mp starts)
  have placeSpelled : place = fs.spelled path := Tree.walk_eq_lexical found
  have baseSpelled : base = fs.spelled basePath := Tree.walk_eq_lexical foundBase
  rw [← placeSpelled, ← baseSpelled]
  constructor
  · intro inside
    obtain ⟨other, target, otherBase, otherPlace, below⟩ := inside
    obtain rfl := Option.some.inj (foundBase.symm.trans otherBase)
    obtain rfl := Option.some.inj (found.symm.trans otherPlace)
    exact below
  · intro below
    exact ⟨base, place, foundBase, found, below⟩

/-- Equal paths are inside together. -/
theorem inside_congr {fs : FileSystem} {basePath left right : PathBuf}
    (same : left.key = right.key)
    : fs.Inside basePath left ↔ fs.Inside basePath right := by
  simp only [Inside, location, PathBuf.key_eq_iff.mp same]

end FileSystem

/-- Every path resolved under the limit is inside the base path, and the generator opens files
inside the base path only.
-/
structure Contained (glob : GlobCrate) (fs : FileSystem) (basePath : PathBuf)
    (patterns : List String) (maxFiles : Nat)
    : Prop where
  resolved : ∀ result,
    (FileMatcher.mk maxFiles).resolvePatterns (fs.view glob) patterns basePath = .ok result
    → ∀ path ∈ result, fs.isFile path ∧ fs.Inside basePath path
  opened : ∀ sha256 keyPrefix,
    ∀ path ∈ ((CacheKeyGenerator.mk maxFiles basePath).generateKey sha256 (fs.view glob)
        ⟨patterns, keyPrefix⟩).log,
      fs.Inside basePath path

/-- A file that glob yields for one of the patterns and that the filter lets pass. -/
structure Passes (glob : GlobCrate) (fs : FileSystem) (basePath : PathBuf)
    (patterns : List String) (path : PathBuf)
    : Prop where
  yielded : ∃ pattern ∈ patterns, ∃ items,
    glob fs (FileMatcher.fullPattern basePath pattern) = .ok items ∧ .ok path ∈ items
  file : fs.isFile path
  starts : path.startsWith basePath

/-- No path that passes climbs out of the base by its `..` components for good. -/
def NoneClimbsOut (glob : GlobCrate) (fs : FileSystem) (basePath : PathBuf)
    (patterns : List String)
    : Prop :=
  ∀ path, Passes glob fs basePath patterns path → fs.spelled basePath <+: fs.spelled path

/-- Passing is being selected, with the file system's answers. -/
theorem passes_iff_selected {glob : GlobCrate} {fs : FileSystem} {basePath path : PathBuf}
    {patterns : List String}
    : Passes glob fs basePath patterns path
      ↔ FileMatcher.Selected (fs.view glob) basePath patterns path :=
  ⟨fun passes => ⟨passes.yielded, passes.file, passes.starts⟩,
    fun selected => ⟨selected.yielded, selected.file, selected.starts⟩⟩

/-- Resolved paths pass. -/
theorem passes_of_resolved {glob : GlobCrate} {fs : FileSystem} {basePath path : PathBuf}
    {patterns : List String} {matcher : FileMatcher} {result : List PathBuf}
    (success : matcher.resolvePatterns (fs.view glob) patterns basePath = .ok result)
    (member : path ∈ result)
    : Passes glob fs basePath patterns path :=
  passes_iff_selected.mpr (FileMatcher.selected_of_resolved success member)

/-- What passes is resolved, unless a pattern is rejected or the limit exceeded. -/
theorem resolved_of_passes {glob : GlobCrate} {fs : FileSystem} {basePath : PathBuf}
    {patterns : List String} {maxFiles : Nat}
    (accepted : ∀ pattern ∈ patterns,
      ¬ FileMatcher.Rejected (fs.view glob) basePath pattern)
    (within : ¬ maxFiles < FileMatcher.selectedCount (fs.view glob) basePath patterns)
    : ∃ result,
        (FileMatcher.mk maxFiles).resolvePatterns (fs.view glob) patterns basePath
          = .ok result
        ∧ ∀ path, Passes glob fs basePath patterns path
          → ∃ same ∈ result, same.components = path.components := by
  obtain ⟨result, lists, resolution⟩ :=
    FileMatcher.resolvePatterns_of_accepted ⟨maxFiles⟩ accepted
  rw [if_neg within] at resolution
  exact ⟨result, resolution, fun path passes =>
    lists.complete path (passes_iff_selected.mp passes)⟩

/-- Keys stay inside the base path exactly when a pattern is rejected, the limit is exceeded or
no file that passes the filter climbs out of the base by its `..` components.
Witness: paths that exist lead where they spell, so the filter's test on components and the
position in the tree differ by the cancelled `..` only.
-/
theorem contained_iff (glob : GlobCrate) (fs : FileSystem) (basePath : PathBuf)
    (patterns : List String) (maxFiles : Nat)
    : Contained glob fs basePath patterns maxFiles
      ↔ (∃ pattern ∈ patterns, FileMatcher.Rejected (fs.view glob) basePath pattern)
        ∨ maxFiles < FileMatcher.selectedCount (fs.view glob) basePath patterns
        ∨ NoneClimbsOut glob fs basePath patterns := by
  constructor
  · intro contained
    by_contra otherwise
    simp only [not_or, not_exists, not_and] at otherwise
    obtain ⟨accepted, within, climbs⟩ := otherwise
    apply climbs
    intro path passes
    obtain ⟨result, success, kept⟩ := resolved_of_passes accepted within
    obtain ⟨same, inResult, components⟩ := kept path passes
    have inside := (contained.resolved result success same inResult).2
    rw [FileSystem.inside_congr (PathBuf.key_eq_iff.mpr components)] at inside
    exact (FileSystem.inside_iff_spelled passes.file passes.starts).mp inside
  · intro condition
    have resolved : ∀ result,
        (FileMatcher.mk maxFiles).resolvePatterns (fs.view glob) patterns basePath
          = .ok result
        → ∀ path ∈ result, fs.isFile path ∧ fs.Inside basePath path := by
      intro result success path member
      rcases condition with ⟨pattern, inPatterns, refused⟩ | exceeded | stays
      · exact absurd success (FileMatcher.not_ok_of_rejected inPatterns refused)
      · have exact := FileMatcher.resolvesExactly ⟨maxFiles⟩ (fs.view glob) basePath patterns
        obtain ⟨error, failed⟩ := exact.failure.mpr (Or.inr exceeded)
        cases success.symm.trans failed
      · have passes := passes_of_resolved success member
        exact ⟨passes.file,
          (FileSystem.inside_iff_spelled passes.file passes.starts).mpr (stays path passes)⟩
    refine ⟨resolved, ?_⟩
    intro sha256 keyPrefix path opened
    obtain ⟨matched, success, member⟩ := CacheKeyGenerator.mem_of_opened opened
    exact (resolved matched success path member).2

/-- The glob crate on patterns without metacharacters: the path as written, if it exists. -/
def YieldsLiterals (glob : GlobCrate) : Prop :=
  ∀ fs pattern, (∀ char ∈ pattern.toList, char ∉ ['?', '*', '[', ']'])
    → glob fs pattern
      = .ok (if (fs.location (PathBuf.ofStr pattern)).isSome then [.ok (PathBuf.ofStr pattern)]
          else [])

/-- Every pattern taken as a literal. -/
def literalGlob : GlobCrate := fun fs pattern =>
  .ok (if (fs.location (PathBuf.ofStr pattern)).isSome then [.ok (PathBuf.ofStr pattern)]
    else [])

/-- A directory `/b` with a file in it, and a file `/s` beside it. -/
def besideBase : FileSystem where
  tree := Tree.ofFiles
    [([asBytes "b", asBytes "k"], .ok (asBytes "inside")),
      ([asBytes "s"], .ok (asBytes "outside"))]
  currentDir := [asBytes "b"]
  currentDir_dir := by decide

theorem fullPattern_besideBase
    : FileMatcher.fullPattern (PathBuf.ofStr "/b") "../s" = "/b/../s" :=
  FileMatcher.fullPattern_ofStr (by decide)

/-- The pattern `../s` below `/b` resolves to the file beside the base directory. -/
theorem parent_pattern_not_contained
    : YieldsLiterals literalGlob
      ∧ (PathBuf.ofStr "../s").isAbsolute = false
      ∧ (FileMatcher.mk 50).resolvePatterns (besideBase.view literalGlob) ["../s"]
          (PathBuf.ofStr "/b") = .ok [PathBuf.ofStr "/b/../s"]
      ∧ besideBase.location (PathBuf.ofStr "/b/../s") = some [asBytes "s"]
      ∧ ¬ Contained literalGlob besideBase (PathBuf.ofStr "/b") ["../s"] 50 := by
  have selects : FileMatcher.matchPattern (besideBase.view literalGlob) (PathBuf.ofStr "/b")
      "../s" = .ok [PathBuf.ofStr "/b/../s"] := by
    rw [FileMatcher.matchPattern_eq_ok_iff, fullPattern_besideBase]
    exact ⟨by decide, [.ok (PathBuf.ofStr "/b/../s")], by decide, by decide⟩
  have success : (FileMatcher.mk 50).resolvePatterns (besideBase.view literalGlob) ["../s"]
      (PathBuf.ofStr "/b") = .ok [PathBuf.ofStr "/b/../s"] := by
    rw [FileMatcher.resolvePatterns_eq, List.mapM_cons, selects]
    decide
  refine ⟨fun _ _ _ => rfl, by decide, success, by decide, ?_⟩
  intro contained
  obtain ⟨_, base, place, foundBase, found, below⟩ :=
    contained.resolved _ success (PathBuf.ofStr "/b/../s") (by simp)
  have baseIs : besideBase.location (PathBuf.ofStr "/b") = some [asBytes "b"] := by decide
  have placeIs : besideBase.location (PathBuf.ofStr "/b/../s") = some [asBytes "s"] := by
    decide
  obtain rfl := Option.some.inj (baseIs.symm.trans foundBase)
  obtain rfl := Option.some.inj (placeIs.symm.trans found)
  exact absurd below (by decide)

end Cafce
