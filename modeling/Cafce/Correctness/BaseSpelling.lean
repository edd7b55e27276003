import Cafce.Correctness.KeyAmbiguity
import Cafce.Correctness.PartialView
import Cafce.Correctness.Relocation

/-! The current directory as base path, spelled `.` or by its absolute path. Glob drops a
leading `./` from what it yields, but the filter compares components with the base path as it
is spelled.
-/

namespace Cafce

open DirectoryTree Fallible FileMatcher

/-- The absolute UTF-8 base path leads to the current directory. -/
structure NamesCurrentDir (fs : FileSystem) (basePath : PathBuf) : Prop where
  absolute : basePath.isAbsolute
  utf8 : ∃ text, basePath = PathBuf.ofStr text
  leads : fs.location basePath = some fs.currentDir

/-- The base path `.` -/
def dotPath : PathBuf := PathBuf.ofStr "."

/-- What the glob crate yields for a relative pattern: below `.` the matched relative paths,
without a leading `./`, and below the absolute base path that base joined with them; or a
refusal below both.
-/
structure YieldsBare (glob : GlobCrate) (fs : FileSystem) (basePath : PathBuf)
    (pattern : String) (matched : Option (List PathBuf))
    : Prop where
  refused : matched = none
    → (∃ error, glob fs (fullPattern dotPath pattern) = .error error)
      ∧ ∃ error, glob fs (fullPattern basePath pattern) = .error error
  yielded : ∀ rels, matched = some rels → ∃ bareItems items,
    glob fs (fullPattern dotPath pattern) = .ok bareItems
    ∧ glob fs (fullPattern basePath pattern) = .ok items
    ∧ bareItems.filterMap Except.toOption = rels
    ∧ List.Forall₂ (fun path rel => path.Same (basePath.join rel))
        (items.filterMap Except.toOption) rels
  relative : ∀ rels, matched = some rels → ∀ rel ∈ rels, rel.isAbsolute = false
  bare : ∀ rels, matched = some rels → ∀ rel ∈ rels,
    .curDir ∈ rel.components → rel.components = [.curDir]

/-- Some matched path is a file of the current directory. -/
def MatchesFile (fs : FileSystem) (patterns : List String)
    (matched : String → Option (List PathBuf))
    : Prop :=
  ∃ pattern ∈ patterns, ∃ rels, matched pattern = some rels ∧ ∃ rel ∈ rels, fs.isFile rel

/-- A relative path is a file exactly when the absolute base joined with it is. -/
theorem NamesCurrentDir.isFile_join {fs : FileSystem} {basePath path rel : PathBuf}
    (names : NamesCurrentDir fs basePath) (relative : rel.isAbsolute = false)
    (same : path.Same (basePath.join rel))
    : fs.isFile path = fs.isFile rel := by
  have located : fs.location path = fs.location rel := by
    rw [fs.location_of_relative relative, FileSystem.location, same.1,
      PathBuf.components_join names.absolute relative, Tree.walk_append]
    change (fs.location basePath).bind _ = _
    rw [names.leads, Option.bind_some]
  have directory : path.namesDirectory = rel.namesDirectory :=
    same.2.trans (PathBuf.namesDirectory_join names.absolute relative)
  rw [FileSystem.isFile, FileSystem.isFile, FileSystem.file?, FileSystem.file?, located,
    directory]

/-- A key that is made of no file is not made of some. -/
theorem keyOfContents_ne {sha256 : List UInt8 → Digest} {keyPrefix : Option String}
    {contents : List (List UInt8)} (nonempty : contents ≠ [])
    : CacheKeyGenerator.keyOfContents sha256 keyPrefix contents
      ≠ CacheKeyGenerator.keyOfContents sha256 keyPrefix [] := by
  intro same
  rcases bareKey_eq (keyOfContents_split same).2 with ⟨empty, _⟩ | ⟨_, absurdly, _⟩
  · exact nonempty empty
  · exact absurdly rfl

/-- The fallback key is the outcome exactly when nothing is selected. -/
theorem outcome_eq_fallback_iff (generator : CacheKeyGenerator) {files : FileView}
    {patterns : List String}
    (accepted : ∀ pattern ∈ patterns, ¬ Rejected files generator.basePath pattern)
    (sha256 : List UInt8 → Digest) (keyPrefix : Option String)
    : (generator.generateKey sha256 files ⟨patterns, keyPrefix⟩).outcome
        = .ok (CacheKeyGenerator.keyOfContents sha256 keyPrefix [])
      ↔ ∀ path, ¬ Selected files generator.basePath patterns path := by
  obtain ⟨paths, lists, outcome⟩ := outcome_of_accepted generator accepted
  rw [outcome]
  constructor
  · intro fallback path selected
    obtain ⟨same, member, _⟩ := lists.complete path selected
    split at fallback
    · cases fallback
    · cases read : paths.mapM (readFile files) with
      | error error =>
          rw [read] at fallback
          cases fallback
      | ok contents =>
          rw [read] at fallback
          obtain ⟨content, inContents, _⟩ := exists_mem_of_mapM read member
          exact keyOfContents_ne (List.ne_nil_of_mem inContents) (Except.ok.inj fallback)
  · intro none
    have empty : paths = [] := by
      refine List.eq_nil_iff_forall_not_mem.mpr fun path member => ?_
      exact none path (lists.sound path member)
    have within : ¬ generator.maxFiles < selectedCount files generator.basePath patterns := by
      rw [← lists.length_eq, empty]
      exact Nat.not_lt_zero _
    rw [if_neg within, empty]
    rfl

section Spellings

variable {glob : GlobCrate} {fs : FileSystem} {basePath : PathBuf} {patterns : List String}
  {matched : String → Option (List PathBuf)}

/-- Nothing that starts with `.` is yielded but the current directory itself, so nothing is
selected below `.`.
-/
theorem not_selected_dot
    (yields : ∀ pattern ∈ patterns, (PathBuf.ofStr pattern).isAbsolute = false
      → YieldsBare glob fs basePath pattern (matched pattern))
    (accepted : ∀ pattern ∈ patterns, ¬ Rejected (fs.view glob) dotPath pattern)
    (path : PathBuf)
    : ¬ Selected (fs.view glob) dotPath patterns path := by
  intro selected
  obtain ⟨pattern, member, items, globbed, inItems⟩ := selected.yielded
  have bare := yields pattern member (isAbsolute_of_accepted (accepted pattern member))
  cases relatives : matched pattern with
  | none =>
      obtain ⟨error, refused⟩ := (bare.refused relatives).1
      cases refused.symm.trans globbed
  | some rels =>
      obtain ⟨bareItems, _, bareGlobbed, _, same, _⟩ := bare.yielded rels relatives
      obtain rfl := Except.ok.inj (bareGlobbed.symm.trans globbed)
      have inRels : path ∈ rels := same ▸ mem_readable_iff.mpr inItems
      have dot : dotPath.components = [.curDir] := by decide
      have leading : .curDir ∈ path.components :=
        (PathBuf.startsWith_iff.mp selected.starts).subset (dot ▸ List.mem_singleton_self _)
      have file : fs.isFile path = true := selected.file
      rw [FileSystem.isFile_of_curDir (bare.bare rels relatives path inRels leading)] at file
      cases file

/-- Below the absolute base path a file is selected exactly when a matched path is one. -/
theorem exists_selected_iff (names : NamesCurrentDir fs basePath)
    (yields : ∀ pattern ∈ patterns, (PathBuf.ofStr pattern).isAbsolute = false
      → YieldsBare glob fs basePath pattern (matched pattern))
    (accepted : ∀ pattern ∈ patterns, ¬ Rejected (fs.view glob) basePath pattern)
    : (∃ path, Selected (fs.view glob) basePath patterns path)
      ↔ MatchesFile fs patterns matched := by
  constructor
  · intro some
    obtain ⟨path, ⟨pattern, member, items, globbed, inItems⟩, file, _⟩ := some
    have bare := yields pattern member (isAbsolute_of_accepted (accepted pattern member))
    cases relatives : matched pattern with
    | none =>
        obtain ⟨error, refused⟩ := (bare.refused relatives).2
        cases refused.symm.trans globbed
    | some rels =>
        obtain ⟨_, others, _, joinedGlobbed, _, joined⟩ := bare.yielded rels relatives
        obtain rfl := Except.ok.inj (joinedGlobbed.symm.trans globbed)
        obtain ⟨rel, inRels, same⟩ :=
          exists_right_of_mem joined (mem_readable_iff.mpr inItems)
        have relative := bare.relative rels relatives rel inRels
        exact ⟨pattern, member, rels, relatives, rel, inRels,
          names.isFile_join relative same ▸ file⟩
  · intro some
    obtain ⟨pattern, member, rels, relatives, rel, inRels, file⟩ := some
    have bare := yields pattern member (isAbsolute_of_accepted (accepted pattern member))
    obtain ⟨_, items, _, globbed, _, joined⟩ := bare.yielded rels relatives
    obtain ⟨path, yielded, same⟩ := exists_left_of_mem joined inRels
    have relative := bare.relative rels relatives rel inRels
    exact ⟨path, ⟨pattern, member, items, globbed, mem_readable_iff.mp yielded⟩,
      (names.isFile_join relative same).trans file,
      same.startsWith_join names.absolute relative⟩

/-- One pattern is refused alike below both spellings. -/
theorem matchPattern_spelled {pattern : String}
    (yields : (PathBuf.ofStr pattern).isAbsolute = false
      → YieldsBare glob fs basePath pattern (matched pattern))
    : Related SameError (fun _ _ => True)
        (FileMatcher.matchPattern (fs.view glob) dotPath pattern)
        (FileMatcher.matchPattern (fs.view glob) basePath pattern) := by
  cases absolute : (PathBuf.ofStr pattern).isAbsolute with
  | true =>
      rw [FileMatcher.matchPattern, if_pos absolute, FileMatcher.matchPattern, if_pos absolute]
      rfl
  | false =>
      have bare := yields absolute
      cases relatives : matched pattern with
      | none =>
          obtain ⟨⟨_, dotRefused⟩, ⟨_, baseRefused⟩⟩ := bare.refused relatives
          simp only [FileMatcher.matchPattern, absolute, FileSystem.view, dotRefused,
            baseRefused]
          rfl
      | some rels =>
          obtain ⟨_, _, dotGlobbed, baseGlobbed, _⟩ := bare.yielded rels relatives
          simp only [FileMatcher.matchPattern, absolute, FileSystem.view, dotGlobbed,
            baseGlobbed]
          trivial

/-- Below `.` and below its absolute path the outcomes agree exactly when a pattern is
rejected or nothing that the patterns match is a file.
Witness: rejections agree pattern by pattern; without them `.` gives the fallback key, which
no selected file leaves unchanged.
-/
theorem generateKey_dot_iff (names : NamesCurrentDir fs basePath)
    (matched : String → Option (List PathBuf))
    (noParent : ∀ pattern ∈ patterns,
      Component.parentDir ∉ (PathBuf.ofStr pattern).components)
    (glob_yields : ∀ pattern ∈ patterns, (PathBuf.ofStr pattern).isAbsolute = false
      → Component.parentDir ∉ (PathBuf.ofStr pattern).components
      → YieldsBare glob fs basePath pattern (matched pattern))
    (sha256 : List UInt8 → Digest) (maxFiles : Nat) (keyPrefix : Option String)
    : Related SameError Eq
        ((CacheKeyGenerator.mk maxFiles dotPath).generateKey sha256 (fs.view glob)
          ⟨patterns, keyPrefix⟩).outcome
        ((CacheKeyGenerator.mk maxFiles basePath).generateKey sha256 (fs.view glob)
          ⟨patterns, keyPrefix⟩).outcome
      ↔ (∃ pattern ∈ patterns, Rejected (fs.view glob) basePath pattern)
        ∨ ¬ MatchesFile fs patterns matched := by
  have yields : ∀ pattern ∈ patterns, (PathBuf.ofStr pattern).isAbsolute = false
      → YieldsBare glob fs basePath pattern (matched pattern) :=
    fun pattern member relative => glob_yields pattern member relative (noParent pattern member)
  have spelled : Related SameError (List.Forall₂ fun _ _ => True)
      (patterns.mapM (FileMatcher.matchPattern (fs.view glob) dotPath))
      (patterns.mapM (FileMatcher.matchPattern (fs.view glob) basePath)) :=
    Related.mapM (List.forall₂_same.mpr fun pattern member => ⟨rfl, member⟩)
      fun left right (shared : left = right ∧ left ∈ patterns) =>
        shared.1 ▸ matchPattern_spelled (yields left shared.2)
  cases matchedDot : patterns.mapM (FileMatcher.matchPattern (fs.view glob) dotPath) with
  | error error =>
      obtain ⟨other, refused, same⟩ := spelled.exists_of_error matchedDot
      have rejected : ∃ pattern ∈ patterns, Rejected (fs.view glob) basePath pattern := by
        by_contra none
        obtain ⟨others, accepted⟩ := exists_matched_iff.mpr
          fun pattern member refusal => none ⟨pattern, member, refusal⟩
        cases refused.symm.trans accepted
      refine ⟨fun _ => Or.inl rejected, fun _ => ?_⟩
      rw [CacheKeyGenerator.outcome_generateKey, CacheKeyGenerator.outcome_generateKey,
        resolvePatterns_eq, resolvePatterns_eq, matchedDot, refused]
      exact same
  | ok found =>
      obtain ⟨others, foundBase, _⟩ := spelled.exists_of_ok matchedDot
      have dotAccepted := exists_matched_iff.mp ⟨found, matchedDot⟩
      have accepted := exists_matched_iff.mp ⟨others, foundBase⟩
      have none : ¬ ∃ pattern ∈ patterns, Rejected (fs.view glob) basePath pattern :=
        fun ⟨pattern, member, refusal⟩ => accepted pattern member refusal
      have dot := (outcome_eq_fallback_iff (CacheKeyGenerator.mk maxFiles dotPath) dotAccepted
        sha256 keyPrefix).mpr (not_selected_dot yields dotAccepted)
      have base := outcome_eq_fallback_iff (CacheKeyGenerator.mk maxFiles basePath) accepted
        sha256 keyPrefix
      rw [dot, related_ok_iff, exists_eq_right', base, or_iff_right none,
        ← exists_selected_iff names yields accepted, not_exists]

end Spellings

/-- The names `k` below the current directory `/b`, in both spellings. -/
def bareTable : List (String × List (Except ForeignError PathBuf)) :=
  [("./k", [.ok (PathBuf.ofStr "k")]), ("/b/k", [.ok (PathBuf.ofStr "/b/k")])]

theorem besideBase_names : NamesCurrentDir besideBase (PathBuf.ofStr "/b") where
  absolute := by decide
  utf8 := ⟨"/b", rfl⟩
  leads := by decide

theorem bareTable_yields
    : YieldsBare (tableGlob bareTable) besideBase (PathBuf.ofStr "/b") "k"
        (some [PathBuf.ofStr "k"]) where
  refused := by simp
  yielded := by
    have dotFull : fullPattern dotPath "k" = "./k" := fullPattern_ofStr (by decide)
    have baseFull : fullPattern (PathBuf.ofStr "/b") "k" = "/b/k" :=
      fullPattern_ofStr (by decide)
    intro rels same
    obtain rfl := Option.some.inj same
    rw [dotFull, baseFull]
    exact ⟨[.ok (PathBuf.ofStr "k")], [.ok (PathBuf.ofStr "/b/k")], by decide, by decide, rfl,
      List.Forall₂.cons ⟨by decide, by decide⟩ List.Forall₂.nil⟩
  relative := by
    intro rels same rel member
    obtain rfl := Option.some.inj same
    obtain rfl := List.mem_singleton.mp member
    decide
  bare := by
    intro rels same rel member
    obtain rfl := Option.some.inj same
    obtain rfl := List.mem_singleton.mp member
    decide

/-- The two spellings of `/b` compared on the pattern `k`. -/
theorem generateKey_dot_iff_besideBase
    : Related SameError Eq
        ((CacheKeyGenerator.mk 50 dotPath).generateKey (fun _ => Vector.replicate 32 7)
          (besideBase.view (tableGlob bareTable)) ⟨["k"], none⟩).outcome
        ((CacheKeyGenerator.mk 50 (PathBuf.ofStr "/b")).generateKey
          (fun _ => Vector.replicate 32 7) (besideBase.view (tableGlob bareTable))
          ⟨["k"], none⟩).outcome
      ↔ (∃ pattern ∈ ["k"],
          Rejected (besideBase.view (tableGlob bareTable)) (PathBuf.ofStr "/b") pattern)
        ∨ ¬ MatchesFile besideBase ["k"] fun _ => some [PathBuf.ofStr "k"] :=
  generateKey_dot_iff besideBase_names (fun _ => some [PathBuf.ofStr "k"]) (by decide)
    (by simpa using fun _ _ => bareTable_yields) (fun _ => Vector.replicate 32 7) 50 none

/-- The file `/b/k` makes a key below `/b`, but the fallback key below `.`. -/
theorem dot_selects_nothing
    : NamesCurrentDir besideBase (PathBuf.ofStr "/b")
      ∧ YieldsBare (tableGlob bareTable) besideBase (PathBuf.ofStr "/b") "k"
          (some [PathBuf.ofStr "k"])
      ∧ ((CacheKeyGenerator.mk 50 dotPath).generateKey (fun _ => Vector.replicate 32 7)
          (besideBase.view (tableGlob bareTable)) ⟨["k"], none⟩).outcome = .ok "default"
      ∧ ((CacheKeyGenerator.mk 50 (PathBuf.ofStr "/b")).generateKey
          (fun _ => Vector.replicate 32 7) (besideBase.view (tableGlob bareTable))
          ⟨["k"], none⟩).outcome = .ok (lowerHex (Vector.replicate 32 7))
      ∧ ¬ Related SameError Eq
          ((CacheKeyGenerator.mk 50 dotPath).generateKey (fun _ => Vector.replicate 32 7)
            (besideBase.view (tableGlob bareTable)) ⟨["k"], none⟩).outcome
          ((CacheKeyGenerator.mk 50 (PathBuf.ofStr "/b")).generateKey
            (fun _ => Vector.replicate 32 7) (besideBase.view (tableGlob bareTable))
            ⟨["k"], none⟩).outcome := by
  have dotSelects : FileMatcher.matchPattern (besideBase.view (tableGlob bareTable)) dotPath
      "k" = .ok [] :=
    matchPattern_tableGlob bareTable "./k" (by decide) (by decide) (by decide)
  have baseSelects : FileMatcher.matchPattern (besideBase.view (tableGlob bareTable))
      (PathBuf.ofStr "/b") "k" = .ok [PathBuf.ofStr "/b/k"] :=
    matchPattern_tableGlob bareTable "/b/k" (by decide) (by decide) (by decide)
  have merged : (FileMatcher.mk 50).resolved [[PathBuf.ofStr "/b/k"]]
      = .ok [PathBuf.ofStr "/b/k"] := by
    decide
  have read : [PathBuf.ofStr "/b/k"].mapM (readFile (besideBase.view (tableGlob bareTable)))
      = .ok [asBytes "inside"] := by
    decide
  have dot := outcome_of_selects ⟨50, dotPath⟩ dotSelects rfl rfl
    (fun _ => Vector.replicate 32 7) none
  have base := outcome_of_selects ⟨50, PathBuf.ofStr "/b"⟩ baseSelects merged read
    (fun _ => Vector.replicate 32 7) none
  refine ⟨besideBase_names, bareTable_yields, dot, base, ?_⟩
  rw [dot, base]
  exact keyOfContents_ne (by simp) ∘ Eq.symm

end Cafce
