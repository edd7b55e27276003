import Cafce.Library.Fallible
import Cafce.Library.KeyedSort
import Cafce.Model.Errors
import Cafce.Model.FileSystem

/-! Resolving the patterns of a key to the files they match below a base path. -/

namespace Cafce

open KeyedSort

/-- `glob::Pattern::escape` -/
def escape (text : String) : String :=
  String.ofList (text.toList.flatMap fun char =>
    if char ∈ ['?', '*', '[', ']'] then ['[', char, ']'] else [char])

/-- `file_matcher::FileMatcher` -/
structure FileMatcher where
  maxFiles : Nat
deriving DecidableEq, Repr

namespace FileMatcher

/-- The pattern that is handed to the glob crate. -/
def fullPattern (basePath : PathBuf) (pattern : String) : String :=
  ((PathBuf.ofStr (escape basePath.toStringLossy)).join (PathBuf.ofStr pattern)).toStringLossy

/-- Below a UTF-8 base path the pattern is what joining the texts gives. -/
theorem fullPattern_ofStr {base pattern full : String}
    (joined : (PathBuf.ofStr (escape base)).join (PathBuf.ofStr pattern) = PathBuf.ofStr full)
    : fullPattern (PathBuf.ofStr base) pattern = full := by
  rw [fullPattern, PathBuf.toStringLossy_ofStr, joined, PathBuf.toStringLossy_ofStr]

/-- The loop body before insertion: the files that one pattern selects, in glob order.
Items that glob could not read are dropped.
-/
def matchPattern (files : FileView) (basePath : PathBuf) (pattern : String)
    : Except AnyhowError (List PathBuf) := do
  if (PathBuf.ofStr pattern).isAbsolute then
    throw (.cacheKey (.absolutePathNotAllowed pattern))
  let globResult ← (files.glob (fullPattern basePath pattern)).mapError fun error =>
    .context ("パターンマッチングに失敗しました: " ++ pattern) (.foreign error)
  -- `starts_with` compares components, so a `..` after the base passes
  return (globResult.filterMap Except.toOption).filter fun path =>
    files.isFile path && path.startsWith basePath

/-- `FileMatcher::resolve_patterns`. The set of all files is listed without repetition; its
iteration order does not matter (`resolved_of_perm`).
-/
def resolvePatterns (matcher : FileMatcher) (files : FileView) (patterns : List String)
    (basePath : PathBuf)
    : Except AnyhowError (List PathBuf) := do
  let allFiles ← patterns.foldlM (fun allFiles pattern =>
    (matchPattern files basePath pattern).map (collect PathBuf.key allFiles)) []
  if matcher.maxFiles < allFiles.length then
    throw (.cacheKey (.tooManyFiles allFiles.length matcher.maxFiles))
  return sortBy PathBuf.key allFiles

/-- What becomes of the files that the patterns selected. -/
def resolved (matcher : FileMatcher) (selected : List (List PathBuf))
    : Except AnyhowError (List PathBuf) :=
  let allFiles := collect PathBuf.key [] selected.flatten
  if matcher.maxFiles < allFiles.length then
    .error (.cacheKey (.tooManyFiles allFiles.length matcher.maxFiles))
  else .ok (sortBy PathBuf.key allFiles)

/-- Selection and limit: the patterns are matched first, then their files are merged. -/
theorem resolvePatterns_eq (matcher : FileMatcher) (files : FileView)
    (patterns : List String) (basePath : PathBuf)
    : matcher.resolvePatterns files patterns basePath
      = patterns.mapM (matchPattern files basePath) >>= matcher.resolved := by
  rw [resolvePatterns, Fallible.foldlM_eq_mapM]
  cases patterns.mapM (matchPattern files basePath) with
  | error error => rfl
  | ok selected =>
      have merged : selected.foldl (collect PathBuf.key) []
          = collect PathBuf.key [] selected.flatten := by
        rw [collect, List.foldl_flatten]
        rfl
      simp only [Except.map, Fallible.ok_bind, merged, resolved]
      split <;> rfl

theorem resolved_eq_ok_iff {matcher : FileMatcher} {selected : List (List PathBuf)}
    {result : List PathBuf}
    : matcher.resolved selected = .ok result
      ↔ (collect PathBuf.key [] selected.flatten).length ≤ matcher.maxFiles
        ∧ result = sortBy PathBuf.key (collect PathBuf.key [] selected.flatten) := by
  rw [resolved]
  split
  case isTrue exceeded => simp; omega
  case isFalse within => simp [Nat.le_of_not_lt within, eq_comm]

/-- Any order in which the set of files is iterated gives the same sorted list. -/
theorem resolved_of_perm {selected : List (List PathBuf)} {iterated : List PathBuf}
    (perm : (collect PathBuf.key [] selected.flatten).Perm iterated)
    : sortBy PathBuf.key iterated
      = sortBy PathBuf.key (collect PathBuf.key [] selected.flatten) :=
  (sortBy_eq_of_perm (collect_distinct (by simp [Distinct]) _) perm).symm

/-- A pattern is accepted when it is relative and glob accepts it below the base. -/
theorem matchPattern_eq_ok_iff {files : FileView} {basePath : PathBuf} {pattern : String}
    {selected : List PathBuf}
    : matchPattern files basePath pattern = .ok selected
      ↔ (PathBuf.ofStr pattern).isAbsolute = false
        ∧ ∃ items, files.glob (fullPattern basePath pattern) = .ok items
          ∧ ((items.filterMap Except.toOption).filter fun path =>
              files.isFile path && path.startsWith basePath) = selected := by
  rw [matchPattern]
  cases absolute : (PathBuf.ofStr pattern).isAbsolute with
  | true => simp
  | false => simp [Fallible.bind_eq_ok_iff]

/-- A pattern that the loop does not accept: absolute, or malformed for glob. -/
def Rejected (files : FileView) (basePath : PathBuf) (pattern : String) : Prop :=
  (PathBuf.ofStr pattern).isAbsolute
  ∨ ∃ error, files.glob (fullPattern basePath pattern) = .error error

theorem rejected_iff {files : FileView} {basePath : PathBuf} {pattern : String}
    : Rejected files basePath pattern
      ↔ ∃ error, matchPattern files basePath pattern = .error error := by
  rw [Rejected, matchPattern]
  cases (PathBuf.ofStr pattern).isAbsolute with
  | true => simp
  | false =>
      cases files.glob (fullPattern basePath pattern) <;> simp [Except.mapError]

theorem isAbsolute_of_accepted {files : FileView} {basePath : PathBuf} {pattern : String}
    (accepted : ¬ Rejected files basePath pattern)
    : (PathBuf.ofStr pattern).isAbsolute = false := by
  cases absolute : (PathBuf.ofStr pattern).isAbsolute with
  | false => rfl
  | true => exact absurd (Or.inl absolute) accepted

/-- The path that an item of glob holds, if it could be read. -/
theorem mem_readable_iff {items : List (Except ForeignError PathBuf)} {path : PathBuf}
    : path ∈ items.filterMap Except.toOption ↔ .ok path ∈ items := by
  rw [List.mem_filterMap]
  constructor
  · intro converted
    obtain ⟨item, member, same⟩ := converted
    cases item with
    | error error => cases same
    | ok found => exact Option.some.inj same ▸ member
  · exact fun member => ⟨.ok path, member, rfl⟩

/-- A file that glob yields for one of the patterns and that the filter lets pass. -/
structure Selected (files : FileView) (basePath : PathBuf) (patterns : List String)
    (path : PathBuf)
    : Prop where
  yielded : ∃ pattern ∈ patterns, ∃ items,
    files.glob (fullPattern basePath pattern) = .ok items ∧ .ok path ∈ items
  file : files.isFile path
  starts : path.startsWith basePath

/-- What one accepted pattern adds is what is selected by it. -/
theorem mem_matchPattern_iff {files : FileView} {basePath path : PathBuf} {pattern : String}
    {chosen : List PathBuf} (selects : matchPattern files basePath pattern = .ok chosen)
    : path ∈ chosen ↔ Selected files basePath [pattern] path := by
  obtain ⟨_, items, globbed, rfl⟩ := matchPattern_eq_ok_iff.mp selects
  rw [List.mem_filter, mem_readable_iff, Bool.and_eq_true]
  constructor
  · intro passes
    obtain ⟨member, file, starts⟩ := passes
    exact ⟨⟨pattern, List.mem_singleton_self _, items, globbed, member⟩, file, starts⟩
  · intro selected
    obtain ⟨other, single, otherItems, otherGlobbed, member⟩ := selected.yielded
    obtain rfl := List.mem_singleton.mp single
    obtain rfl := Except.ok.inj (globbed.symm.trans otherGlobbed)
    exact ⟨member, selected.file, selected.starts⟩

/-- The loop accepts the patterns exactly when none of them is rejected. -/
theorem exists_matched_iff {files : FileView} {basePath : PathBuf} {patterns : List String}
    : (∃ found, patterns.mapM (matchPattern files basePath) = .ok found)
      ↔ ∀ pattern ∈ patterns, ¬ Rejected files basePath pattern := by
  rw [Fallible.exists_mapM_eq_ok_iff]
  simp only [Fallible.exists_ok_iff, rejected_iff]

/-- What the loop gathers is what is selected. -/
theorem mem_matched_iff {files : FileView} {basePath path : PathBuf}
    {patterns : List String} {found : List (List PathBuf)}
    (matched : patterns.mapM (matchPattern files basePath) = .ok found)
    : path ∈ found.flatten ↔ Selected files basePath patterns path := by
  rw [List.mem_flatten]
  constructor
  · intro gathered
    obtain ⟨chosen, inFound, member⟩ := gathered
    obtain ⟨pattern, inPatterns, selects⟩ := Fallible.exists_of_mem_mapM matched inFound
    obtain ⟨⟨other, single, items, globbed, inItems⟩, file, starts⟩ :=
      (mem_matchPattern_iff selects).mp member
    obtain rfl := List.mem_singleton.mp single
    exact ⟨⟨other, inPatterns, items, globbed, inItems⟩, file, starts⟩
  · intro selected
    obtain ⟨pattern, inPatterns, items, globbed, inItems⟩ := selected.yielded
    obtain ⟨chosen, inFound, selects⟩ := Fallible.exists_mem_of_mapM matched inPatterns
    have only : Selected files basePath [pattern] path :=
      ⟨⟨pattern, List.mem_singleton_self _, items, globbed, inItems⟩, selected.file,
        selected.starts⟩
    exact ⟨chosen, inFound, (mem_matchPattern_iff selects).mpr only⟩

/-- Nothing is resolved when a pattern is rejected. -/
theorem not_ok_of_rejected {matcher : FileMatcher} {files : FileView}
    {patterns : List String} {basePath : PathBuf} {result : List PathBuf} {pattern : String}
    (member : pattern ∈ patterns) (rejected : Rejected files basePath pattern)
    : matcher.resolvePatterns files patterns basePath ≠ .ok result := by
  intro success
  rw [resolvePatterns_eq] at success
  obtain ⟨selected, matched, _⟩ := Fallible.bind_eq_ok_iff.mp success
  exact exists_matched_iff.mp ⟨selected, matched⟩ pattern member rejected

/-- Every resolved path is selected. -/
theorem selected_of_resolved {matcher : FileMatcher} {files : FileView}
    {patterns : List String} {basePath : PathBuf} {result : List PathBuf} {path : PathBuf}
    (success : matcher.resolvePatterns files patterns basePath = .ok result)
    (member : path ∈ result)
    : Selected files basePath patterns path := by
  rw [resolvePatterns_eq] at success
  obtain ⟨found, matched, merged⟩ := Fallible.bind_eq_ok_iff.mp success
  rw [resolved_eq_ok_iff] at merged
  rw [merged.2, mem_sortBy] at member
  exact (mem_matched_iff matched).mp ((mem_collect member).resolve_left List.not_mem_nil)

end FileMatcher

end Cafce
