import Cafce.Model.CacheKey
import Mathlib.Data.Set.Card

/-! What resolving patterns returns, exactly: the selected paths in order, or the number of
them when the limit is exceeded. Patterns matter through what they select only.
-/

namespace Cafce

open DirectoryTree Fallible KeyedSort

namespace FileMatcher

/-- The selected paths as they compare, so that equal paths count once. -/
def selectedComponents (files : FileView) (basePath : PathBuf) (patterns : List String)
    : Set (List (Component OsString)) :=
  PathBuf.components '' {path | Selected files basePath patterns path}

/-- Number of selected paths. -/
noncomputable def selectedCount (files : FileView) (basePath : PathBuf)
    (patterns : List String)
    : Nat :=
  (selectedComponents files basePath patterns).ncard

/-- The list holds the selected paths, each once, in strictly ascending order. -/
structure ListsSelected (files : FileView) (basePath : PathBuf) (patterns : List String)
    (paths : List PathBuf)
    : Prop where
  sound : ∀ path ∈ paths, Selected files basePath patterns path
  complete : ∀ path, Selected files basePath patterns path
    → ∃ same ∈ paths, same.components = path.components
  strict : paths.Pairwise fun left right => left.key < right.key

/-- Equal results: both fail, or both succeed with equal paths in the same order. -/
def SameResolution (left right : Except AnyhowError (List PathBuf)) : Prop :=
  Related (fun _ _ => True)
    (fun lefts rights => lefts.map PathBuf.components = rights.map PathBuf.components)
    left right

/-- Keys of listed paths are the components of the selected ones. -/
theorem ListsSelected.keys {files : FileView} {basePath : PathBuf} {patterns : List String}
    {paths : List PathBuf} (lists : ListsSelected files basePath patterns paths)
    (k : List (List Nat))
    : k ∈ paths.map PathBuf.key
      ↔ k ∈ (List.map PathBuf.componentKey) '' selectedComponents files basePath patterns := by
  rw [List.mem_map]
  constructor
  · intro listed
    obtain ⟨path, member, rfl⟩ := listed
    exact ⟨path.components, ⟨path, lists.sound path member, rfl⟩, rfl⟩
  · intro selected
    obtain ⟨_, ⟨path, chosen, rfl⟩, rfl⟩ := selected
    obtain ⟨same, member, components⟩ := lists.complete path chosen
    exact ⟨same, member, PathBuf.key_eq_iff.mpr components⟩

/-- What is collected from the selections of the patterns lists the selected paths. -/
theorem listsSelected_of_matched {files : FileView} {basePath : PathBuf}
    {patterns : List String} {found : List (List PathBuf)}
    (matched : patterns.mapM (matchPattern files basePath) = .ok found)
    : ListsSelected files basePath patterns
        (sortBy PathBuf.key (collect PathBuf.key [] found.flatten)) where
  sound := by
    intro path member
    have gathered := (mem_collect (mem_sortBy.mp member)).resolve_left List.not_mem_nil
    exact (mem_matched_iff matched).mp gathered
  complete := by
    intro path selected
    have gathered := List.mem_map_of_mem (f := PathBuf.key)
      ((mem_matched_iff matched).mpr selected)
    obtain ⟨same, kept, keys⟩ :=
      List.mem_map.mp ((keys_collect _ [] _ _).mpr (Or.inr gathered))
    exact ⟨same, mem_sortBy.mpr kept, PathBuf.key_eq_iff.mp keys⟩
  strict := sortBy_strict (collect_distinct (by simp [Distinct]) _)

theorem ListsSelected.keys_nodup {files : FileView} {basePath : PathBuf}
    {patterns : List String} {paths : List PathBuf}
    (lists : ListsSelected files basePath patterns paths)
    : (paths.map PathBuf.key).Nodup :=
  (List.pairwise_map.mpr lists.strict).imp ne_of_lt

theorem ListsSelected.length_eq {files : FileView} {basePath : PathBuf}
    {patterns : List String} {paths : List PathBuf}
    (lists : ListsSelected files basePath patterns paths)
    : paths.length = selectedCount files basePath patterns := by
  have keys : (List.map PathBuf.componentKey) '' selectedComponents files basePath patterns
      = (paths.map PathBuf.key).toFinset := by
    ext k
    rw [Finset.mem_coe, List.mem_toFinset, lists.keys]
  calc
    paths.length = (paths.map PathBuf.key).toFinset.card := by
      rw [List.toFinset_card_of_nodup lists.keys_nodup, List.length_map]
    _ = ((List.map PathBuf.componentKey)
          '' selectedComponents files basePath patterns).ncard := by
      rw [keys, Set.ncard_coe_finset]
    _ = selectedCount files basePath patterns :=
      Set.ncard_image_of_injective _ PathBuf.map_componentKey_injective

/-- Patterns select finitely many paths. -/
theorem selectedComponents_finite (files : FileView) (basePath : PathBuf)
    (patterns : List String)
    : (selectedComponents files basePath patterns).Finite := by
  let yielded : List PathBuf := patterns.flatMap fun pattern =>
    ((files.glob (fullPattern basePath pattern)).toOption.getD []).filterMap Except.toOption
  refine ((List.finite_toSet yielded).image PathBuf.components).subset ?_
  apply Set.image_mono
  intro path selected
  obtain ⟨pattern, member, items, globbed, inItems⟩ := selected.yielded
  refine List.mem_flatMap.mpr ⟨pattern, member, ?_⟩
  simpa [globbed, Except.toOption] using ⟨.ok path, inItems, rfl⟩

/-- Accepted patterns: the limit decides between the count and the list. -/
theorem resolvePatterns_of_accepted (matcher : FileMatcher) {files : FileView}
    {basePath : PathBuf} {patterns : List String}
    (accepted : ∀ pattern ∈ patterns, ¬ Rejected files basePath pattern)
    : ∃ paths,
        ListsSelected files basePath patterns paths
        ∧ matcher.resolvePatterns files patterns basePath
          = if matcher.maxFiles < selectedCount files basePath patterns then
              .error (.cacheKey
                (.tooManyFiles (selectedCount files basePath patterns) matcher.maxFiles))
            else .ok paths := by
  obtain ⟨found, matched⟩ := exists_matched_iff.mpr accepted
  have lists := listsSelected_of_matched matched
  have count : (collect PathBuf.key [] found.flatten).length
      = selectedCount files basePath patterns := by
    rw [← lists.length_eq, (sortBy_perm _ _).length_eq]
  refine ⟨_, lists, ?_⟩
  rw [resolvePatterns_eq, matched, ok_bind, resolved, count]

/-- A rejected pattern makes resolution fail, but not for the number of files. -/
theorem resolvePatterns_of_rejected (matcher : FileMatcher) {files : FileView}
    {basePath : PathBuf} {patterns : List String}
    (rejected : ∃ pattern ∈ patterns, Rejected files basePath pattern)
    : ∃ error,
        matcher.resolvePatterns files patterns basePath = .error error
        ∧ ∀ count limit, error ≠ .cacheKey (.tooManyFiles count limit) := by
  cases matched : patterns.mapM (matchPattern files basePath) with
  | ok found =>
      obtain ⟨pattern, member, refused⟩ := rejected
      exact absurd refused (exists_matched_iff.mp ⟨found, matched⟩ pattern member)
  | error error =>
      refine ⟨error, by rw [resolvePatterns_eq, matched, error_bind], ?_⟩
      rintro count limit rfl
      obtain ⟨_, pattern, _, _, _, failed⟩ := mapM_eq_error_iff.mp matched
      rw [matchPattern] at failed
      split at failed
      · cases failed
      · cases globbed : files.glob (fullPattern basePath pattern) with
        | error foreign => simp [globbed, Except.mapError] at failed
        | ok items => simp [globbed, Except.mapError] at failed

/-- Patterns that are rejected alike and select equal paths resolve alike, whatever their
order and number.
-/
theorem sameResolution_of_sameSelected (matcher : FileMatcher) {files : FileView}
    {basePath : PathBuf} {left right : List String}
    (rejected : (∃ pattern ∈ left, Rejected files basePath pattern)
      ↔ ∃ pattern ∈ right, Rejected files basePath pattern)
    (same : selectedComponents files basePath left = selectedComponents files basePath right)
    : SameResolution (matcher.resolvePatterns files left basePath)
        (matcher.resolvePatterns files right basePath) := by
  by_cases refused : ∃ pattern ∈ left, Rejected files basePath pattern
  · obtain ⟨leftError, leftFails, _⟩ := resolvePatterns_of_rejected matcher refused
    obtain ⟨rightError, rightFails, _⟩ :=
      resolvePatterns_of_rejected matcher (rejected.mp refused)
    rw [leftFails, rightFails]
    trivial
  · have leftAccepted : ∀ pattern ∈ left, ¬ Rejected files basePath pattern :=
      fun pattern member refusal => refused ⟨pattern, member, refusal⟩
    have rightAccepted : ∀ pattern ∈ right, ¬ Rejected files basePath pattern :=
      fun pattern member refusal => refused (rejected.mpr ⟨pattern, member, refusal⟩)
    obtain ⟨lefts, leftLists, leftResult⟩ := resolvePatterns_of_accepted matcher leftAccepted
    obtain ⟨rights, rightLists, rightResult⟩ :=
      resolvePatterns_of_accepted matcher rightAccepted
    have count : selectedCount files basePath left = selectedCount files basePath right :=
      congrArg Set.ncard same
    rw [leftResult, rightResult, count]
    split
    · trivial
    · have keys : lefts.map PathBuf.key = rights.map PathBuf.key :=
        keys_eq_of_strict leftLists.strict rightLists.strict fun k => by
          rw [leftLists.keys, rightLists.keys, same]
      exact PathBuf.map_key_eq_iff.mp keys

/-- When resolution fails and what it returns otherwise. -/
structure ResolvesExactly (matcher : FileMatcher) (files : FileView) (basePath : PathBuf)
    (patterns : List String)
    : Prop where
  finite : (selectedComponents files basePath patterns).Finite
  failure : (∃ error, matcher.resolvePatterns files patterns basePath = .error error)
    ↔ (∃ pattern ∈ patterns, Rejected files basePath pattern)
      ∨ matcher.maxFiles < selectedCount files basePath patterns
  tooMany : ∀ count limit,
    matcher.resolvePatterns files patterns basePath
      = .error (.cacheKey (.tooManyFiles count limit))
    → count = selectedCount files basePath patterns ∧ limit = matcher.maxFiles
  exceeded : (∀ pattern ∈ patterns, ¬ Rejected files basePath pattern)
    → matcher.maxFiles < selectedCount files basePath patterns
    → matcher.resolvePatterns files patterns basePath
      = .error (.cacheKey
          (.tooManyFiles (selectedCount files basePath patterns) matcher.maxFiles))
  success : ∀ paths, matcher.resolvePatterns files patterns basePath = .ok paths
    → ListsSelected files basePath patterns paths ∧ paths.length ≤ matcher.maxFiles

/-- Edits of the pattern list that select nothing new do not change the result. -/
structure IgnoresEdits (matcher : FileMatcher) (files : FileView) (basePath : PathBuf)
    (patterns : List String)
    : Prop where
  permuted : ∀ other, patterns.Perm other
    → SameResolution (matcher.resolvePatterns files patterns basePath)
        (matcher.resolvePatterns files other basePath)
  repeated : ∀ pattern ∈ patterns, ∀ other, (pattern :: patterns).Perm other
    → SameResolution (matcher.resolvePatterns files patterns basePath)
        (matcher.resolvePatterns files other basePath)
  added : ∀ pattern, ¬ Rejected files basePath pattern
    → selectedComponents files basePath [pattern] ⊆ selectedComponents files basePath patterns
    → ∀ other, (pattern :: patterns).Perm other
    → SameResolution (matcher.resolvePatterns files patterns basePath)
        (matcher.resolvePatterns files other basePath)

/-- The patterns of a list matter as a set. -/
theorem selectedComponents_congr {files : FileView} {basePath : PathBuf}
    {left right : List String} (members : ∀ pattern, pattern ∈ left ↔ pattern ∈ right)
    : selectedComponents files basePath left = selectedComponents files basePath right := by
  have selected (path : PathBuf)
      : Selected files basePath left path ↔ Selected files basePath right path := by
    constructor
    · intro chosen
      obtain ⟨⟨pattern, member, yields⟩, file, starts⟩ := chosen
      exact ⟨⟨pattern, (members pattern).mp member, yields⟩, file, starts⟩
    · intro chosen
      obtain ⟨⟨pattern, member, yields⟩, file, starts⟩ := chosen
      exact ⟨⟨pattern, (members pattern).mpr member, yields⟩, file, starts⟩
  simp only [selectedComponents, selected]

theorem selectedComponents_cons (files : FileView) (basePath : PathBuf) (pattern : String)
    (patterns : List String)
    : selectedComponents files basePath (pattern :: patterns)
      = selectedComponents files basePath [pattern]
        ∪ selectedComponents files basePath patterns := by
  rw [selectedComponents, selectedComponents, selectedComponents, ← Set.image_union]
  congr 1
  ext path
  constructor
  · intro chosen
    obtain ⟨⟨other, member, yields⟩, file, starts⟩ := chosen
    rcases List.mem_cons.mp member with rfl | later
    · exact Or.inl ⟨⟨other, List.mem_singleton_self _, yields⟩, file, starts⟩
    · exact Or.inr ⟨⟨other, later, yields⟩, file, starts⟩
  · intro chosen
    rcases chosen with ⟨⟨other, single, yields⟩, file, starts⟩ | ⟨⟨other, member, yields⟩, file, starts⟩
    · exact ⟨⟨other, List.mem_cons.mpr (Or.inl (List.mem_singleton.mp single)), yields⟩, file,
        starts⟩
    · exact ⟨⟨other, List.mem_cons_of_mem _ member, yields⟩, file, starts⟩

/-- A pattern that is accepted, or rejected as another one is, and that selects nothing new
can be added.
-/
theorem sameResolution_of_added (matcher : FileMatcher) {files : FileView}
    {basePath : PathBuf} {patterns other : List String} {pattern : String}
    (accepted : Rejected files basePath pattern
      → ∃ refused ∈ patterns, Rejected files basePath refused)
    (included : selectedComponents files basePath [pattern]
      ⊆ selectedComponents files basePath patterns)
    (perm : (pattern :: patterns).Perm other)
    : SameResolution (matcher.resolvePatterns files patterns basePath)
        (matcher.resolvePatterns files other basePath) := by
  apply sameResolution_of_sameSelected
  · simp only [← perm.mem_iff, List.exists_mem_cons_iff]
    exact ⟨Or.inr, fun refused => refused.elim accepted id⟩
  · rw [← selectedComponents_congr fun _ => perm.mem_iff, selectedComponents_cons,
      Set.union_eq_right.mpr included]

theorem ignoresEdits (matcher : FileMatcher) (files : FileView) (basePath : PathBuf)
    (patterns : List String)
    : IgnoresEdits matcher files basePath patterns where
  permuted := by
    intro other perm
    apply sameResolution_of_sameSelected
    · simp only [perm.mem_iff]
    · exact selectedComponents_congr fun _ => perm.mem_iff
  repeated := by
    intro pattern member other perm
    refine sameResolution_of_added matcher (fun refused => ⟨pattern, member, refused⟩) ?_ perm
    apply Set.image_mono
    intro path selected
    obtain ⟨⟨repeated, single, yields⟩, file, starts⟩ := selected
    obtain rfl := List.mem_singleton.mp single
    exact ⟨⟨repeated, member, yields⟩, file, starts⟩
  added := by
    intro pattern accepted included other perm
    exact sameResolution_of_added matcher (fun refused => absurd refused accepted) included perm

theorem resolvesExactly (matcher : FileMatcher) (files : FileView) (basePath : PathBuf)
    (patterns : List String)
    : ResolvesExactly matcher files basePath patterns := by
  have finite := selectedComponents_finite files basePath patterns
  by_cases rejected : ∃ pattern ∈ patterns, Rejected files basePath pattern
  · obtain ⟨error, failed, otherwise⟩ := resolvePatterns_of_rejected matcher rejected
    refine ⟨finite, ⟨fun _ => Or.inl rejected, fun _ => ⟨error, failed⟩⟩, ?_, ?_, ?_⟩
    · intro count limit failure
      exact absurd (Except.error.inj (failed.symm.trans failure)) (otherwise count limit)
    · intro accepted
      obtain ⟨pattern, member, refused⟩ := rejected
      exact absurd refused (accepted pattern member)
    · intro paths success
      cases failed.symm.trans success
  · have accepted : ∀ pattern ∈ patterns, ¬ Rejected files basePath pattern :=
      fun pattern member refused => rejected ⟨pattern, member, refused⟩
    obtain ⟨paths, lists, result⟩ := resolvePatterns_of_accepted matcher accepted
    split at result
    case isTrue exceeded =>
      refine ⟨finite, ⟨fun _ => Or.inr exceeded, fun _ => ⟨_, result⟩⟩, ?_,
        fun _ _ => result, ?_⟩
      · intro count limit failure
        cases result.symm.trans failure
        exact ⟨rfl, rfl⟩
      · intro paths success
        cases result.symm.trans success
    case isFalse within =>
      refine ⟨finite, ⟨?_, fun reasons => (reasons.elim rejected within).elim⟩, ?_,
        fun _ exceeded => absurd exceeded within, ?_⟩
      · intro failure
        obtain ⟨error, failed⟩ := failure
        cases result.symm.trans failed
      · intro count limit failure
        cases result.symm.trans failure
      · intro others success
        obtain rfl := Except.ok.inj (result.symm.trans success)
        exact ⟨lists, lists.length_eq ▸ Nat.le_of_not_lt within⟩

end FileMatcher

/-- Resolution fails for a rejected pattern or for too many selected paths, reports their
number, and otherwise lists them in order; permuting the patterns or adding one that selects
nothing new changes nothing.
-/
theorem resolvePatterns_exact (matcher : FileMatcher) (files : FileView) (basePath : PathBuf)
    (patterns : List String)
    : FileMatcher.ResolvesExactly matcher files basePath patterns
      ∧ FileMatcher.IgnoresEdits matcher files basePath patterns :=
  ⟨FileMatcher.resolvesExactly matcher files basePath patterns,
    FileMatcher.ignoresEdits matcher files basePath patterns⟩

end Cafce
