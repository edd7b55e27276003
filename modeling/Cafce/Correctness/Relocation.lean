import Cafce.Model.CacheKey

/-! A key does not depend on where a directory tree is checked out. Two runs on copies of one
tree are followed side by side, from the paths that glob yields to the key.
-/

namespace Cafce

open DirectoryTree Fallible KeyedSort

-----------------------------------------------------------------------------------------
-- One tree that stands at a base path
-----------------------------------------------------------------------------------------

/-- Trees of files that may be unreadable. -/
abbrev FileTree := Tree OsString (Except ForeignError (List UInt8))

/-- The tree stands at an absolute UTF-8 base path. -/
structure Checkout (fs : FileSystem) (basePath : PathBuf) (tree : FileTree) : Prop where
  absolute : basePath.isAbsolute
  utf8 : ∃ text, basePath = PathBuf.ofStr text
  placed : ∃ place, fs.location basePath = some place ∧ fs.tree.Placed place tree

/-- Every file of the tree can be read. -/
def Readable (tree : FileTree) : Prop :=
  ∀ here content, tree.entry here = some (.file content) → ∃ bytes, content = .ok bytes

namespace PathBuf

/-- Equal paths, both with or both without a trailing separator. -/
def Same (left right : PathBuf) : Prop :=
  left.components = right.components ∧ left.namesDirectory = right.namesDirectory

theorem namesDirectory_join {base path : PathBuf} (absolute : base.isAbsolute)
    (relative : path.isAbsolute = false)
    : (base.join path).namesDirectory = path.namesDirectory := by
  have nonempty : path.parts ≠ [] := List.splitOn_ne_nil _ _
  have front : ∃ front, (base.join path).parts = front ++ path.parts := by
    rw [parts, bytes_join absolute relative]
    split
    case isTrue closed =>
      obtain ⟨before, same⟩ := List.getLast?_eq_some_iff.mp closed
      refine ⟨before.splitOn separator, ?_⟩
      rw [same, List.append_assoc, List.singleton_append, List.splitOn_append_cons_self]
      rfl
    case isFalse =>
      refine ⟨base.parts, ?_⟩
      rw [List.splitOn_append_cons_self]
      rfl
  obtain ⟨before, same⟩ := front
  rw [namesDirectory, namesDirectory, same, List.getLast?_append_of_ne_nil _ nonempty]

theorem Same.key_join {base path rel : PathBuf} (same : path.Same (base.join rel))
    (absolute : base.isAbsolute) (relative : rel.isAbsolute = false)
    : path.key = base.key ++ rel.inner.map componentKey := by
  rw [key, same.1, components_join absolute relative, List.map_append, key]

theorem Same.startsWith_join {base path rel : PathBuf} (same : path.Same (base.join rel))
    (absolute : base.isAbsolute) (relative : rel.isAbsolute = false)
    : path.startsWith base := by
  rw [startsWith_iff, same.1, components_join absolute relative]
  exact List.prefix_append _ _

end PathBuf

theorem FileSystem.file?_same {fs : FileSystem} {left right : PathBuf}
    (same : left.Same right)
    : fs.file? left = fs.file? right := by
  rw [file?, file?, location, location, same.1, same.2]

/-- The file that a relative path denotes in a tree. -/
def fileBelow (tree : FileTree) (rel : PathBuf) : Option (Except ForeignError (List UInt8)) :=
  if rel.namesDirectory then none
  else ((tree.walk [] rel.inner).bind tree.entry).bind Entry.content?

/-- A path that stays below the base denotes the same file wherever the tree stands. -/
theorem Checkout.file?_eq {fs : FileSystem} {basePath path rel : PathBuf} {tree : FileTree}
    (checkout : Checkout fs basePath tree) (relative : rel.isAbsolute = false)
    (stays : staysBelow 0 rel.inner) (same : path.Same (basePath.join rel))
    : fs.file? path = fileBelow tree rel := by
  obtain ⟨place, found, placed⟩ := checkout.placed
  have located : fs.location path = (tree.walk [] rel.inner).map (place ++ ·) := by
    rw [FileSystem.location, same.1, PathBuf.components_join checkout.absolute relative,
      Tree.walk_append]
    change (fs.location basePath).bind _ = _
    rw [found, Option.bind_some]
    simpa using placed.walk [] stays
  rw [FileSystem.file?, fileBelow, same.2,
    PathBuf.namesDirectory_join checkout.absolute relative, located]
  cases tree.walk [] rel.inner with
  | none => rfl
  | some here => simp [placed here]

/-- Files of a readable tree have a content. -/
theorem Readable.content {tree : FileTree} {rel : PathBuf}
    {content : Except ForeignError (List UInt8)} (readable : Readable tree)
    (file : fileBelow tree rel = some content)
    : ∃ bytes, content = .ok bytes := by
  rw [fileBelow] at file
  split at file
  · cases file
  · obtain ⟨entry, held, isContent⟩ := Option.bind_eq_some_iff.mp file
    obtain ⟨here, _, found⟩ := Option.bind_eq_some_iff.mp held
    cases entry with
    | dir => cases isContent
    | file stored =>
        obtain rfl := Option.some.inj isContent
        exact readable here stored found

-----------------------------------------------------------------------------------------
-- Relative paths seen below two base paths
-----------------------------------------------------------------------------------------

/-- What the glob crate yields for a relative pattern below an escaped base path: the base
joined with relative paths from a fixed list, or a refusal. Yielded files lie in the tree:
walked from the base, their paths never leave it. A pattern like `.*/s` is outside this
assumption, since its first component matches `..` too, and then the files beside the base
count.
-/
structure YieldsBelow (glob : GlobCrate) (fs : FileSystem) (basePath : PathBuf)
    (pattern : String) (relatives : Option (List PathBuf))
    : Prop where
  refused : relatives = none
    → ∃ error, glob fs (FileMatcher.fullPattern basePath pattern) = .error error
  yielded : ∀ rels, relatives = some rels → ∃ items,
    glob fs (FileMatcher.fullPattern basePath pattern) = .ok items
    ∧ List.Forall₂ (fun path rel => path.Same (basePath.join rel))
        (items.filterMap Except.toOption) rels
  relative : ∀ rels, relatives = some rels → ∀ rel ∈ rels, rel.isAbsolute = false
  inTree : ∀ rels, relatives = some rels → ∀ rel ∈ rels, fs.isFile (basePath.join rel)
    → staysBelow 0 rel.inner

/-- One relative path, seen below two base paths. -/
structure Twin (leftBase rightBase : PathBuf) where
  left : PathBuf
  right : PathBuf
  rel : PathBuf
  relative : rel.isAbsolute = false
  left_same : left.Same (leftBase.join rel)
  right_same : right.Same (rightBase.join rel)

/-- A common front does not change the order of lists. -/
theorem append_le_append_iff {front left right : List (List Nat)}
    : front ++ left ≤ front ++ right ↔ left ≤ right := by
  constructor
  · intro below
    by_contra above
    have strict : front ++ right < front ++ left :=
      List.append_left_lt (not_le.mp above)
    exact absurd below (not_le.mpr strict)
  · intro below
    rcases lt_or_eq_of_le below with strict | rfl
    · exact le_of_lt (List.append_left_lt strict)
    · exact le_refl _

section Twins

variable {glob : GlobCrate} {left right : FileSystem} {leftBase rightBase : PathBuf}
  {tree : FileTree}

/-- Both sides read the same content. -/
def Twin.Agrees (left right : FileSystem) (twin : Twin leftBase rightBase) : Prop :=
  ∃ content, left.read twin.left = .ok content ∧ right.read twin.right = .ok content

/-- The errors that a user can tell apart: which limit, which pattern. -/
def SameError : AnyhowError → AnyhowError → Prop
  | .cacheKey leftError, .cacheKey rightError => leftError = rightError
  | .context leftText (.foreign _), .context rightText (.foreign _) => leftText = rightText
  | _, _ => False

/-- Order of twins: that of their relative paths. -/
def Twin.key (twin : Twin leftBase rightBase) : List (List Nat) :=
  twin.rel.inner.map PathBuf.componentKey

/-- Either side of twins compares as the relative paths do, so it is collected and sorted as
they are.
-/
theorem map_resolved {base : PathBuf} {side : Twin leftBase rightBase → PathBuf}
    (absolute : base.isAbsolute) (same : ∀ twin, (side twin).Same (base.join twin.rel))
    (twins : List (Twin leftBase rightBase))
    : collect PathBuf.key [] (twins.map side) = (collect Twin.key [] twins).map side
      ∧ sortBy PathBuf.key (twins.map side) = (sortBy Twin.key twins).map side := by
  have sideKey (twin : Twin leftBase rightBase)
      : (side twin).key = base.key ++ twin.key :=
    (same twin).key_join absolute twin.relative
  constructor
  · refine (map_collect ?_ [] twins).symm
    intro a b
    rw [sideKey, sideKey, List.append_right_inj]
  · refine (map_sortBy ?_).symm
    intro a _ b _
    rw [sideKey, sideKey, append_le_append_iff]

/-- The limit and the order as seen on twins. -/
def resolvedTwins (matcher : FileMatcher) (selected : List (List (Twin leftBase rightBase)))
    : Except AnyhowError (List (Twin leftBase rightBase)) :=
  let all := collect Twin.key [] selected.flatten
  if matcher.maxFiles < all.length then
    .error (.cacheKey (.tooManyFiles all.length matcher.maxFiles))
  else .ok (sortBy Twin.key all)

theorem resolved_map {base : PathBuf} {side : Twin leftBase rightBase → PathBuf}
    (absolute : base.isAbsolute) (same : ∀ twin, (side twin).Same (base.join twin.rel))
    (matcher : FileMatcher) (selected : List (List (Twin leftBase rightBase)))
    : matcher.resolved (selected.map (List.map side))
      = (resolvedTwins matcher selected).map (List.map side) := by
  have flat : (selected.map (List.map side)).flatten = selected.flatten.map side :=
    List.map_flatten.symm
  rw [FileMatcher.resolved, resolvedTwins, flat,
    (map_resolved absolute same selected.flatten).1, List.length_map]
  split
  · rfl
  · rw [(map_resolved absolute same _).2]
    rfl

/-- What is resolved was selected. -/
theorem mem_of_resolvedTwins {matcher : FileMatcher}
    {selected : List (List (Twin leftBase rightBase))} {sorted : List (Twin leftBase rightBase)}
    (resolved : resolvedTwins matcher selected = .ok sorted)
    {twin : Twin leftBase rightBase} (member : twin ∈ sorted)
    : ∃ chosen ∈ selected, twin ∈ chosen := by
  rw [resolvedTwins] at resolved
  split at resolved
  · cases resolved
  · obtain rfl := Except.ok.inj resolved
    exact List.mem_flatten.mp
      ((mem_collect (mem_sortBy.mp member)).resolve_left List.not_mem_nil)

/-- Two lists of yielded paths over the same relative paths are twins. -/
theorem exists_twins {leftPaths rightPaths rels : List PathBuf}
    (leftYields : List.Forall₂ (fun path rel => path.Same (leftBase.join rel)) leftPaths rels)
    (rightYields : List.Forall₂ (fun path rel => path.Same (rightBase.join rel))
      rightPaths rels)
    (relative : ∀ rel ∈ rels, rel.isAbsolute = false)
    : ∃ twins : List (Twin leftBase rightBase),
        leftPaths = twins.map Twin.left
        ∧ rightPaths = twins.map Twin.right
        ∧ rels = twins.map Twin.rel := by
  induction leftYields generalizing rightPaths with
  | nil =>
      cases rightYields
      exact ⟨[], rfl, rfl, rfl⟩
  | cons leftSame _ ih =>
      rename_i leftPath rel leftPaths rels _
      cases rightYields with
      | cons rightSame rightRest =>
          obtain ⟨here, later⟩ := List.forall_mem_cons.mp relative
          obtain ⟨twins, lefts, rights, below⟩ := ih rightRest later
          exact ⟨⟨_, _, rel, here, leftSame, rightSame⟩ :: twins, by simp [lefts],
            by simp [rights], by simp [below]⟩

-----------------------------------------------------------------------------------------
-- Matching, merging and reading on both sides
-----------------------------------------------------------------------------------------

/-- A yielded path is a file on one side when it is on the other, with the same content. -/
theorem agrees_of_isFile (leftCheckout : Checkout left leftBase tree)
    (rightCheckout : Checkout right rightBase tree) (readable : Readable tree)
    {twin : Twin leftBase rightBase}
    (leftIn : left.isFile (leftBase.join twin.rel) → staysBelow 0 twin.rel.inner)
    (rightIn : right.isFile (rightBase.join twin.rel) → staysBelow 0 twin.rel.inner)
    : left.isFile twin.left = right.isFile twin.right
      ∧ (left.isFile twin.left → twin.Agrees left right) := by
  have leftFile : left.isFile twin.left = left.isFile (leftBase.join twin.rel) := by
    rw [FileSystem.isFile, FileSystem.isFile, FileSystem.file?_same twin.left_same]
  have rightFile : right.isFile twin.right = right.isFile (rightBase.join twin.rel) := by
    rw [FileSystem.isFile, FileSystem.isFile, FileSystem.file?_same twin.right_same]
  by_cases stays : staysBelow 0 twin.rel.inner
  · have leftIs := leftCheckout.file?_eq twin.relative stays twin.left_same
    have rightIs := rightCheckout.file?_eq twin.relative stays twin.right_same
    refine ⟨by rw [FileSystem.isFile, FileSystem.isFile, leftIs, rightIs], ?_⟩
    intro file
    rw [FileSystem.isFile, leftIs] at file
    obtain ⟨content, found⟩ := Option.isSome_iff_exists.mp file
    obtain ⟨bytes, rfl⟩ := readable.content found
    refine ⟨bytes, ?_, ?_⟩
    · rw [FileSystem.read, leftIs, found, Option.getD_some]
    · rw [FileSystem.read, rightIs, found, Option.getD_some]
  · -- a path that leaves the base is a file on neither side
    have leftNone : left.isFile twin.left = false := by
      rw [leftFile, Bool.eq_false_iff]
      exact fun file => stays (leftIn file)
    have rightNone : right.isFile twin.right = false := by
      rw [rightFile, Bool.eq_false_iff]
      exact fun file => stays (rightIn file)
    exact ⟨leftNone.trans rightNone.symm, by simp [leftNone]⟩

/-- Lists of the two sides of twins with equal contents. -/
def AreTwins (left right : FileSystem) (leftBase rightBase : PathBuf)
    (lefts rights : List PathBuf)
    : Prop :=
  ∃ twins : List (Twin leftBase rightBase),
    lefts = twins.map Twin.left
    ∧ rights = twins.map Twin.right
    ∧ ∀ twin ∈ twins, twin.Agrees left right

/-- A pattern whose paths are all placed below the base selects the files among them. -/
theorem matchPattern_of_placed {τ : Type} (files : FileView) {basePath : PathBuf}
    {pattern : String} {items : List (Except ForeignError PathBuf)} {place : τ → PathBuf}
    {places : List τ} (relative : (PathBuf.ofStr pattern).isAbsolute = false)
    (globbed : files.glob (FileMatcher.fullPattern basePath pattern) = .ok items)
    (placed : items.filterMap Except.toOption = places.map place)
    (below : ∀ a, (place a).startsWith basePath)
    : FileMatcher.matchPattern files basePath pattern
      = .ok ((places.filter fun a => files.isFile (place a)).map place) := by
  refine FileMatcher.matchPattern_eq_ok_iff.mpr ⟨relative, items, globbed, ?_⟩
  rw [placed, List.filter_map]
  simp only [Function.comp_def, below, Bool.and_true]

/-- One pattern selects twins with equal contents, or is refused alike on both sides. -/
theorem matchPattern_related (leftCheckout : Checkout left leftBase tree)
    (rightCheckout : Checkout right rightBase tree) (readable : Readable tree)
    {pattern : String} {relatives : Option (List PathBuf)}
    (leftGlob : (PathBuf.ofStr pattern).isAbsolute = false
      → YieldsBelow glob left leftBase pattern relatives)
    (rightGlob : (PathBuf.ofStr pattern).isAbsolute = false
      → YieldsBelow glob right rightBase pattern relatives)
    : Related SameError (AreTwins left right leftBase rightBase)
        (FileMatcher.matchPattern (left.view glob) leftBase pattern)
        (FileMatcher.matchPattern (right.view glob) rightBase pattern) := by
  cases absolute : (PathBuf.ofStr pattern).isAbsolute with
  | true =>
      rw [FileMatcher.matchPattern, if_pos absolute, FileMatcher.matchPattern,
        if_pos absolute]
      rfl
  | false =>
      have leftYields := leftGlob absolute
      have rightYields := rightGlob absolute
      cases relatives with
      | none =>
          obtain ⟨leftError, leftRefused⟩ := leftYields.refused rfl
          obtain ⟨rightError, rightRefused⟩ := rightYields.refused rfl
          simp only [FileMatcher.matchPattern, absolute, FileSystem.view, leftRefused,
            rightRefused]
          rfl
      | some rels =>
          obtain ⟨leftItems, leftGlobbed, leftPaths⟩ := leftYields.yielded rels rfl
          obtain ⟨rightItems, rightGlobbed, rightPaths⟩ := rightYields.yielded rels rfl
          obtain ⟨twins, lefts, rights, below⟩ :=
            exists_twins leftPaths rightPaths (leftYields.relative rels rfl)
          have agrees (twin : Twin leftBase rightBase) (member : twin ∈ twins) :=
            have inRels : twin.rel ∈ rels := below ▸ List.mem_map_of_mem member
            agrees_of_isFile leftCheckout rightCheckout readable
              (leftYields.inTree rels rfl twin.rel inRels)
              (rightYields.inTree rels rfl twin.rel inRels)
          have leftSelects := matchPattern_of_placed (left.view glob) absolute leftGlobbed lefts
            fun twin => twin.left_same.startsWith_join leftCheckout.absolute twin.relative
          have rightSelects := matchPattern_of_placed (right.view glob) absolute rightGlobbed
            rights fun twin => twin.right_same.startsWith_join rightCheckout.absolute twin.relative
          have sameFiles : (twins.filter fun twin => (left.view glob).isFile twin.left)
              = twins.filter fun twin => (right.view glob).isFile twin.right :=
            List.filter_congr fun twin member => (agrees twin member).1
          rw [leftSelects, rightSelects, ← sameFiles]
          refine ⟨_, rfl, rfl, ?_⟩
          intro twin member
          obtain ⟨inTwins, file⟩ := List.mem_filter.mp member
          exact (agrees twin inTwins).2 file

/-- Selections that are twins, pattern by pattern, as one list of selections of twins. -/
theorem exists_selected {lefts rights : List (List PathBuf)}
    (each : List.Forall₂ (AreTwins left right leftBase rightBase) lefts rights)
    : ∃ selected : List (List (Twin leftBase rightBase)),
        lefts = selected.map (List.map Twin.left)
        ∧ rights = selected.map (List.map Twin.right)
        ∧ ∀ chosen ∈ selected, ∀ twin ∈ chosen, twin.Agrees left right := by
  induction each with
  | nil => exact ⟨[], rfl, rfl, by simp⟩
  | cons here _ ih =>
      obtain ⟨twins, rfl, rfl, agree⟩ := here
      obtain ⟨selected, rfl, rfl, rest⟩ := ih
      exact ⟨twins :: selected, rfl, rfl, List.forall_mem_cons.mpr ⟨agree, rest⟩⟩

/-- The resolved paths are twins in the same order, or the limit is exceeded alike. -/
theorem resolved_related (leftAbsolute : leftBase.isAbsolute)
    (rightAbsolute : rightBase.isAbsolute) (matcher : FileMatcher)
    {lefts rights : List (List PathBuf)}
    (each : List.Forall₂ (AreTwins left right leftBase rightBase) lefts rights)
    : Related SameError (AreTwins left right leftBase rightBase) (matcher.resolved lefts)
        (matcher.resolved rights) := by
  obtain ⟨selected, rfl, rfl, agree⟩ := exists_selected each
  rw [resolved_map leftAbsolute Twin.left_same, resolved_map rightAbsolute Twin.right_same]
  cases resolved : resolvedTwins matcher selected with
  | error error =>
      rw [resolvedTwins] at resolved
      split at resolved
      · obtain rfl := Except.error.inj resolved
        rfl
      · cases resolved
  | ok sorted =>
      refine ⟨sorted, rfl, rfl, ?_⟩
      intro twin member
      obtain ⟨chosen, inSelected, inChosen⟩ := mem_of_resolvedTwins resolved member
      exact agree chosen inSelected twin inChosen

/-- Twins are read with the same contents. -/
theorem readFiles_twins {lefts rights : List PathBuf}
    (twins : AreTwins left right leftBase rightBase lefts rights)
    : ∃ contents,
        lefts.mapM (readFile (left.view glob)) = .ok contents
        ∧ rights.mapM (readFile (right.view glob)) = .ok contents := by
  obtain ⟨twins, rfl, rfl, agree⟩ := twins
  induction twins with
  | nil => exact ⟨[], rfl, rfl⟩
  | cons twin twins ih =>
      obtain ⟨here, later⟩ := List.forall_mem_cons.mp agree
      obtain ⟨content, leftRead, rightRead⟩ := here
      obtain ⟨contents, leftRest, rightRest⟩ := ih later
      have leftFile : readFile (left.view glob) twin.left = .ok content := by
        simp [readFile, FileSystem.view, leftRead]
      have rightFile : readFile (right.view glob) twin.right = .ok content := by
        simp [readFile, FileSystem.view, rightRead]
      rw [List.map_cons, List.map_cons, List.mapM_cons, List.mapM_cons, leftRest, rightRest,
        leftFile, rightFile]
      exact ⟨content :: contents, rfl, rfl⟩

/-- Files of a tree that stands at two places make the same key, or fail with the same error,
for patterns without `..`.
Witness: the yielded paths correspond through their relative paths, and filtering,
collecting, the limit, sorting and reading respect that correspondence.
-/
theorem generateKey_checkout_independent (leftCheckout : Checkout left leftBase tree)
    (rightCheckout : Checkout right rightBase tree) (readable : Readable tree)
    (below : FileTree → String → Option (List PathBuf)) {keyConfig : Key}
    (noParent : ∀ pattern ∈ keyConfig.files,
      Component.parentDir ∉ (PathBuf.ofStr pattern).components)
    (leftGlob : ∀ pattern ∈ keyConfig.files, (PathBuf.ofStr pattern).isAbsolute = false
      → Component.parentDir ∉ (PathBuf.ofStr pattern).components
      → YieldsBelow glob left leftBase pattern (below tree pattern))
    (rightGlob : ∀ pattern ∈ keyConfig.files, (PathBuf.ofStr pattern).isAbsolute = false
      → Component.parentDir ∉ (PathBuf.ofStr pattern).components
      → YieldsBelow glob right rightBase pattern (below tree pattern))
    (sha256 : List UInt8 → Digest) (maxFiles : Nat)
    : Related SameError Eq
        ((CacheKeyGenerator.mk maxFiles leftBase).generateKey sha256 (left.view glob)
          keyConfig).outcome
        ((CacheKeyGenerator.mk maxFiles rightBase).generateKey sha256 (right.view glob)
          keyConfig).outcome := by
  have each : ∀ leftPattern rightPattern,
      leftPattern ∈ keyConfig.files ∧ leftPattern = rightPattern
      → Related SameError (AreTwins left right leftBase rightBase)
          (FileMatcher.matchPattern (left.view glob) leftBase leftPattern)
          (FileMatcher.matchPattern (right.view glob) rightBase rightPattern) := by
    intro pattern _ shared
    obtain ⟨member, rfl⟩ := shared
    exact matchPattern_related leftCheckout rightCheckout readable
      (fun relative => leftGlob pattern member relative (noParent pattern member))
      (fun relative => rightGlob pattern member relative (noParent pattern member))
  have patterns : List.Forall₂ (fun leftPattern rightPattern =>
      leftPattern ∈ keyConfig.files ∧ leftPattern = rightPattern) keyConfig.files
      keyConfig.files :=
    List.forall₂_same.mpr fun pattern member => ⟨member, rfl⟩
  rw [CacheKeyGenerator.outcome_generateKey, CacheKeyGenerator.outcome_generateKey,
    FileMatcher.resolvePatterns_eq, FileMatcher.resolvePatterns_eq]
  have resolved := (Related.mapM patterns each).bind fun _ _ selections =>
    resolved_related leftCheckout.absolute rightCheckout.absolute
      (FileMatcher.mk maxFiles) selections
  apply resolved.bind
  intro lefts rights twins
  obtain ⟨contents, leftRead, rightRead⟩ := readFiles_twins twins
  rw [leftRead, rightRead]
  rfl

end Twins

-----------------------------------------------------------------------------------------
-- A tree below two directories of different names
-----------------------------------------------------------------------------------------

/-- The text that a pattern without wildcards matches: bracketed metacharacters stand for
themselves.
-/
def unescape : List Char → List Char
  | '[' :: char :: ']' :: rest =>
      if char ∈ ['?', '*', '[', ']'] then char :: unescape rest
      else '[' :: char :: ']' :: unescape rest
  | char :: rest => char :: unescape rest
  | [] => []

/-- Every pattern taken as the text it stands for. -/
def unescapedGlob : GlobCrate := fun fs pattern =>
  let path := PathBuf.ofStr (String.ofList (unescape pattern.toList))
  .ok (if (fs.location path).isSome then [.ok path] else [])

/-- The tree that holds the file `a`. -/
def lockTree : FileTree := Tree.ofFiles [([asBytes "a"], .ok (asBytes "1"))]

/-- `lockTree` at a directory below the root, which is the current directory. -/
def checkoutAt (directory : String) : FileSystem where
  tree := Tree.ofFiles [([asBytes directory, asBytes "a"], .ok (asBytes "1"))]
  currentDir := []
  currentDir_dir := rfl

theorem checkoutAt_checkout {directory : String}
    (absolute : (PathBuf.ofStr ("/" ++ directory)).isAbsolute)
    (found : (checkoutAt directory).location (PathBuf.ofStr ("/" ++ directory))
      = some [asBytes directory])
    : Checkout (checkoutAt directory) (PathBuf.ofStr ("/" ++ directory)) lockTree where
  absolute := absolute
  utf8 := ⟨_, rfl⟩
  placed := by
    have moved := Tree.ofFiles_placed [asBytes directory]
      [([asBytes "a"], (.ok (asBytes "1") : Except ForeignError (List UInt8)))] (by simp)
    exact ⟨_, found, moved⟩

/-- The pattern `a` yields the file of that name below the base path. -/
theorem checkoutAt_yields (directory fullPattern : String)
    (full : ((PathBuf.ofStr (escape ("/" ++ directory))).join (PathBuf.ofStr "a"))
      = PathBuf.ofStr fullPattern)
    (globbed : unescapedGlob (checkoutAt directory) fullPattern
      = .ok [.ok ((PathBuf.ofStr ("/" ++ directory)).join (PathBuf.ofStr "a"))])
    : YieldsBelow unescapedGlob (checkoutAt directory) (PathBuf.ofStr ("/" ++ directory)) "a"
        (some [PathBuf.ofStr "a"]) where
  refused := by simp
  yielded := by
    intro rels same
    obtain rfl := Option.some.inj same
    refine ⟨[.ok ((PathBuf.ofStr ("/" ++ directory)).join (PathBuf.ofStr "a"))], ?_,
      List.Forall₂.cons ⟨rfl, rfl⟩ List.Forall₂.nil⟩
    rw [FileMatcher.fullPattern_ofStr full, globbed]
  relative := by
    intro rels same rel member
    obtain rfl := Option.some.inj same
    obtain rfl := List.mem_singleton.mp member
    decide
  inTree := by
    intro rels same rel member _
    obtain rfl := Option.some.inj same
    obtain rfl := List.mem_singleton.mp member
    decide

/-- The tree gives one key at `/ci[1]` and at `/x`. -/
theorem generateKey_checkout_independent_lockTree
    : Related SameError Eq
        ((CacheKeyGenerator.mk 50 (PathBuf.ofStr "/ci[1]")).generateKey
          (fun _ => Vector.replicate 32 7) ((checkoutAt "ci[1]").view unescapedGlob)
          ⟨["a"], none⟩).outcome
        ((CacheKeyGenerator.mk 50 (PathBuf.ofStr "/x")).generateKey
          (fun _ => Vector.replicate 32 7) ((checkoutAt "x").view unescapedGlob)
          ⟨["a"], none⟩).outcome := by
  have leftCheckout : Checkout (checkoutAt "ci[1]") (PathBuf.ofStr "/ci[1]") lockTree :=
    checkoutAt_checkout (by decide) (by decide)
  have rightCheckout : Checkout (checkoutAt "x") (PathBuf.ofStr "/x") lockTree :=
    checkoutAt_checkout (by decide) (by decide)
  have readable : Readable lockTree := by
    intro here content held
    simp only [lockTree, Tree.ofFiles] at held
    split at held
    · cases held
    · obtain ⟨file, found, same⟩ := Option.map_eq_some_iff.mp held
      have member := List.mem_singleton.mp (List.mem_of_find?_eq_some found)
      cases same
      exact ⟨asBytes "1", by rw [member]⟩
  have leftYields : YieldsBelow unescapedGlob (checkoutAt "ci[1]") (PathBuf.ofStr "/ci[1]")
      "a" (some [PathBuf.ofStr "a"]) :=
    checkoutAt_yields "ci[1]" "/ci[[]1[]]/a" (by decide) (by decide)
  have rightYields : YieldsBelow unescapedGlob (checkoutAt "x") (PathBuf.ofStr "/x") "a"
      (some [PathBuf.ofStr "a"]) :=
    checkoutAt_yields "x" "/x/a" (by decide) (by decide)
  apply generateKey_checkout_independent leftCheckout rightCheckout readable
    (fun _ _ => some [PathBuf.ofStr "a"])
  · simp only [List.mem_singleton, forall_eq]
    decide
  · simp only [List.mem_singleton, forall_eq]
    exact fun _ _ => leftYields
  · simp only [List.mem_singleton, forall_eq]
    exact fun _ _ => rightYields

end Cafce
