import Cafce.Model.HashCalculator

/-! The combined hash as a function of the contents in path order: whatever order the caller
lists the paths in, and whatever the paths are called as long as they compare alike.
-/

namespace Cafce

open Fallible HashList KeyedSort

/-- Equal paths among the given ones have equal contents. -/
def EqualPathsAgree (files : FileView) (paths : List PathBuf) : Prop :=
  ∀ left ∈ paths, ∀ right ∈ paths, left.components = right.components
    → ∀ content, files.read left = .ok content → files.read right = .ok content

/-- Failures to read equal paths. -/
def SameReadFailure (files : FileView) (left right : AnyhowError) : Prop :=
  ∃ leftPath rightPath,
    leftPath.components = rightPath.components
    ∧ readFile files leftPath = .error left
    ∧ readFile files rightPath = .error right

/-- The list is in ascending path order. -/
def Ascending (paths : List PathBuf) : Prop :=
  paths.Pairwise fun left right => left.key ≤ right.key

/-- SHA-256 of the lowercase hexadecimal digests of the contents, joined by newlines, in
lowercase hexadecimal.
-/
def combinedHash (sha256 : List UInt8 → Digest) (contents : List (List UInt8)) : String :=
  lowerHex (sha256 (asBytes
    ("\n".intercalate (contents.map fun content => lowerHex (sha256 content)))))

/-- How the outcome of hashing a list of files is determined. -/
structure HashesInOrder (sha256 : List UInt8 → Digest) (files : FileView)
    (paths : List PathBuf)
    : Prop where
  permuted : ∀ other, paths.Perm other
    → Related (SameReadFailure files) Eq
        (HashCalculator.calculateFilesHash sha256 files paths).outcome
        (HashCalculator.calculateFilesHash sha256 files other).outcome
  readable : (∃ hash,
      (HashCalculator.calculateFilesHash sha256 files paths).outcome = .ok hash)
    ↔ ∀ path ∈ paths, ∃ content, files.read path = .ok content
  value : ∀ sorted contents, paths.Perm sorted → Ascending sorted
    → sorted.mapM files.read = .ok contents
    → (HashCalculator.calculateFilesHash sha256 files paths).outcome
      = .ok (combinedHash sha256 contents)
  empty : paths = []
    → (HashCalculator.calculateFilesHash sha256 files paths).outcome
      = .ok (lowerHex (sha256 (asBytes "")))
  renamed : ∀ (rename : PathBuf → PathBuf) (other : FileView),
    (∀ left ∈ paths, ∀ right ∈ paths, left.key < right.key
      → (rename left).key < (rename right).key)
    → (∀ path ∈ paths, ∀ content,
        files.read path = .ok content ↔ other.read (rename path) = .ok content)
    → ∀ hash,
      (HashCalculator.calculateFilesHash sha256 files paths).outcome = .ok hash
      ↔ (HashCalculator.calculateFilesHash sha256 other (paths.map rename)).outcome
        = .ok hash

/-- The hash of the contents in sorted order, or the failure to read one of them. -/
theorem outcome_eq_combinedHash (sha256 : List UInt8 → Digest) (files : FileView)
    (paths : List PathBuf)
    : (HashCalculator.calculateFilesHash sha256 files paths).outcome
      = ((sortBy PathBuf.key paths).mapM (readFile files)).map (combinedHash sha256) := by
  have hashes : combinedHash sha256
      = fun contents => lowerHex ((hashScheme sha256).listHash contents) := by
    funext contents
    rw [combinedHash, HashCalculator.intercalate_digests]
    rfl
  rw [HashCalculator.outcome_calculateFilesHash, hashes]

/-- Lists of equal paths, position by position, are read alike. -/
theorem readFiles_related {files : FileView} {paths lefts rights : List PathBuf}
    (agree : EqualPathsAgree files paths) (leftIn : lefts ⊆ paths) (rightIn : rights ⊆ paths)
    (same : lefts.map PathBuf.key = rights.map PathBuf.key)
    : Related (SameReadFailure files) Eq (lefts.mapM (readFile files))
        (rights.mapM (readFile files)) := by
  have positions : List.Forall₂ (fun left right =>
      left ∈ paths ∧ right ∈ paths ∧ left.components = right.components) lefts rights := by
    induction lefts generalizing rights with
    | nil =>
        cases List.map_eq_nil_iff.mp same.symm
        exact List.Forall₂.nil
    | cons left lefts ih =>
        cases rights with
        | nil => cases same
        | cons right rights =>
            obtain ⟨keys, rest⟩ := List.cons.inj same
            obtain ⟨leftHere, leftRest⟩ := List.cons_subset.mp leftIn
            obtain ⟨rightHere, rightRest⟩ := List.cons_subset.mp rightIn
            exact List.Forall₂.cons ⟨leftHere, rightHere, PathBuf.key_eq_iff.mp keys⟩
              (ih leftRest rightRest rest)
  rw [← List.forall₂_eq_eq_eq]
  apply Related.mapM positions
  intro left right position
  obtain ⟨leftHere, rightHere, components⟩ := position
  cases leftRead : readFile files left with
  | ok content =>
      have read := agree left leftHere right rightHere components content
        (readFile_eq_ok_iff.mp leftRead)
      rw [readFile_eq_ok_iff.mpr read]
      rfl
  | error leftError =>
      cases rightRead : readFile files right with
      | ok content =>
          have read := agree right rightHere left leftHere components.symm content
            (readFile_eq_ok_iff.mp rightRead)
          cases leftRead.symm.trans (readFile_eq_ok_iff.mpr read)
      | error rightError => exact ⟨left, right, components, leftRead, rightRead⟩

theorem sortBy_subset (paths : List PathBuf) : sortBy PathBuf.key paths ⊆ paths :=
  fun _ member => mem_sortBy.mp member

/-- Permuted lists hash alike: sorted, they hold equal paths in the same order. -/
theorem outcome_of_perm (sha256 : List UInt8 → Digest) {files : FileView}
    {paths other : List PathBuf} (agree : EqualPathsAgree files paths)
    (perm : paths.Perm other)
    : Related (SameReadFailure files) Eq
        (HashCalculator.calculateFilesHash sha256 files paths).outcome
        (HashCalculator.calculateFilesHash sha256 files other).outcome := by
  have sorted := ((sortBy_perm PathBuf.key paths).trans perm).trans
    (sortBy_perm PathBuf.key other).symm
  have keys := keys_eq_of_ascending sorted (sortBy_ascending PathBuf.key paths)
    (sortBy_ascending PathBuf.key other)
  have read := readFiles_related agree (sortBy_subset paths)
    (fun _ member => perm.mem_iff.mpr (mem_sortBy.mp member)) keys
  rw [outcome_eq_combinedHash, outcome_eq_combinedHash]
  cases left : (sortBy PathBuf.key paths).mapM (readFile files) with
  | ok contents =>
      obtain ⟨_, same, rfl⟩ := read.exists_of_ok left
      rw [same]
      rfl
  | error error =>
      obtain ⟨other, same, failures⟩ := read.exists_of_error left
      rw [same]
      exact failures

/-- The hash is made of the contents of any ascending list of the paths. -/
theorem outcome_eq_ok_iff (sha256 : List UInt8 → Digest) {files : FileView}
    {paths sorted : List PathBuf} (agree : EqualPathsAgree files paths)
    (perm : paths.Perm sorted) (ascending : Ascending sorted) (hash : String)
    : (HashCalculator.calculateFilesHash sha256 files paths).outcome = .ok hash
      ↔ ∃ contents, sorted.mapM files.read = .ok contents
          ∧ combinedHash sha256 contents = hash := by
  have keys := keys_eq_of_ascending (perm.symm.trans (sortBy_perm PathBuf.key paths).symm)
    ascending (sortBy_ascending PathBuf.key paths)
  have related := readFiles_related agree (fun _ member => perm.mem_iff.mpr member)
    (sortBy_subset paths) keys
  simp only [outcome_eq_combinedHash, ← mapM_readFile_eq_ok_iff]
  cases left : sorted.mapM (readFile files) with
  | ok contents =>
      obtain ⟨_, same, rfl⟩ := related.exists_of_ok left
      simp [same, Except.map]
  | error error =>
      obtain ⟨_, same, _⟩ := related.exists_of_error left
      simp [same, Except.map]

/-- A hash comes out exactly when every listed file can be read. -/
theorem exists_hash_iff (sha256 : List UInt8 → Digest) (files : FileView)
    (paths : List PathBuf)
    : (∃ hash, (HashCalculator.calculateFilesHash sha256 files paths).outcome = .ok hash)
      ↔ ∀ path ∈ paths, ∃ content, files.read path = .ok content := by
  have reads : (∃ contents, (sortBy PathBuf.key paths).mapM (readFile files) = .ok contents)
      ↔ ∀ path ∈ paths, ∃ content, files.read path = .ok content := by
    simp only [exists_mapM_eq_ok_iff, mem_sortBy, readFile_eq_ok_iff]
  rw [← reads, outcome_eq_combinedHash]
  cases (sortBy PathBuf.key paths).mapM (readFile files) <;> simp [Except.map]

/-- A renaming that keeps the strict order of the paths keeps the hash.
Witness: the renamed paths in ascending order come from an ascending list of the paths.
-/
theorem outcome_of_renamed (sha256 : List UInt8 → Digest) {files other : FileView}
    {paths : List PathBuf} {rename : PathBuf → PathBuf} (agree : EqualPathsAgree files paths)
    (strict : ∀ left ∈ paths, ∀ right ∈ paths, left.key < right.key
      → (rename left).key < (rename right).key)
    (carried : ∀ path ∈ paths, ∀ content,
      files.read path = .ok content ↔ other.read (rename path) = .ok content)
    (hash : String)
    : (HashCalculator.calculateFilesHash sha256 files paths).outcome = .ok hash
      ↔ (HashCalculator.calculateFilesHash sha256 other (paths.map rename)).outcome
        = .ok hash := by
  let sorted := sortBy (fun path => (rename path).key) paths
  have perm : paths.Perm sorted := (sortBy_perm _ paths).symm
  have inPaths (path : PathBuf) (member : path ∈ sorted) : path ∈ paths :=
    mem_sortBy.mp member
  have ascending : Ascending sorted := by
    refine (sortBy_ascending _ paths).imp_of_mem ?_
    intro left right leftMember rightMember ordered
    by_contra above
    have below := strict right (inPaths right rightMember) left (inPaths left leftMember)
      (not_le.mp above)
    exact absurd ordered (not_le.mpr below)
  have renamed : sorted.map rename = sortBy PathBuf.key (paths.map rename) := by
    apply map_sortBy
    exact fun _ _ _ _ => Iff.rfl
  have read (contents : List (List UInt8))
      : sorted.mapM files.read = .ok contents
        ↔ (sorted.map rename).mapM other.read = .ok contents := by
    rw [List.mapM_map]
    exact mapM_eq_ok_congr fun path member => carried path (inPaths path member)
  rw [outcome_eq_ok_iff sha256 agree perm ascending, outcome_eq_combinedHash, ← renamed]
  simp only [read, ← mapM_readFile_eq_ok_iff]
  cases (sorted.map rename).mapM (readFile other) <;> simp [Except.map]

/-- The combined hash is determined by the contents in ascending path order, all of them or
none.
-/
theorem calculateFilesHash_inOrder (sha256 : List UInt8 → Digest) {files : FileView}
    {paths : List PathBuf} (agree : EqualPathsAgree files paths)
    : HashesInOrder sha256 files paths where
  permuted _ perm := outcome_of_perm sha256 agree perm
  readable := exists_hash_iff sha256 files paths
  value sorted contents perm ascending read :=
    (outcome_eq_ok_iff sha256 agree perm ascending _).mpr ⟨contents, read, rfl⟩
  empty := by
    rintro rfl
    rfl
  renamed _ _ strict carried := outcome_of_renamed sha256 agree strict carried

/-- Two files that can be read. -/
def lockFiles : FileView where
  glob _ := .ok []
  isFile path := path = PathBuf.ofStr "a.lock" ∨ path = PathBuf.ofStr "b.lock"
  read path :=
    if path = PathBuf.ofStr "a.lock" then .ok (asBytes "1")
    else if path = PathBuf.ofStr "b.lock" then .ok (asBytes "2")
    else .error { message := "No such file or directory (os error 2)" }

/-- A list that names `b.lock` twice. -/
theorem calculateFilesHash_inOrder_lockFiles
    : HashesInOrder (fun _ => Vector.replicate 32 7) lockFiles
        [PathBuf.ofStr "b.lock", PathBuf.ofStr "a.lock", PathBuf.ofStr "b.lock"] := by
  apply calculateFilesHash_inOrder
  have apart : ∀ left ∈ ["b.lock", "a.lock", "b.lock"].map PathBuf.ofStr,
      ∀ right ∈ ["b.lock", "a.lock", "b.lock"].map PathBuf.ofStr,
      left.components = right.components → left = right := by
    decide
  intro left leftMember right rightMember same content
  obtain rfl := apart left leftMember right rightMember same
  exact id

end Cafce
